import MountSweep.Proofs.Unicode.Folding
import MountSweep.Proofs.Yaml.Spellings
import MountSweep.Time.Human

namespace MountSweep.Time.Human

open Yaml

def TimeUnit.nanos : TimeUnit → ℕ
  | .nanosecond => 1
  | .microsecond => 1000
  | .millisecond => 1000000
  | .second => Span.nanosPerSec
  | .minute => 60 * Span.nanosPerSec
  | .hour => 3600 * Span.nanosPerSec
  | .day => 86400 * Span.nanosPerSec
  | .week => 604800 * Span.nanosPerSec
  | .month => 2630016 * Span.nanosPerSec
  | .year => 31557600 * Span.nanosPerSec

def unspaced (cs : List Char) : List Char := cs.filter fun c ↦ !Unicode.isSpace c

/-- A number and the name of a unit right behind it stand for so many nanoseconds. Among the digits,
white space does not count. -/
inductive Term : List Char → ℕ → Prop
  | whole {digits : List Char} {name : String} {u : TimeUnit} {n : ℕ}
      (hn : Numeral 10 (unspaced digits) n) (hname : name ∈ u.spellings) :
      Term (digits ++ name.toList) (n * u.nanos)
  | places {digits places : List Char} {name : String} {u : TimeUnit} {n p v : ℕ}
      (hn : Numeral 10 (unspaced digits) n) (hp : Numeral 10 (unspaced places) p)
      (hname : name ∈ u.spellings)
      (hv : v * 10 ^ (unspaced places).length =
        (n * 10 ^ (unspaced places).length + p) * u.nanos) :
      Term (digits ++ '.' :: places ++ name.toList) v

inductive Total : List Char → ℕ → Prop
  | last {t gap : List Char} {v : ℕ} (h : Term t v) (hgap : ∀ c ∈ gap, Unicode.isSpace c) :
      Total (t ++ gap) v
  | more {t cs : List Char} {v w : ℕ} (h : Term t v) (hrest : Total cs w) :
      Total (t ++ cs) (v + w)

def Spells (cs : List Char) (s : Span) : Prop := cs = ['0'] ∧ s = ⟨0⟩ ∨ Total cs s.nanos

section

variable {n d m p q k fuel : ℕ} {c : Char} {cs rest front back gap : List Char} {u : TimeUnit}
  {name : String} {total s : Span}

theorem unspaced_append : unspaced (front ++ back) = unspaced front ++ unspaced back :=
  List.filter_append ..

theorem unspaced_of_isSpace (h : ∀ c ∈ gap, Unicode.isSpace c) : unspaced gap = [] := by
  refine List.filter_eq_nil_iff.mpr fun c hc ↦ ?_
  simp [h c hc]

theorem isSpace_toNat (h : Unicode.isSpace c) (hc : c.toNat < 128) :
    c.toNat = 32 ∨ 9 ≤ c.toNat ∧ c.toNat ≤ 13 := by
  unfold Unicode.isSpace at h
  rw [if_pos hc] at h
  simp only [Bool.or_eq_true, beq_iff_eq, Bool.and_eq_true, decide_eq_true_eq] at h
  rcases h with rfl | h
  · exact .inl rfl
  · exact .inr h

theorem not_isSpace_of_isDigit (h : c.isDigit) : Unicode.isSpace c = false := by
  obtain ⟨hlow, hhigh⟩ : 48 ≤ c.toNat ∧ c.toNat ≤ 57 := Char.isDigit_iff_toNat.mp h
  by_contra hspace
  have := isSpace_toNat (by simpa using hspace) (by omega)
  omega

/-- Whether a character may stand in front of the point or the name of a unit. -/
def isNumeric (c : Char) : Bool := c.isDigit || Unicode.isSpace c

theorem isNumeric_of_isUnitChar (h : isUnitChar c) : isNumeric c = false := by
  unfold isUnitChar at h
  rcases Bool.or_eq_true_iff.mp h with h | h
  · have hc := Unicode.toNat_of_isAlpha h
    by_contra hnum
    rcases Bool.or_eq_true_iff.mp (eq_true_of_ne_false hnum) with hdigit | hspace
    · have : 48 ≤ c.toNat ∧ c.toNat ≤ 57 := Char.isDigit_iff_toNat.mp hdigit
      omega
    · have := isSpace_toNat hspace (by omega)
      omega
  · cases eq_of_beq h
    decide +kernel

theorem isNumeric_of_numeral (h : Numeral 10 (unspaced cs) n) : ∀ c ∈ cs, isNumeric c := by
  intro c hc
  by_cases hspace : Unicode.isSpace c
  · simp [isNumeric, hspace]
  · have := h.2.isDigit c (List.mem_filter.mpr ⟨hc, by simpa using hspace⟩)
    simp [isNumeric, this]

theorem isUnitChar_of_spelling (h : name ∈ u.spellings) :
    name.toList ≠ [] ∧ ∀ c ∈ name.toList, isUnitChar c := by
  have hall : ∀ name ∈ u.spellings, name.toList ≠ [] ∧ name.toList.all isUnitChar := by
    cases u <;> decide
  exact (hall name h).imp_right List.all_eq_true.mp

theorem ofChars?_of_spelling (h : name ∈ u.spellings) : TimeUnit.ofChars? name.toList = some u := by
  have hall : ∀ name ∈ u.spellings, TimeUnit.ofChars? name.toList = some u := by
    cases u <;> decide
  exact hall name h

theorem spelling_of_ofChars? (h : TimeUnit.ofChars? cs = some u) :
    ∃ name ∈ u.spellings, name.toList = cs := by
  have hu := List.find?_some h
  obtain ⟨name, hname, heq⟩ := List.any_eq_true.mp hu
  exact ⟨name, hname, of_decide_eq_true heq⟩

theorem unspaced_cons_digit (h : c.isDigit) : unspaced (c :: cs) = c :: unspaced cs := by
  rw [unspaced, List.filter_cons_of_pos (by simp [not_isSpace_of_isDigit h])]
  rfl

theorem unspaced_cons_space (h : Unicode.isSpace c) : unspaced (c :: cs) = unspaced cs := by
  rw [unspaced, List.filter_cons_of_neg (by simp [h])]
  rfl

theorem eq_of_bounded (h : bounded n = some m) : m = n := by
  unfold bounded at h
  split at h
  · cases h
    rfl
  · cases h

theorem number_eq_some (h : number n cs = some (m, rest)) :
    ∃ front k, cs = front ++ rest ∧ Digits 10 (unspaced front) k ∧
      m = n * 10 ^ (unspaced front).length + k ∧ ∀ c ∈ rest.head?, isNumeric c = false := by
  induction cs generalizing n with
  | nil =>
    cases h
    exact ⟨[], 0, rfl, .nil, by simp [unspaced], nofun⟩
  | cons c cs ih =>
    unfold number at h
    split at h
    · next hc =>
      obtain ⟨n', hn, h⟩ := Option.bind_eq_some_iff.mp h
      obtain ⟨front, k, rfl, hk, rfl, hrest⟩ := ih h
      obtain ⟨hd, hlt⟩ := isDigit_of_decimal hc
      refine ⟨c :: front, _, rfl, by rw [unspaced_cons_digit hc]; exact .cons hd hlt hk, ?_, hrest⟩
      rw [eq_of_bounded hn, unspaced_cons_digit hc, List.length_cons]
      ring
    · next hc =>
      split at h
      · next hspace =>
        obtain ⟨front, k, rfl, hk, rfl, hrest⟩ := ih h
        refine ⟨c :: front, k, rfl, ?_, ?_, hrest⟩ <;> rw [unspaced_cons_space hspace]
        exact hk
      · next hspace =>
        cases h
        refine ⟨[], 0, rfl, .nil, by simp [unspaced], ?_⟩
        rintro _ ⟨⟩
        simp [isNumeric, hc, hspace]

theorem numeral_of_number (hc : c.isDigit) (h : number 0 (c :: cs) = some (n, rest)) :
    ∃ front, c :: cs = front ++ rest ∧ Numeral 10 (unspaced front) n := by
  obtain ⟨front, k, hcs, hk, rfl, hrest⟩ := number_eq_some h
  rw [Nat.zero_mul, Nat.zero_add]
  obtain _ | ⟨c', front⟩ := front
  · rw [List.nil_append] at hcs
    subst hcs
    have hnum := hrest c rfl
    simp [isNumeric, hc] at hnum
  · cases hcs
    refine ⟨_, rfl, ?_, hk⟩
    rw [unspaced_cons_digit hc]
    exact List.cons_ne_nil _ _

theorem fraction_eq_some (h : fraction n d cs = some ((p, q), rest)) :
    ∃ front k, cs = front ++ rest ∧ Digits 10 (unspaced front) k ∧
      p = n * 10 ^ (unspaced front).length + k ∧ q = d * 10 ^ (unspaced front).length := by
  induction cs generalizing n d with
  | nil =>
    cases h
    exact ⟨[], 0, rfl, .nil, by simp [unspaced], by simp [unspaced]⟩
  | cons c cs ih =>
    unfold fraction at h
    split at h
    · next hc =>
      obtain ⟨d', hd', h⟩ := Option.bind_eq_some_iff.mp h
      obtain ⟨n', hn, h⟩ := Option.bind_eq_some_iff.mp h
      obtain ⟨front, k, rfl, hk, rfl, rfl⟩ := ih h
      obtain ⟨hd, hlt⟩ := isDigit_of_decimal hc
      refine ⟨c :: front, _, rfl, by rw [unspaced_cons_digit hc]; exact .cons hd hlt hk, ?_, ?_⟩
      · rw [eq_of_bounded hn, unspaced_cons_digit hc, List.length_cons]
        ring
      · rw [eq_of_bounded hd', unspaced_cons_digit hc, List.length_cons]
        ring
    · split at h
      · next hspace =>
        obtain ⟨front, k, rfl, hk, rfl, rfl⟩ := ih h
        refine ⟨c :: front, k, rfl, ?_, ?_, ?_⟩ <;> rw [unspaced_cons_space hspace]
        exact hk
      · cases h
        exact ⟨[], 0, rfl, .nil, by simp [unspaced], by simp [unspaced]⟩

theorem amount_eq_some {a : ℕ × ℕ} (h : amount u n = some a) :
    a.1 * Span.nanosPerSec + a.2 = n * u.nanos := by
  cases u with
  | nanosecond | second =>
    cases h
    simp [TimeUnit.nanos]
  | _ =>
    obtain ⟨m, hm, rfl⟩ := Option.map_eq_some_iff.mp h
    rw [eq_of_bounded hm]
    simp only [TimeUnit.nanos]
    ring

theorem exactly_eq_some {scale : ℕ} (h : exactly n scale d = some m) : m * d = n * scale := by
  obtain ⟨k, hk, h⟩ := Option.bind_eq_some_iff.mp h
  cases eq_of_bounded hk
  split at h
  · next hmod =>
    cases h
    exact Nat.div_mul_cancel (Nat.dvd_of_mod_eq_zero hmod)
  · cases h

theorem fractionAmount_eq_some {a : ℕ × ℕ} (h : fractionAmount u p q = some a) :
    (a.1 * Span.nanosPerSec + a.2) * q = p * u.nanos := by
  cases u with
  | nanosecond => cases h
  | microsecond | millisecond | second | minute =>
    obtain ⟨m, hm, rfl⟩ := Option.map_eq_some_iff.mp h
    rw [Nat.zero_mul, Nat.zero_add, exactly_eq_some hm]
    rfl
  | _ =>
    obtain ⟨m, hm, rfl⟩ := Option.map_eq_some_iff.mp h
    rw [Nat.add_zero, Nat.mul_right_comm, exactly_eq_some hm, Nat.mul_assoc]
    rfl

theorem add_eq_some {a : ℕ × ℕ} (h : add total a = some s) :
    s.nanos = total.nanos + (a.1 * Span.nanosPerSec + a.2) := by
  obtain ⟨secs, nanos⟩ := a
  obtain ⟨-, -, h⟩ := Option.bind_eq_some_iff.mp h
  dsimp only at h
  split at h
  · cases h
    dsimp only
    omega
  · cases h

theorem afterUnit_eq_some {more : Option (List Char)} (h : afterUnit cs = some more) :
    ∃ gap, (∀ c ∈ gap, Unicode.isSpace c) ∧ cs = gap ++ more.getD [] ∧
      ∀ cs' ∈ more, ∃ c rest, cs' = c :: rest ∧ c.isDigit := by
  induction cs with
  | nil =>
    cases h
    exact ⟨[], nofun, rfl, nofun⟩
  | cons c cs ih =>
    unfold afterUnit at h
    split at h
    · next hc =>
      cases h
      refine ⟨[], nofun, rfl, ?_⟩
      rintro _ ⟨⟩
      exact ⟨c, cs, rfl, hc⟩
    · split at h
      · next hspace =>
        obtain ⟨gap, hgap, hcs, hmore⟩ := ih h
        exact ⟨c :: gap, List.forall_mem_cons.mpr ⟨hspace, hgap⟩, by rw [hcs]; rfl, hmore⟩
      · cases h

theorem Term.spaced {t : List Char} {v : ℕ} (h : Term t v) (hgap : ∀ c ∈ gap, Unicode.isSpace c) :
    Term (gap ++ t) v := by
  cases h with
  | whole hn hname =>
    rw [← List.append_assoc]
    exact .whole (by rwa [unspaced_append, unspaced_of_isSpace hgap, List.nil_append]) hname
  | places hn hp hname hv =>
    rw [← List.append_assoc, ← List.append_assoc]
    exact .places (by rwa [unspaced_append, unspaced_of_isSpace hgap, List.nil_append]) hp hname hv

theorem Total.spaced {v : ℕ} (h : Total cs v) (hgap : ∀ c ∈ gap, Unicode.isSpace c) :
    Total (gap ++ cs) v := by
  cases h with
  | last h hgap' =>
    rw [← List.append_assoc]
    exact .last (h.spaced hgap) hgap'
  | more h hrest =>
    rw [← List.append_assoc]
    exact .more (h.spaced hgap) hrest

theorem places_of_fraction (h : fraction 0 1 cs = some ((p, q), rest)) (hq : q ≠ 1) :
    ∃ places, cs = places ++ rest ∧ Numeral 10 (unspaced places) p ∧
      q = 10 ^ (unspaced places).length := by
  obtain ⟨places, k, hcs, hk, rfl, rfl⟩ := fraction_eq_some h
  rw [Nat.one_mul] at hq
  refine ⟨places, hcs, ⟨fun hnil ↦ hq (by rw [hnil]; rfl), ?_⟩, Nat.one_mul _⟩
  rwa [Nat.zero_mul, Nat.zero_add]

theorem Term.of_amount {digits : List Char} {a : ℕ × ℕ} (hn : Numeral 10 (unspaced digits) n)
    (hname : name ∈ u.spellings) (ha : amount u n = some a) :
    Term (digits ++ name.toList) (a.1 * Span.nanosPerSec + a.2) := by
  rw [amount_eq_some ha]
  exact .whole hn hname

theorem Term.of_amounts {digits places : List Char} {a b : ℕ × ℕ}
    (hn : Numeral 10 (unspaced digits) n) (hp : Numeral 10 (unspaced places) p)
    (hname : name ∈ u.spellings) (ha : amount u n = some a)
    (hb : fractionAmount u p (10 ^ (unspaced places).length) = some b) :
    Term (digits ++ '.' :: places ++ name.toList)
      (a.1 * Span.nanosPerSec + a.2 + (b.1 * Span.nanosPerSec + b.2)) := by
  refine .places hn hp hname ?_
  rw [Nat.add_mul, fractionAmount_eq_some hb, amount_eq_some ha]
  ring

theorem append_unit (h : name.toList = rest.takeWhile isUnitChar) :
    front ++ rest = front ++ name.toList ++ rest.dropWhile isUnitChar := by
  rw [h, List.append_assoc, List.takeWhile_append_dropWhile]

theorem terms_eq_some (hc : c.isDigit) (h : terms fuel total (c :: cs) = some s) :
    ∃ v, Total (c :: cs) v ∧ s.nanos = total.nanos + v := by
  induction fuel generalizing total c cs with
  | zero => cases h
  | succ fuel ih =>
    -- behind a term, either more of them follow or nothing but white space
    have hrest {t back : List Char} {v : ℕ} {total : Span} {more : Option (List Char)}
        (ht : Term t v) (hmore : afterUnit back = some more)
        (hs : more.elim (some total) (terms fuel total) = some s) :
        ∃ w, Total (t ++ back) (v + w) ∧ s.nanos = total.nanos + w := by
      obtain ⟨gap, hgap, hgaps, hdigit⟩ := afterUnit_eq_some hmore
      rw [hgaps]
      cases more with
      | none =>
        cases hs
        exact ⟨0, .last ht (by simpa using hgap), rfl⟩
      | some cs' =>
        obtain ⟨c', rest, rfl, hc'⟩ := hdigit cs' rfl
        obtain ⟨w, hw, hs⟩ := ih hc' hs
        exact ⟨w, .more ht (hw.spaced hgap), hs⟩
    unfold terms at h
    obtain ⟨⟨n, rest⟩, hnumber, h⟩ := Option.bind_eq_some_iff.mp h
    obtain ⟨digits, hcs, hn⟩ := numeral_of_number hc hnumber
    rw [hcs]
    dsimp only at h
    split at h
    · next rest =>
      obtain ⟨⟨⟨p, q⟩, rest'⟩, hfraction, h⟩ := Option.bind_eq_some_iff.mp h
      dsimp only at h
      split at h
      · cases h
      next hq =>
      obtain ⟨places, hrest', hp, rfl⟩ := places_of_fraction hfraction hq
      obtain ⟨_, hpair, h⟩ := Option.bind_eq_some_iff.mp h
      cases hpair
      obtain ⟨u, hu, h⟩ := Option.bind_eq_some_iff.mp h
      obtain ⟨name, hname, hu⟩ := spelling_of_ofChars? hu
      obtain ⟨total₁, htotal₁, h⟩ := Option.bind_eq_some_iff.mp h
      obtain ⟨a, ha, hwhole⟩ := Option.bind_eq_some_iff.mp htotal₁
      obtain ⟨total₂, htotal₂, h⟩ := Option.bind_eq_some_iff.mp h
      obtain ⟨b, hb, hpart⟩ := Option.bind_eq_some_iff.mp htotal₂
      obtain ⟨more, hmore, h⟩ := Option.bind_eq_some_iff.mp h
      obtain ⟨w, hw, hs⟩ := hrest (.of_amounts hn hp hname ha hb) hmore
        (by cases more <;> exact h)
      rw [hrest', ← List.cons_append, ← List.append_assoc, append_unit hu]
      refine ⟨_, hw, ?_⟩
      rw [hs, add_eq_some hpart, add_eq_some hwhole]
      omega
    · obtain ⟨_, hpair, h⟩ := Option.bind_eq_some_iff.mp h
      cases hpair
      obtain ⟨u, hu, h⟩ := Option.bind_eq_some_iff.mp h
      obtain ⟨name, hname, hu⟩ := spelling_of_ofChars? hu
      obtain ⟨total₁, htotal₁, h⟩ := Option.bind_eq_some_iff.mp h
      obtain ⟨a, ha, hwhole⟩ := Option.bind_eq_some_iff.mp htotal₁
      obtain ⟨_, hsame, h⟩ := Option.bind_eq_some_iff.mp h
      cases hsame
      obtain ⟨more, hmore, h⟩ := Option.bind_eq_some_iff.mp h
      obtain ⟨w, hw, hs⟩ := hrest (.of_amount hn hname ha) hmore (by cases more <;> exact h)
      rw [append_unit hu]
      refine ⟨_, hw, ?_⟩
      rw [hs, add_eq_some hwhole, Nat.add_assoc]

theorem spells_of_parse? (h : parse? cs = some s) : Spells cs s := by
  unfold parse? at h
  split at h
  · next hzero =>
    cases h
    exact .inl ⟨hzero, rfl⟩
  · right
    split at h
    · next c rest hcs =>
      split at h
      · next hc =>
        obtain ⟨v, hv, hs⟩ := terms_eq_some hc h
        have hall : ∀ c ∈ cs.takeWhile Unicode.isSpace, Unicode.isSpace c :=
          List.all_eq_true.mp List.all_takeWhile
        rw [hs, Nat.zero_add, ← List.takeWhile_append_dropWhile (l := cs), hcs]
        exact hv.spaced hall
      · cases h
    · cases h

/-- Two beginnings that belong to a class of characters are the same if no such character follows
either of them. -/
theorem runs_unique {P : Char → Bool} {xs xs' ys ys' : List Char} (hx : ∀ c ∈ xs, P c)
    (hx' : ∀ c ∈ xs', P c) (hy : ∀ c ∈ ys.head?, P c = false) (hy' : ∀ c ∈ ys'.head?, P c = false)
    (h : xs ++ ys = xs' ++ ys') : xs = xs' ∧ ys = ys' := by
  have hrun (xs ys : List Char) (hx : ∀ c ∈ xs, P c) (hy : ∀ c ∈ ys.head?, P c = false) :
      (xs ++ ys).takeWhile P = xs := by
    rw [List.takeWhile_append_of_pos hx]
    cases ys with
    | nil => simp
    | cons y ys => rw [List.takeWhile_cons_of_neg (by simpa using hy y rfl), List.append_nil]
  have hxs : xs = xs' := by rw [← hrun xs ys hx hy, h, hrun xs' ys' hx' hy']
  exact ⟨hxs, List.append_cancel_left (hxs ▸ h)⟩

theorem unit_unique {name' : String} {u' : TimeUnit} {back' : List Char} (h : name ∈ u.spellings)
    (h' : name' ∈ u'.spellings) (hback : ∀ c ∈ back.head?, isUnitChar c = false)
    (hback' : ∀ c ∈ back'.head?, isUnitChar c = false)
    (heq : name.toList ++ back = name'.toList ++ back') : u = u' ∧ back = back' := by
  obtain ⟨hname, hrest⟩ := runs_unique (isUnitChar_of_spelling h).2 (isUnitChar_of_spelling h').2
    hback hback' heq
  have hu := (ofChars?_of_spelling h).symm.trans (hname ▸ ofChars?_of_spelling h')
  exact ⟨Option.some.inj hu, hrest⟩

theorem spelling_head (back : List Char) (h : name ∈ u.spellings) :
    ∃ c cs, name.toList ++ back = c :: cs ∧ isUnitChar c := by
  obtain ⟨hne, hall⟩ := isUnitChar_of_spelling h
  obtain ⟨c, cs, hcs⟩ := List.exists_cons_of_ne_nil hne
  exact ⟨c, cs ++ back, by rw [hcs]; rfl, hall c (hcs ▸ List.mem_cons_self)⟩

theorem isNumeric_spelling_head (h : name ∈ u.spellings) :
    ∀ c ∈ (name.toList ++ back).head?, isNumeric c = false := by
  obtain ⟨c, cs, hcs, hc⟩ := spelling_head back h
  rw [hcs]
  rintro _ ⟨⟩
  exact isNumeric_of_isUnitChar hc

theorem isNumeric_point : ∀ c ∈ ('.' :: cs).head?, isNumeric c = false := by
  rintro _ ⟨⟩
  decide

theorem spelling_ne_point (h : name ∈ u.spellings) : name.toList ++ back ≠ '.' :: cs := by
  intro heq
  obtain ⟨c, cs', hcs, hc⟩ := spelling_head back h
  cases hcs.symm.trans heq
  cases hc

theorem Term.unique {t t' back' : List Char} {v v' : ℕ} (h : Term t v) (h' : Term t' v')
    (hback : ∀ c ∈ back.head?, isUnitChar c = false)
    (hback' : ∀ c ∈ back'.head?, isUnitChar c = false) (heq : t ++ back = t' ++ back') :
    v = v' ∧ back = back' := by
  cases h with
  | whole hn hname =>
    cases h' with
    | whole hn' hname' =>
      simp only [List.append_assoc] at heq
      obtain ⟨rfl, hrest⟩ := runs_unique (isNumeric_of_numeral hn) (isNumeric_of_numeral hn')
        (isNumeric_spelling_head hname) (isNumeric_spelling_head hname') heq
      obtain ⟨rfl, hbacks⟩ := unit_unique hname hname' hback hback' hrest
      exact ⟨by rw [hn.2.unique hn'.2], hbacks⟩
    | places hn' _ hname' _ =>
      simp only [List.append_assoc, List.cons_append] at heq
      obtain ⟨-, hrest⟩ := runs_unique (isNumeric_of_numeral hn) (isNumeric_of_numeral hn')
        (isNumeric_spelling_head hname) isNumeric_point heq
      exact absurd hrest (spelling_ne_point hname)
  | places hn hp hname hv =>
    cases h' with
    | whole hn' hname' =>
      simp only [List.append_assoc, List.cons_append] at heq
      obtain ⟨-, hrest⟩ := runs_unique (isNumeric_of_numeral hn) (isNumeric_of_numeral hn')
        isNumeric_point (isNumeric_spelling_head hname') heq
      exact absurd hrest.symm (spelling_ne_point hname')
    | places hn' hp' hname' hv' =>
      simp only [List.append_assoc, List.cons_append] at heq
      obtain ⟨rfl, hrest⟩ := runs_unique (isNumeric_of_numeral hn) (isNumeric_of_numeral hn')
        isNumeric_point isNumeric_point heq
      obtain ⟨rfl, hnames⟩ := runs_unique (isNumeric_of_numeral hp) (isNumeric_of_numeral hp')
        (isNumeric_spelling_head hname) (isNumeric_spelling_head hname') (List.cons.inj hrest).2
      obtain ⟨rfl, hbacks⟩ := unit_unique hname hname' hback hback' hnames
      rw [hn.2.unique hn'.2, hp.2.unique hp'.2, ← hv'] at hv
      exact ⟨Nat.eq_of_mul_eq_mul_right (Nat.pow_pos (by decide)) hv, hbacks⟩

theorem Term.unit_mem {t : List Char} {v : ℕ} (h : Term t v) : ∃ c ∈ t, isUnitChar c := by
  cases h with
  | whole _ hname | places _ _ hname _ =>
    obtain ⟨c, cs, hcs, hc⟩ := spelling_head [] hname
    rw [List.append_nil] at hcs
    exact ⟨c, by rw [hcs]; simp, hc⟩

theorem isUnitChar_of_isNumeric (h : isNumeric c) : isUnitChar c = false := by
  by_contra hunit
  rw [isNumeric_of_isUnitChar (eq_true_of_ne_false hunit)] at h
  cases h

theorem numeral_head (h : Numeral 10 (unspaced front) n) :
    ∀ c ∈ (front ++ back).head?, isUnitChar c = false := by
  obtain _ | ⟨c, front⟩ := front
  · exact absurd rfl h.1
  · rintro _ ⟨⟩
    exact isUnitChar_of_isNumeric (isNumeric_of_numeral h c List.mem_cons_self)

theorem Term.head {t : List Char} {v : ℕ} (h : Term t v) :
    ∀ c ∈ (t ++ back).head?, isUnitChar c = false := by
  cases h with
  | whole hn _ =>
    rw [List.append_assoc]
    exact numeral_head hn
  | places hn _ _ _ =>
    rw [List.append_assoc, List.append_assoc]
    exact numeral_head hn

theorem Total.head {v : ℕ} (h : Total cs v) : ∀ c ∈ cs.head?, isUnitChar c = false := by
  cases h with
  | last h _ | more h _ => exact h.head

theorem gap_head (h : ∀ c ∈ gap, Unicode.isSpace c) : ∀ c ∈ gap.head?, isUnitChar c = false := by
  intro c hc
  refine isUnitChar_of_isNumeric ?_
  simp [isNumeric, h c (List.mem_of_mem_head? hc)]

theorem Total.unit_mem {v : ℕ} (h : Total cs v) : ∃ c ∈ cs, isUnitChar c := by
  cases h with
  | last h _ | more h _ =>
    obtain ⟨c, hc, hunit⟩ := h.unit_mem
    exact ⟨c, List.mem_append_left _ hc, hunit⟩

theorem Total.not_gap {v : ℕ} (h : Total cs v) : ¬ ∀ c ∈ cs, Unicode.isSpace c := by
  intro hspace
  obtain ⟨c, hc, hunit⟩ := h.unit_mem
  have hnum := isNumeric_of_isUnitChar hunit
  simp [isNumeric, hspace c hc] at hnum

theorem Total.unique {v v' : ℕ} (h : Total cs v) (h' : Total cs v') : v = v' := by
  induction h generalizing v' with
  | @last t gap v h hgap =>
    generalize hcs : t ++ gap = cs at h'
    cases h' with
    | last h' hgap' => exact (h.unique h' (gap_head hgap) (gap_head hgap') hcs).1
    | more h' hrest =>
      obtain ⟨-, rfl⟩ := h.unique h' (gap_head hgap) hrest.head hcs
      exact absurd hgap hrest.not_gap
  | @more t rest v w h hrest ih =>
    generalize hcs : t ++ rest = cs at h'
    cases h' with
    | last h' hgap' =>
      obtain ⟨-, rfl⟩ := h.unique h' hrest.head (gap_head hgap') hcs
      exact absurd hgap' hrest.not_gap
    | more h' hrest' =>
      obtain ⟨rfl, rfl⟩ := h.unique h' hrest.head hrest'.head hcs
      rw [ih hrest']

theorem Spells.unique {s' : Span} (h : Spells cs s) (h' : Spells cs s') : s = s' := by
  have hzero {v : ℕ} : ¬ Total ['0'] v := by
    intro h
    obtain ⟨c, hc, hunit⟩ := h.unit_mem
    cases List.mem_singleton.mp hc
    cases hunit
  rcases h with ⟨rfl, rfl⟩ | h <;> rcases h' with ⟨hcs, rfl⟩ | h'
  · rfl
  · exact absurd h' hzero
  · exact absurd (hcs ▸ h) hzero
  · exact congrArg Span.mk (h.unique h')

end

end MountSweep.Time.Human
