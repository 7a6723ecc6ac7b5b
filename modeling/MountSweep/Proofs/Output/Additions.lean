import MountSweep.Proofs.Output.Allowance
import MountSweep.Proofs.Output.Verdict

namespace MountSweep.Regex

/-- A gap between characters that are left, from which at least one character was removed. -/
def Seam (ws : List Span) (cs : List Char) (g : ℕ) : Prop :=
  ∃ u c v, cs = u ++ c :: v ∧ ws.any (·.covers u.length) ∧ (cut ws u).length = g

variable {ws : List Span} {cs x y : List Char} {i : ℕ} {c : Char}

/-- The last character before a gap is left if no character was removed from that gap. -/
theorem getLast?_cut {u : List Char}
    (h : ∀ x c, u = x ++ [c] → (cut ws x).length = (cut ws u).length →
      ¬ ws.any (·.covers x.length)) : (cut ws u).getLast? = u.getLast? := by
  rcases List.eq_nil_or_concat' u with rfl | ⟨x, c, rfl⟩
  · rfl
  · have hlast := cut_append ws x [c]
    by_cases hc : ws.any (·.covers x.length)
    · rw [cutFrom_singleton, if_pos hc, List.append_nil] at hlast
      exact absurd hc (h x c rfl (by rw [hlast]))
    · rw [hlast, cutFrom_singleton, if_neg hc, List.getLast?_concat, List.getLast?_concat]

theorem head?_cutFrom {w : List Char} (h : w ≠ [] → ¬ ws.any (·.covers i)) :
    (cutFrom i ws w).head? = w.head? := by
  cases w with
  | nil => rfl
  | cons c w =>
    rw [← List.singleton_append, cutFrom_append, cutFrom_singleton, if_neg (h (by simp))]
    rfl

/-- A text that stands in what is left, with no seam in it or at its ends, has stood in the whole
text between the same characters. -/
theorem Language.Occurs.of_cut {L : Language} {pre m post : List Char}
    (h : L.Occurs (cut ws cs) pre m post)
    (hseam : ∀ g, pre.length ≤ g → g ≤ pre.length + m.length → ¬ Seam ws cs g) :
    ∃ pre' post', L.Occurs cs pre' m post' := by
  obtain ⟨hcut, hm⟩ := h
  obtain ⟨uv, w, rfl, huv, hw⟩ := cutFrom_eq_append hcut
  obtain ⟨u, v, rfl, hu, hv⟩ := cutFrom_eq_append huv
  rw [Nat.zero_add] at hw hv
  change cut ws u = pre at hu
  -- The hit and its two neighbours are all as they were: a character missing there makes a seam.
  have hkept (x : List Char) (c : Char) (y : List Char) (hxy : u ++ v ++ w = x ++ c :: y)
      (hlo : pre.length ≤ (cut ws x).length) (hhi : (cut ws x).length ≤ pre.length + m.length) :
      ¬ ws.any (·.covers x.length) :=
    fun hc ↦ hseam _ hlo hhi ⟨x, c, y, hxy, hc, rfl⟩
  have hlast : pre.getLast? = u.getLast? := by
    rw [← hu]
    refine getLast?_cut fun x c hx hlen ↦ hkept x c (v ++ w) (by simp [hx]) ?_ ?_
    · rw [hlen, hu]
    · rw [hlen, hu]
      exact Nat.le_add_right ..
  have hmid : m = v := by
    rw [← hv]
    refine cutFrom_of_uncovered fun x c y hx ↦ ?_
    rw [← List.length_append]
    have hlen : (cut ws (u ++ x)).length = pre.length + (cutFrom u.length ws x).length := by
      rw [cut_append, hu, List.length_append]
    have hle : (cutFrom u.length ws x).length ≤ m.length := by
      rw [← hv, hx, cutFrom_append, List.length_append]
      exact Nat.le_add_right ..
    exact hkept (u ++ x) c (y ++ w) (by simp [hx]) (by omega) (by omega)
  have hhead : post.head? = w.head? := by
    rw [← hw]
    refine head?_cutFrom fun hne ↦ ?_
    obtain ⟨c, w, rfl⟩ := List.exists_cons_of_ne_nil hne
    have hlen : (cut ws (u ++ v)).length = pre.length + m.length := by
      rw [cut_append, hu, hv, List.length_append]
    exact hkept (u ++ v) c w rfl (by omega) (by omega)
  subst hmid
  rw [hlast, hhead] at hm
  exact ⟨u, w, rfl, hm⟩

end MountSweep.Regex

namespace MountSweep.Output

open Regex

def Suspicious : Language := Language.either WholeKeyword LeakHeading

def Surveillance.left (s : Surveillance) (c : Captured) : Stream → List Char
  | .stdout => (s.residual c).1
  | .stderr => (s.residual c).2

def Rule.removed (rule : Rule) (text : Stream → List Char) (stream : Stream) : List Span :=
  onStream stream (permitted rule.allowance
    (inOrder (rule.regex.spans (text .stdout)) (rule.regex.spans (text .stderr))))

namespace Surveillance

variable {s : Surveillance} {rule : Rule} {c : Captured} {x : SuspiciousOutput}

theorem left_register (stream : Stream) :
    (s.register rule).left c stream = cut (rule.removed (s.left c) stream) (s.left c stream) := by
  have hstrip : (s.register rule).residual c = rule.strip (s.residual c).1 (s.residual c).2 := by
    rw [residual, register, List.foldl_append]
    rfl
  cases stream with
  | stdout => rw [left, hstrip, strip_eq_cut]; rfl
  | stderr => rw [left, hstrip, strip_eq_cut]; rfl

theorem absent_of_classify_eq_ok (h : s.classify c = .ok ()) (stream : Stream) :
    Language.Absent Suspicious (s.left c stream) := by
  obtain ⟨hwe, hwo, hle, hlo⟩ := (classify_eq_ok_iff rfl).mp h
  rintro pre m post ⟨hcs, hm | hm⟩
  · cases stream with
    | stdout => exact hwo pre m post ⟨hcs, hm⟩
    | stderr => exact hwe pre m post ⟨hcs, hm⟩
  · cases stream with
    | stdout => exact hlo pre m post ⟨hcs, hm⟩
    | stderr => exact hle pre m post ⟨hcs, hm⟩

theorem occurs_of_classify_eq_error (h : s.classify c = .error x) :
    ∃ pre post, Suspicious.Occurs (s.left c x.stream) pre x.found.toList post := by
  have hr : Reports (s.left c .stdout) (s.left c .stderr) x.stream x.found.toList :=
    (classify_eq_error_iff rfl).mp h
  obtain ⟨stream, found⟩ := x
  cases hr with
  | wordOnErr hm | wordOnOut _ hm =>
    obtain ⟨pre, post, ⟨hcs, hm⟩, -⟩ := hm
    exact ⟨pre, post, hcs, .inl hm⟩
  | leakOnErr _ _ hm | leakOnOut _ _ _ hm =>
    obtain ⟨pre, post, ⟨hcs, hm⟩, -⟩ := hm
    exact ⟨pre, post, hcs, .inr hm⟩

/-- An output that is accepted may be rejected once a further rule is registered, but only for a
text that was put together, or cut off from its surroundings, by the removal of a match: in what the
rule leaves, a seam lies in that text or at one of its ends. -/
theorem register_rejects_only_at_seam (h : s.classify c = .ok ())
    (hx : (s.register rule).classify c = .error x) :
    ∃ pre post, Suspicious.Occurs (cut (rule.removed (s.left c) x.stream) (s.left c x.stream))
        pre x.found.toList post ∧
      ∃ g, pre.length ≤ g ∧ g ≤ pre.length + x.found.toList.length ∧
        Seam (rule.removed (s.left c) x.stream) (s.left c x.stream) g := by
  obtain ⟨pre, post, ho⟩ := occurs_of_classify_eq_error hx
  rw [left_register] at ho
  refine ⟨pre, post, ho, ?_⟩
  by_contra hno
  obtain ⟨pre', post', ho'⟩ := ho.of_cut fun g hlo hhi hseam ↦ hno ⟨g, hlo, hhi, hseam⟩
  exact absent_of_classify_eq_ok h x.stream _ _ _ ho'

def errorCount : Captured := ⟨Bytes.ofString "errors=0\n", []⟩

def errorCountRule : Rule := ⟨"s=0", Regex.literal "s=0".toList, 0⟩

/-- What the rule leaves reads `error`. -/
theorem removal_completes_keyword :
    Rule.ofLiteral? "s=0" 0 = .ok errorCountRule ∧
      ({} : Surveillance).classify errorCount = .ok () ∧
      (({} : Surveillance).register errorCountRule).classify errorCount =
        .error ⟨.stdout, "error"⟩ ∧
      ∃ pre post, Suspicious.Occurs
          (cut (errorCountRule.removed (({} : Surveillance).left errorCount) .stdout)
            (({} : Surveillance).left errorCount .stdout)) pre "error".toList post ∧
        ∃ g, pre.length ≤ g ∧ g ≤ pre.length + "error".toList.length ∧
          Seam (errorCountRule.removed (({} : Surveillance).left errorCount) .stdout)
            (({} : Surveillance).left errorCount .stdout) g := by
  have haccepted : ({} : Surveillance).classify errorCount = .ok () := by decide +kernel
  have hrejected : (({} : Surveillance).register errorCountRule).classify errorCount =
      .error ⟨.stdout, "error"⟩ := by decide +kernel
  exact ⟨by decide +kernel, haccepted, hrejected, register_rejects_only_at_seam haccepted hrejected⟩

end Surveillance

end MountSweep.Output
