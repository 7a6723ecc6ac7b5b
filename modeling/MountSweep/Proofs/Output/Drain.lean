import Mathlib.Data.List.Induction
import Mathlib.Order.Basic
import MountSweep.Output.Drain
import MountSweep.Output.Surveillance

namespace MountSweep.Output

namespace Capture

theorem step_chunk_append (c : Capture) (s : Stream) (xs ys : Bytes) :
    (c.step (.chunk s xs)).step (.chunk s ys) = c.step (.chunk s (xs ++ ys)) := by
  cases s with
  | stdout => by_cases hf : c.stdout.finished <;> simp [step, change, hf]
  | stderr => by_cases hf : c.stderr.finished <;> simp [step, change, hf]

theorem step_chunk_nil (c : Capture) (s : Stream) : c.step (.chunk s []) = c := by
  cases s <;> simp [step, change]

theorem after_arrivals (s : Stream) {fuel : ℕ} {bs : Bytes} (hfuel : bs.length ≤ fuel)
    (c : Capture) : c.after (arrivals s fuel bs) = c.step (.chunk s bs) := by
  induction fuel generalizing bs c with
  | zero =>
    obtain rfl := List.eq_nil_of_length_eq_zero (Nat.le_zero.mp hfuel)
    exact (c.step_chunk_nil s).symm
  | succ fuel ih =>
    cases bs with
    | nil => exact (c.step_chunk_nil s).symm
    | cons b bs =>
      have hrest : ((b :: bs).drop chunkSize).length ≤ fuel := by
        rw [List.length_cons] at hfuel
        rw [List.length_drop, List.length_cons, chunkSize]
        omega
      rw [arrivals, List.isEmpty_cons, if_neg Bool.false_ne_true, after, List.foldl_cons, ← after,
        ih hrest, step_chunk_append, List.take_append_drop]

theorem receive_eq_step (c : Capture) (s : Stream) (bs : Bytes) :
    c.receive s bs = c.step (.chunk s bs) :=
  after_arrivals s (Nat.le_refl _) c

theorem receive_append (c : Capture) (s : Stream) (xs ys : Bytes) :
    c.receive s (xs ++ ys) = (c.receive s xs).receive s ys := by
  rw [receive_eq_step, receive_eq_step, receive_eq_step, step_chunk_append]

end Capture

namespace Drain

variable {written : Stream → Bytes} {moves : List DrainMove} {d d' : Drain} {m : DrainMove}
  {s : Stream}

def chunk? (s : Stream) : DrainMove → Option Bytes
  | .keep s' bs => if s' = s then some bs else none
  | _ => none

def handedOver (s : Stream) (moves : List DrainMove) : Bytes :=
  (moves.filterMap (chunk? s)).flatten

theorem handedOver_snoc (s : Stream) (moves : List DrainMove) (m : DrainMove) :
    handedOver s (moves ++ [m]) = handedOver s moves ++ ((chunk? s m).getD []) := by
  rw [handedOver, handedOver, List.filterMap_append, List.flatten_append]
  cases h : chunk? s m <;> simp [h]

structure Sound (written : Stream → Bytes) (moves : List DrainMove) (s : Stream) (d : Drain) :
    Prop where
  kept : (d.capture.reader s).kept = handedOver s moves
  whole : (d.capture.reader s).kept ++ (d.task s).held ++ (d.task s).ahead = written s
  finished : (d.capture.reader s).finished = (d.task s).ended.isSome
  idle : (d.task s).ended.isSome → (d.task s).held = []
  atEnd : (d.task s).ended = some .endOfFile → (d.task s).ahead = []
  ended (e : Ending) : .finish s e ∈ moves ↔ (d.task s).ended = some e

theorem start_sound (written : Stream → Bytes) (s : Stream) :
    Sound written [] s (start written) where
  kept := by cases s <;> rfl
  whole := by cases s <;> rfl
  finished := by cases s <;> rfl
  idle := by simp [start]
  atEnd := by simp [start]
  ended := by simp [start]

theorem Sound.frame (h : Sound written moves s d) (htask : d'.task s = d.task s)
    (hreader : d'.capture.reader s = d.capture.reader s) (hchunk : chunk? s m = none)
    (hfinish : ∀ e, m ≠ .finish s e) : Sound written (moves ++ [m]) s d' where
  kept := by
    rw [hreader, handedOver_snoc, hchunk, Option.getD_none, List.append_nil]
    exact h.kept
  whole := by
    rw [hreader, htask]
    exact h.whole
  finished := by
    rw [hreader, htask]
    exact h.finished
  idle := by
    rw [htask]
    exact h.idle
  atEnd := by
    rw [htask]
    exact h.atEnd
  ended e := by
    rw [htask, ← h.ended e, List.mem_append, List.mem_singleton, or_iff_left (hfinish e).symm]

theorem Sound.read {bs rest : Bytes} (h : Sound written moves s d)
    (hended : (d.task s).ended = none) (hheld : (d.task s).held = [])
    (hahead : (d.task s).ahead = bs ++ rest) : Sound written (moves ++ [.read s bs]) s
      { d with task := Function.update d.task s { d.task s with ahead := rest, held := bs } } := by
  have hwhole := h.whole
  rw [hheld, hahead, List.append_nil] at hwhole
  exact {
    kept := by simpa [handedOver_snoc, chunk?] using h.kept
    whole := by simpa using hwhole
    finished := by simpa using h.finished
    idle := by simp [hended]
    atEnd := by simp [hended]
    ended := fun e ↦ by simpa using h.ended e }

theorem Sound.keep {bs : Bytes} (h : Sound written moves s d) (hheld : (d.task s).held = bs)
    (hbs : bs ≠ []) : Sound written (moves ++ [.keep s bs]) s
      { d with
        task := Function.update d.task s { d.task s with held := [] }
        capture := d.capture.step (.chunk s bs) } := by
  have hended : (d.task s).ended.isSome = false := by
    cases hsome : (d.task s).ended.isSome with
    | false => rfl
    | true => exact absurd (hheld.symm.trans (h.idle hsome)) hbs
  have hopen : (d.capture.reader s).finished = false := h.finished.trans hended
  have hwhole := h.whole
  rw [hheld] at hwhole
  exact {
    kept := by simp [handedOver_snoc, chunk?, Capture.step, hopen, h.kept]
    whole := by simpa [Capture.step, hopen] using hwhole
    finished := by simp [Capture.step, hopen, hended]
    idle := by simp
    atEnd := by simpa using h.atEnd
    ended := fun e ↦ by simpa using h.ended e }

theorem Sound.finish {e : Ending} (h : Sound written moves s d)
    (hended : (d.task s).ended = none) (hheld : (d.task s).held = [])
    (heof : e = .endOfFile → (d.task s).ahead = []) : Sound written (moves ++ [.finish s e]) s
      { d with
        task := Function.update d.task s { d.task s with ended := some e }
        capture := d.capture.step (.finish s) } where
  kept := by simpa [handedOver_snoc, chunk?, Capture.step] using h.kept
  whole := by simpa [Capture.step] using h.whole
  finished := by simp [Capture.step]
  idle := by simp [hheld]
  atEnd := by simpa using heof
  ended e' := by simp [h.ended e', hended, eq_comm]

theorem Step.sound (hm : Step d m d') (h : Sound written moves s d) :
    Sound written (moves ++ [m]) s d' := by
  cases hm with
  | @read s' bs rest hended hheld hahead hbs hsize =>
    by_cases hs : s = s'
    · subst hs
      exact h.read hended hheld hahead
    · exact h.frame (by simp [hs]) rfl rfl nofun
  | @keep s' bs hheld hbs =>
    by_cases hs : s = s'
    · subst hs
      exact h.keep hheld hbs
    · exact h.frame (by simp [hs]) (by simp [Capture.step, hs]) (by simp [chunk?, Ne.symm hs]) nofun
  | @finish s' e hended hheld heof =>
    by_cases hs : s = s'
    · subst hs
      exact h.finish hended hheld heof
    · exact h.frame (by simp [hs]) (by simp [Capture.step, hs]) rfl (by simp [Ne.symm hs])
  | close => exact h.frame rfl rfl rfl nofun
  | expire => exact h.frame rfl rfl rfl nofun
  | leave => exact h.frame rfl rfl rfl nofun
  | copyStdout => exact h.frame rfl rfl rfl nofun
  | copyStderr => exact h.frame rfl rfl rfl nofun

theorem Reaches.sound (h : Reaches written moves d) (s : Stream) : Sound written moves s d := by
  induction h with
  | start => exact start_sound written s
  | step _ hm ih => exact hm.sound ih

theorem Reaches.late_iff (h : Reaches written moves d) : d.late = true ↔ .expire ∈ moves := by
  induction h with
  | start => simp [Drain.start]
  | step _ hm ih => cases hm <;> simp [ih]

/-- Waiting for the task of a stream has been worth while, or the deadline has passed. -/
def Settled (d : Drain) (s : Stream) : Prop := (d.task s).ended.isSome ∨ d.late = true

theorem Step.settled (hm : Step d m d') (h : Settled d s) : Settled d' s := by
  cases hm with
  | @read s' | @keep s' =>
    rcases h with h | h
    · by_cases hs : s = s'
      · subst hs
        exact .inl (by simpa using h)
      · exact .inl (by simpa [hs] using h)
    · exact .inr h
  | @finish s' =>
    rcases h with h | h
    · by_cases hs : s = s'
      · subst hs
        exact .inl (by simp)
      · exact .inl (by simpa [hs] using h)
    · exact .inr h
  | expire => exact .inr rfl
  | close | leave | copyStdout | copyStderr => exact h

def isPast : DrainStage → Stream → Bool
  | .running, _ | .awaiting .stdout, _ => false
  | .awaiting .stderr, s => s = .stdout
  | .copying, _ | .copied _, _ | .over _, _ => true

theorem Reaches.settled (h : Reaches written moves d) (hpast : isPast d.stage s) :
    Settled d s := by
  induction h with
  | start => cases hpast
  | @step moves d d' m _ hm ih =>
    cases hm with
    | read hended hheld hahead hbs hsize =>
      exact (Step.read hended hheld hahead hbs hsize).settled (ih hpast)
    | keep hheld hbs => exact (Step.keep hheld hbs).settled (ih hpast)
    | finish hended hheld heof => exact (Step.finish hended hheld heof).settled (ih hpast)
    | close => cases hpast
    | expire hstage => exact .inr rfl
    | @leave s' hstage hdone =>
      cases s' with
      | stdout =>
        obtain rfl : s = .stdout := of_decide_eq_true hpast
        exact hdone
      | stderr =>
        cases s with
        | stdout => exact ih (by rw [hstage]; rfl)
        | stderr => exact hdone
    | copyStdout hstage => exact ih (by rw [hstage]; rfl)
    | copyStderr hstage => exact ih (by rw [hstage]; rfl)

def copied? : DrainStage → Stream → Option Bytes
  | .copied out, .stdout => some out
  | .over c, s => some (c.bytes s)
  | _, _ => none

theorem Step.copied_of_some (hm : Step d m d') {bs : Bytes} (h : copied? d.stage s = some bs) :
    copied? d'.stage s = some bs := by
  cases hm with
  | read | keep | finish | expire => exact h
  | close hstage | leave hstage | copyStdout hstage =>
    rw [hstage] at h
    cases h
  | copyStderr hstage =>
    rw [hstage] at h
    cases s with
    | stdout => exact h
    | stderr => cases h

theorem Step.copied_copy (hm : Step d (.copy s) d') :
    isPast d.stage s ∧ copied? d'.stage s = some (d.capture.reader s).kept := by
  cases hm with
  | copyStdout hstage =>
    rw [hstage]
    exact ⟨rfl, rfl⟩
  | copyStderr hstage =>
    rw [hstage]
    exact ⟨rfl, rfl⟩

theorem Reaches.copy_mem (h : Reaches written moves d) {bs : Bytes}
    (hbs : copied? d.stage s = some bs) : .copy s ∈ moves := by
  induction h with
  | start => cases hbs
  | @step moves d d' m _ hm ih =>
    rw [List.mem_append]
    cases hm with
    | read | keep | finish | expire => exact .inl (ih hbs)
    | close => cases hbs
    | @leave s' => cases s' <;> cases hbs
    | copyStdout =>
      cases s with
      | stdout => exact .inr (List.mem_singleton.mpr rfl)
      | stderr => cases hbs
    | @copyStderr out hstage =>
      cases s with
      | stdout => exact .inl (ih (by rw [hstage]; exact hbs))
      | stderr => exact .inr (List.mem_singleton.mpr rfl)

theorem reaches_snoc : Reaches written (moves ++ [m]) d' ↔
    ∃ d, Reaches written moves d ∧ Step d m d' := by
  constructor
  · intro h
    generalize hlast : moves ++ [m] = all at h
    cases h with
    | start => simp at hlast
    | @step moves' d _ m' h hm =>
      obtain ⟨rfl, hm'⟩ := List.append_inj' hlast rfl
      obtain rfl : m = m' := List.head_eq_of_cons_eq hm'
      exact ⟨d, h, hm⟩
  · rintro ⟨d, h, hm⟩
    exact h.step hm

theorem Reaches.copied_of_append {before after : List DrainMove}
    (h : Reaches written (before ++ after) d) : ∃ d₀, Reaches written before d₀ ∧
      ∀ s bs, copied? d₀.stage s = some bs → copied? d.stage s = some bs := by
  induction after using List.reverseRecOn generalizing d with
  | nil =>
    rw [List.append_nil] at h
    exact ⟨d, h, fun _ _ hbs ↦ hbs⟩
  | append_singleton after m ih =>
    rw [← List.append_assoc, reaches_snoc] at h
    obtain ⟨d₁, h₁, hm⟩ := h
    obtain ⟨d₀, h₀, hkeep⟩ := ih h₁
    exact ⟨d₀, h₀, fun s bs hbs ↦ hm.copied_of_some (hkeep s bs hbs)⟩

/-- What was copied of a stream is what the capture had kept of it when it was copied. -/
theorem Reaches.at_copy {before after : List DrainMove} {bs : Bytes}
    (h : Reaches written (before ++ .copy s :: after) d) (hbs : copied? d.stage s = some bs) :
    ∃ d₀, Reaches written before d₀ ∧ Settled d₀ s ∧ bs = (d₀.capture.reader s).kept := by
  rw [List.append_cons] at h
  obtain ⟨d₁, h₁, hkeep⟩ := h.copied_of_append
  obtain ⟨d₀, h₀, hm⟩ := reaches_snoc.mp h₁
  obtain ⟨hpast, hcopy⟩ := hm.copied_copy
  refine ⟨d₀, h₀, h₀.settled hpast, ?_⟩
  exact Option.some.inj (hbs.symm.trans (hkeep s _ hcopy))

theorem copied_over {c : Captured} (hover : d.stage = .over c) (s : Stream) :
    copied? d.stage s = some (c.bytes s) := by
  rw [hover]
  cases s <;> rfl

theorem Sound.isBeginning (h : Sound written moves s d) :
    (d.capture.reader s).kept <+: written s := by
  rw [← h.whole, List.append_assoc]
  exact List.prefix_append _ _

theorem Sound.kept_of_atEnd (h : Sound written moves s d)
    (hended : (d.task s).ended = some .endOfFile) : (d.capture.reader s).kept = written s := by
  have hwhole := h.whole
  rw [h.idle (by rw [hended]; rfl), h.atEnd hended, List.append_nil, List.append_nil] at hwhole
  exact hwhole

/-- Without a deadline, a fault or a stop, a task that is waited for comes to the end of its
stream. -/
theorem Reaches.atEnd (h : Reaches written moves d) (hsettled : Settled d s)
    (hexpire : .expire ∉ moves) (hfailed : .finish s .failed ∉ moves)
    (haborted : .finish s .aborted ∉ moves) : (d.task s).ended = some .endOfFile := by
  have hsound := h.sound s
  rcases hsettled with hended | hlate
  · obtain ⟨e, he⟩ := Option.isSome_iff_exists.mp hended
    cases e with
    | endOfFile => exact he
    | failed => exact absurd ((hsound.ended _).mpr he) hfailed
    | aborted => exact absurd ((hsound.ended _).mpr he) haborted
  · exact absurd (h.late_iff.mp hlate) hexpire

theorem Reaches.isBeginning {c : Captured} (h : Reaches written moves d)
    (hover : d.stage = .over c) (s : Stream) : c.bytes s <+: written s := by
  obtain ⟨before, after, rfl⟩ := List.append_of_mem (h.copy_mem (copied_over hover s))
  obtain ⟨d₀, h₀, -, hbytes⟩ := h.at_copy (copied_over hover s)
  rw [hbytes]
  exact (h₀.sound s).isBeginning

theorem Captured.ext_bytes {c c' : Captured} (h : ∀ s, c.bytes s = c'.bytes s) : c = c' := by
  obtain ⟨out, err⟩ := c
  obtain ⟨out', err'⟩ := c'
  rw [Captured.mk.injEq]
  exact ⟨h .stdout, h .stderr⟩

/-- A capture that is over holds a beginning of each stream: all that was handed over before it was
copied, and the whole stream if its task had come to the end of it, as it has unless the deadline
passed, reading failed or the task was stopped. So the texts and the verdict on them depend only on
how much was captured, not on the chunks; and what arrives in one piece is kept as if it had arrived
in two. -/
theorem capture_lossless {c : Captured} (h : Reaches written moves d) (hover : d.stage = .over c) :
    (∀ s, .copy s ∈ moves ∧ ∀ before after, moves = before ++ .copy s :: after →
      c.bytes s = handedOver s before ∧ c.bytes s <+: written s ∧
      (.finish s .endOfFile ∈ before → c.bytes s = written s) ∧
      (.expire ∉ before → .finish s .failed ∉ before → .finish s .aborted ∉ before →
        c.bytes s = written s)) ∧
    (∀ s, c.text s = Text.Utf8.decodeLossy ((written s).take (c.bytes s).length)) ∧
    (∀ moves' d' c', Reaches written moves' d' → d'.stage = .over c' →
      (∀ s, (c'.bytes s).length = (c.bytes s).length) →
        ∀ rules : Surveillance, rules.classify c' = rules.classify c) ∧
    ∀ (k : Capture) s xs ys, k.receive s (xs ++ ys) = (k.receive s xs).receive s ys := by
  have htake {moves' : List DrainMove} {d' : Drain} {c' : Captured}
      (h' : Reaches written moves' d') (hover' : d'.stage = .over c') (s : Stream) :
      c'.bytes s = (written s).take (c'.bytes s).length :=
    List.prefix_iff_eq_take.mp (h'.isBeginning hover' s)
  refine ⟨fun s ↦ ⟨h.copy_mem (copied_over hover s), ?_⟩, fun s ↦ ?_, ?_, Capture.receive_append⟩
  · rintro before after rfl
    obtain ⟨d₀, h₀, hsettled, hbytes⟩ := h.at_copy (copied_over hover s)
    have hsound := h₀.sound s
    rw [hbytes]
    refine ⟨hsound.kept, hsound.isBeginning, fun heof ↦ ?_, fun hexpire hfailed haborted ↦ ?_⟩
    · exact hsound.kept_of_atEnd ((hsound.ended _).mp heof)
    · exact hsound.kept_of_atEnd (h₀.atEnd hsettled hexpire hfailed haborted)
  · rw [Captured.text, ← htake h hover s]
  · intro moves' d' c' h' hover' hlength rules
    have hbytes : c' = c := Captured.ext_bytes fun s ↦ by
      rw [htake h' hover' s, hlength s, ← htake h hover s]
    rw [hbytes]

/-- A process prints an accented letter, and then complains until it is stopped. -/
def accented : Stream → Bytes
  | .stdout => [0xC3, 0xA9, 0x0A]
  | .stderr => [0x6F, 0x68, 0x21]

/-- The letter is cut in two, and the deadline passes while the last of the complaint is held. -/
def belated : List DrainMove :=
  [.read .stdout [0xC3], .read .stderr [0x6F], .keep .stdout [0xC3], .close,
    .read .stdout [0xA9, 0x0A], .keep .stderr [0x6F], .keep .stdout [0xA9, 0x0A],
    .read .stderr [0x68, 0x21], .finish .stdout .endOfFile, .leave .stdout, .expire, .leave .stderr,
    .copy .stdout, .copy .stderr, .keep .stderr [0x68, 0x21], .finish .stderr .aborted]

theorem belated_capture_lossless : ∃ d, Reaches accented belated d ∧
    d.stage = .over ⟨[0xC3, 0xA9, 0x0A], [0x6F]⟩ ∧
    (⟨[0xC3, 0xA9, 0x0A], [0x6F]⟩ : Captured).bytes .stdout = accented .stdout ∧
    (⟨[0xC3, 0xA9, 0x0A], [0x6F]⟩ : Captured).bytes .stderr =
      handedOver .stderr (belated.take 13) ∧
    (⟨[0xC3, 0xA9, 0x0A], [0x6F]⟩ : Captured).text .stdout = ['é', '\n'] := by
  have h₀ : Reaches accented [] (start accented) := .start
  have h₁ := h₀.step (@Step.read _ .stdout [0xC3] [0xA9, 0x0A] rfl rfl rfl nofun (by decide))
  have h₂ := h₁.step (@Step.read _ .stderr [0x6F] [0x68, 0x21] rfl rfl rfl nofun (by decide))
  have h₃ := h₂.step (@Step.keep _ .stdout _ rfl nofun)
  have h₄ := h₃.step (.close rfl)
  have h₅ := h₄.step (@Step.read _ .stdout [0xA9, 0x0A] [] rfl rfl rfl nofun (by decide))
  have h₆ := h₅.step (@Step.keep _ .stderr _ rfl nofun)
  have h₇ := h₆.step (@Step.keep _ .stdout _ rfl nofun)
  have h₈ := h₇.step (@Step.read _ .stderr [0x68, 0x21] [] rfl rfl rfl nofun (by decide))
  have h₉ := h₈.step (@Step.finish _ .stdout .endOfFile rfl rfl fun _ ↦ rfl)
  have h₁₀ := h₉.step (@Step.leave _ .stdout rfl (.inl rfl))
  have h₁₁ := h₁₀.step (.expire nofun)
  have h₁₂ := h₁₁.step (@Step.leave _ .stderr rfl (.inr rfl))
  have h₁₃ := (h₁₂.step (.copyStdout rfl)).step (.copyStderr rfl)
  have h₁₄ := h₁₃.step (@Step.keep _ .stderr _ rfl nofun)
  have h₁₅ := h₁₄.step (@Step.finish _ .stderr .aborted rfl rfl nofun)
  obtain ⟨hcopies, htext, -, -⟩ := capture_lossless h₁₅ rfl
  have hout := (hcopies .stdout).2 (belated.take 12) (belated.drop 13) rfl
  have herr := (hcopies .stderr).2 (belated.take 13) (belated.drop 14) rfl
  exact ⟨_, h₁₅, rfl, hout.2.2.1 (by decide), herr.1, (htext .stdout).trans (by decide +kernel)⟩

end Drain

end MountSweep.Output
