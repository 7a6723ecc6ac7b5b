import MountSweep.Proofs.Scenarios.Steps

namespace MountSweep.Scenario

open Posix FileSystem Check Time

def FitsWord (i : ℤ) : Prop := -2 ^ 63 ≤ i ∧ i < 2 ^ 63

theorem fitsWord_toInt (i : Int64) : FitsWord i.toInt := ⟨i.le_toInt, i.toInt_lt⟩

theorem FitsWord.toInt_ofInt {i : ℤ} (h : FitsWord i) : (Int64.ofInt i).toInt = i :=
  Int64.toInt_ofInt_of_le h.1 h.2

/-- A time stamp as it is kept: seconds, and the nanoseconds within the second. -/
@[ext]
structure TimeStamp where
  secs : Int64
  nsecs : Int64
  nonneg : 0 ≤ nsecs
  lt_second : nsecs < 1000000000
  deriving DecidableEq

/-- Time stamps are compared by their seconds first. -/
instance : LE TimeStamp :=
  ⟨fun t₁ t₂ ↦ t₁.secs < t₂.secs ∨ t₁.secs = t₂.secs ∧ t₁.nsecs ≤ t₂.nsecs⟩

namespace Words

def second : BitVec 128 := 1000000000

def nanos (secs nsecs : Int64) : BitVec 128 :=
  secs.toBitVec.signExtend 128 * second + nsecs.toBitVec.signExtend 128

/-- Seconds are rounded down, so that the further nanoseconds are never negative. -/
def timespec (ns : BitVec 128) : Int64 × Int64 :=
  (Int64.ofInt (ns.toInt / second.toInt), Int64.ofInt (ns.toInt % second.toInt))

variable {secs nsecs : Int64}

theorem toInt_second : second.toInt = Span.nanosPerSec := by decide

theorem toInt_widen (i : Int64) : (i.toBitVec.signExtend 128).toInt = i.toInt :=
  BitVec.toInt_signExtend_of_le (by decide)

theorem not_smulOverflow (secs : Int64) :
    ¬ (secs.toBitVec.signExtend 128).smulOverflow second := by
  obtain ⟨hle, hlt⟩ := fitsWord_toInt secs
  rw [BitVec.smulOverflow, toInt_widen, toInt_second, Span.nanosPerSec]
  simp only [Bool.or_eq_true, decide_eq_true_eq]
  omega

theorem toInt_product (secs : Int64) :
    (secs.toBitVec.signExtend 128 * second).toInt = secs.toInt * Span.nanosPerSec := by
  rw [BitVec.toInt_mul_of_not_smulOverflow (not_smulOverflow secs), toInt_widen, toInt_second]

theorem not_saddOverflow (secs nsecs : Int64) :
    ¬ (secs.toBitVec.signExtend 128 * second).saddOverflow (nsecs.toBitVec.signExtend 128) := by
  obtain ⟨hle, hlt⟩ := fitsWord_toInt secs
  obtain ⟨hle', hlt'⟩ := fitsWord_toInt nsecs
  rw [BitVec.saddOverflow, toInt_product, toInt_widen, Span.nanosPerSec]
  simp only [Bool.or_eq_true, decide_eq_true_eq]
  omega

theorem toInt_nanos (secs nsecs : Int64) :
    (nanos secs nsecs).toInt = Scenario.nanos secs.toInt nsecs.toInt := by
  rw [nanos, BitVec.toInt_add_of_not_saddOverflow (not_saddOverflow secs nsecs), toInt_product,
    toInt_widen, Scenario.nanos]

end Words

namespace TimeStamp

def count (t : TimeStamp) : BitVec 128 := Words.nanos t.secs t.nsecs

def Shows (t : TimeStamp) (ns : ℤ) : Prop := timespec ns = (t.secs.toInt, t.nsecs.toInt)

variable {t t₁ t₂ : TimeStamp} {ns d : ℤ}

theorem bounds (t : TimeStamp) : 0 ≤ t.nsecs.toInt ∧ t.nsecs.toInt < Span.nanosPerSec :=
  ⟨Int64.le_iff_toInt_le.mp t.nonneg, Int64.lt_iff_toInt_lt.mp t.lt_second⟩

theorem toInt_count (t : TimeStamp) :
    t.count.toInt = t.secs.toInt * Span.nanosPerSec + t.nsecs.toInt :=
  Words.toInt_nanos t.secs t.nsecs

theorem shows_iff : t.Shows ns ↔ ns = t.count.toInt := by
  obtain ⟨hle, hlt⟩ := t.bounds
  rw [toInt_count, Shows, timespec, Prod.mk.injEq]
  rw [Span.nanosPerSec] at hlt ⊢
  omega

theorem count_eq_iff : t₁.count = t₂.count ↔ t₁ = t₂ := by
  refine ⟨fun h ↦ ?_, congrArg count⟩
  have hshown : t₁.Shows t₂.count.toInt := shows_iff.mpr (congrArg BitVec.toInt h.symm)
  have hsame := hshown.symm.trans (shows_iff.mpr rfl : t₂.Shows t₂.count.toInt)
  rw [Prod.mk.injEq, Int64.toInt_inj, Int64.toInt_inj] at hsame
  exact TimeStamp.ext hsame.1 hsame.2

theorem count_le_iff : t₁.count.toInt ≤ t₂.count.toInt ↔ t₁ ≤ t₂ := by
  obtain ⟨hle₁, hlt₁⟩ := t₁.bounds
  obtain ⟨hle₂, hlt₂⟩ := t₂.bounds
  change _ ↔ t₁.secs < t₂.secs ∨ t₁.secs = t₂.secs ∧ t₁.nsecs ≤ t₂.nsecs
  rw [Int64.lt_iff_toInt_lt, ← Int64.toInt_inj, Int64.le_iff_toInt_le, toInt_count, toInt_count]
  rw [Span.nanosPerSec] at hlt₁ hlt₂ ⊢
  omega

/-- What is so far away that its seconds still fit is far from the end of the wide word. -/
theorem toInt_offset (t : TimeStamp) (h : FitsWord ((t.count.toInt + d) / Span.nanosPerSec)) :
    (BitVec.ofInt 128 d).toInt = d ∧ ¬ t.count.saddOverflow (BitVec.ofInt 128 d) := by
  obtain ⟨hle, hlt⟩ := fitsWord_toInt t.secs
  obtain ⟨hle', hlt'⟩ := t.bounds
  obtain ⟨hfits, hfits'⟩ := h
  have hd : (BitVec.ofInt 128 d).toInt = d := by
    rw [toInt_count] at hfits hfits'
    rw [Span.nanosPerSec] at hlt' hfits hfits'
    exact BitVec.toInt_ofInt_eq_self (by decide) (by omega) (by omega)
  refine ⟨hd, ?_⟩
  rw [BitVec.saddOverflow, hd]
  rw [Span.nanosPerSec] at hfits hfits'
  simp only [Bool.or_eq_true, decide_eq_true_eq]
  omega

theorem toInt_add_offset (t : TimeStamp)
    (h : FitsWord ((t.count.toInt + d) / Span.nanosPerSec)) :
    (t.count + BitVec.ofInt 128 d).toInt = t.count.toInt + d := by
  obtain ⟨hd, hoverflow⟩ := t.toInt_offset h
  rw [BitVec.toInt_add_of_not_saddOverflow hoverflow, hd]

theorem exists_of_timespec {ns : BitVec 128} (h : FitsWord (ns.toInt / Span.nanosPerSec)) :
    ∃ t : TimeStamp, Words.timespec ns = (t.secs, t.nsecs) ∧ t.Shows ns.toInt := by
  have hnonneg : 0 ≤ ns.toInt % Span.nanosPerSec := Int.emod_nonneg _ (by decide)
  have hlt : ns.toInt % Span.nanosPerSec < Span.nanosPerSec := Int.emod_lt_of_pos _ (by decide)
  have hrest : (Int64.ofInt (ns.toInt % Span.nanosPerSec)).toInt = ns.toInt % Span.nanosPerSec :=
    FitsWord.toInt_ofInt ⟨le_trans (by decide) hnonneg, hlt.trans (by decide)⟩
  refine ⟨⟨Int64.ofInt (ns.toInt / Span.nanosPerSec), Int64.ofInt (ns.toInt % Span.nanosPerSec),
    ?_, ?_⟩, ?_, ?_⟩
  · rw [Int64.le_iff_toInt_le, hrest]
    exact hnonneg
  · rw [Int64.lt_iff_toInt_lt, hrest]
    exact hlt
  · rw [Words.timespec, Words.toInt_second]
  · rw [Shows, timespec, h.toInt_ofInt, hrest]

end TimeStamp

def Attribute.time? : Attribute → Option (Stat → ℤ)
  | .atimeNanos => some (·.atime)
  | .mtimeNanos => some (·.mtime)
  | .ctimeNanos => some (·.ctime)
  | _ => none

/-- An attribute of a file is a time that is shown as a time stamp. -/
def Attribute.Shows (a : Attribute) (st : Stat) (t : TimeStamp) : Prop :=
  ∃ time, a.time? = some time ∧ t.Shows (time st)

theorem Attribute.Shows.value_eq_count {a : Attribute} {st : Stat} {t : TimeStamp}
    (ha : a.Shows st t) : a.value st = t.count.toInt := by
  obtain ⟨time, ha, h⟩ := ha
  have hvalue : a.value st = nanos (timespec (time st)).1 (timespec (time st)).2 := by
    cases a <;> cases ha <;> rfl
  rw [hvalue, nanos_timespec]
  exact TimeStamp.shows_iff.mp h

variable {call expected : String} {w : Workspace}

theorem run_expect_eq_ok {condition : Bool} :
    (expect call expected condition).run w = (.ok (), w) ↔ condition := by
  cases condition with
  | true => exact iff_of_true rfl rfl
  | false => exact iff_of_false (fun hrun ↦ by cases hrun) Bool.false_ne_true

theorem run_expectInt_eq_ok {x y : ℤ} : (expectInt call x y).run w = (.ok (), w) ↔ x = y := by
  rw [expectInt, expectEq]
  split
  · next h => exact iff_of_true rfl h
  · next h => exact iff_of_false (fun hrun ↦ by cases hrun) h

open TimeStamp in
/-- Counts of nanoseconds are exact. A count that is `d` away from that of a time stamp is turned
into the time stamp that has it, if only its seconds fit. Different time stamps have different
counts, in the order of the time stamps, and no count goes beyond the wide word. What scenarios
require of times thus holds exactly if it holds of the time stamps that show them. -/
theorem timeStamps_exact (t : TimeStamp) (d : ℤ)
    (hfits : FitsWord ((nanos t.secs.toInt t.nsecs.toInt + d) / Span.nanosPerSec)) :
    (∃ moved : TimeStamp,
      Words.timespec (t.count + BitVec.ofInt 128 d) = (moved.secs, moved.nsecs) ∧
      moved.count = t.count + BitVec.ofInt 128 d ∧ moved.count.toInt = t.count.toInt + d ∧
      moved.Shows (t.count.toInt + d) ∧
      ¬ t.count.saddOverflow (BitVec.ofInt 128 d) ∧
      -- a time that has been set to the count
      ∀ (a : Attribute) (st : Stat) t₁, a.Shows st t₁ → ∀ call w,
        ((expectInt call (t.count.toInt + d) (a.value st)).run w = (.ok (), w) ↔ t₁ = moved)) ∧
    (∀ t₁ t₂ : TimeStamp, (t₁.count = t₂.count ↔ t₁ = t₂) ∧
      (t₁.count.sle t₂.count ↔ t₁ ≤ t₂)) ∧
    (∀ secs nsecs : Int64,
      ¬ (secs.toBitVec.signExtend 128).smulOverflow Words.second ∧
      ¬ (secs.toBitVec.signExtend 128 * Words.second).saddOverflow
        (nsecs.toBitVec.signExtend 128) ∧
      (Words.nanos secs nsecs).toInt = nanos secs.toInt nsecs.toInt) ∧
    -- times before and after
    ∀ (a : Attribute) (before after : Stat) t₁ t₂, a.Shows before t₁ → a.Shows after t₂ →
      ∀ call expected w,
      ((expectInt call (a.value before) (a.value after)).run w = (.ok (), w) ↔ t₁ = t₂) ∧
      ((expect call expected (a.value before ≤ a.value after)).run w = (.ok (), w) ↔ t₁ ≤ t₂) := by
  have hfits' : FitsWord ((t.count.toInt + d) / Span.nanosPerSec) := by
    rwa [count, Words.toInt_nanos]
  have hsum := t.toInt_add_offset hfits'
  refine ⟨?_, fun t₁ t₂ ↦ ⟨count_eq_iff, ?_⟩, fun secs nsecs ↦ ⟨Words.not_smulOverflow secs,
    Words.not_saddOverflow secs nsecs, Words.toInt_nanos secs nsecs⟩, ?_⟩
  · obtain ⟨moved, htimespec, hshows⟩ := exists_of_timespec (by rwa [hsum])
    have hcount : moved.count = t.count + BitVec.ofInt 128 d :=
      BitVec.toInt_inj.mp (shows_iff.mp hshows).symm
    refine ⟨moved, htimespec, hcount, by rw [hcount, hsum], hsum ▸ hshows,
      (t.toInt_offset hfits').2, ?_⟩
    intro a st t₁ ha call w
    rw [run_expectInt_eq_ok, ha.value_eq_count, ← hsum, ← hcount, BitVec.toInt_inj,
      count_eq_iff, eq_comm]
  · rw [BitVec.sle_iff_toInt_le, count_le_iff]
  · intro a before after t₁ t₂ hbefore hafter call expected w
    rw [run_expectInt_eq_ok, run_expect_eq_ok, decide_eq_true_iff, hbefore.value_eq_count,
      hafter.value_eq_count, BitVec.toInt_inj]
    exact ⟨count_eq_iff, count_le_iff⟩

/-- Five nanoseconds after the end of the first second that a time stamp can have. -/
def earlyTime : TimeStamp := ⟨-9223372036854775807, 5, by decide, by decide⟩

/-- Forty-two nanoseconds earlier it is still the first second, though near its end. -/
theorem timeStamps_exact_early :
    FitsWord ((nanos (-9223372036854775807) 5 - 42) / Span.nanosPerSec) ∧
      Words.timespec (earlyTime.count + BitVec.ofInt 128 (-42)) =
        (-9223372036854775808, 999999963) ∧
      (Words.nanos (-9223372036854775808) 999999963).toInt = earlyTime.count.toInt - 42 := by
  have hfits : FitsWord ((nanos earlyTime.secs.toInt earlyTime.nsecs.toInt + -42) /
      Span.nanosPerSec) := by
    constructor <;> decide
  obtain ⟨⟨moved, htimespec, -, hcount, -, -, -⟩, -⟩ := timeStamps_exact earlyTime (-42) hfits
  have hvalue : Words.timespec (earlyTime.count + BitVec.ofInt 128 (-42)) =
      (-9223372036854775808, 999999963) := by decide
  have hmoved := htimespec.symm.trans hvalue
  rw [Prod.mk.injEq] at hmoved
  refine ⟨hfits, hvalue, ?_⟩
  rw [← hmoved.1, ← hmoved.2]
  exact hcount

end MountSweep.Scenario
