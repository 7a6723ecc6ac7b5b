import Mathlib.Data.List.Forall2
import Mathlib.Data.List.Induction
import MountSweep.Environment.Substitution
import MountSweep.Proofs.Text.Utf8

namespace MountSweep.Environment

def written (name : List Char) : List Char := '$' :: '\x7b' :: (name ++ ['\x7d'])

def Segment.source : Segment → List Char
  | .char c => [c]
  | .reference name => written name

variable {cs name front back : List Char} {x y : Char}

variable {env : Environment} {n m : String} {names : List String}

/-- The variables that a text refers to although they are unset, as often as it does. -/
def missing (env : Environment) (cs : List Char) : List String :=
  (segments cs).filterMap env.missing?

def Precedes (names : List String) (a b : String) : Prop :=
  ∀ before after, names = before ++ b :: after → a ∈ before

theorem Precedes.append {a b x : String} (h : Precedes names a b) (ha : a ∈ names) :
    Precedes (names ++ [x]) a b := by
  intro before after heq
  rcases List.eq_nil_or_concat after with rfl | ⟨after, y, rfl⟩
  · obtain ⟨rfl, -⟩ := List.append_inj' heq rfl
    exact ha
  · rw [List.concat_eq_append, ← List.cons_append, ← List.append_assoc] at heq
    exact h _ _ (List.append_inj' heq rfl).1

theorem text?_eq_some_iff {value : String} :
    env.text? n = some value ↔ env.get? n = some (Bytes.ofString value) := by
  simp [text?, Option.bind_eq_some_iff, Bytes.toString?_eq_some_iff]

/-- A value that spells a reference together with what stands behind it is left alone. -/
example : Environment.substitute ⟨[("A", Bytes.ofString "$\x7b"), ("B", [0x62])]⟩
    "$\x7bA\x7dB\x7d $\x7b1\x7d $\x7bB\x7d" = .ok "$\x7bB\x7d $\x7b1\x7d b" := by
  cbv

end MountSweep.Environment
