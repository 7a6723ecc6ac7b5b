import MountSweep.Yaml.Token

namespace MountSweep.Yaml

inductive Node
  | scalar (tag : Option Bytes) (value : List Char) (style : ScalarStyle)
  | sequence (tag : Option Bytes) (items : List Node)
  | mapping (tag : Option Bytes) (entries : List (Node × Node))
  | alias (number : Nat)
  deriving Repr, Inhabited

namespace Node

def absent : Node := .scalar none [] .plain

mutual

def decEq : (a b : Node) → Decidable (a = b)
  | .scalar tag value style, .scalar tag' value' style' =>
    decidable_of_iff (tag = tag' ∧ value = value' ∧ style = style') (by rw [scalar.injEq])
  | .sequence tag items, .sequence tag' items' =>
    have := decEqItems items items'
    decidable_of_iff (tag = tag' ∧ items = items') (by rw [sequence.injEq])
  | .mapping tag entries, .mapping tag' entries' =>
    have := decEqEntries entries entries'
    decidable_of_iff (tag = tag' ∧ entries = entries') (by rw [mapping.injEq])
  | .alias number, .alias number' => decidable_of_iff (number = number') (by rw [alias.injEq])
  | .scalar .., .sequence .. | .scalar .., .mapping .. | .scalar .., .alias _
  | .sequence .., .scalar .. | .sequence .., .mapping .. | .sequence .., .alias _
  | .mapping .., .scalar .. | .mapping .., .sequence .. | .mapping .., .alias _
  | .alias _, .scalar .. | .alias _, .sequence .. | .alias _, .mapping .. => isFalse nofun

def decEqItems : (as bs : List Node) → Decidable (as = bs)
  | [], [] => isTrue rfl
  | a :: as, b :: bs =>
    have := decEq a b
    have := decEqItems as bs
    decidable_of_iff (a = b ∧ as = bs) (by rw [List.cons.injEq])
  | [], _ :: _ | _ :: _, [] => isFalse nofun

def decEqEntries : (as bs : List (Node × Node)) → Decidable (as = bs)
  | [], [] => isTrue rfl
  | (a, x) :: as, (b, y) :: bs =>
    have := decEq a b
    have := decEq x y
    have := decEqEntries as bs
    decidable_of_iff ((a = b ∧ x = y) ∧ as = bs) (by rw [List.cons.injEq, Prod.mk.injEq])
  | [], _ :: _ | _ :: _, [] => isFalse nofun

end

instance : DecidableEq Node := decEq

mutual

/-- The number of events that announce a node: one for a scalar or an alias, and two for a
collection besides those of its parts. -/
def eventCount : Node → Nat
  | .scalar .. => 1
  | .sequence _ items => itemEvents items + 2
  | .mapping _ entries => entryEvents entries + 2
  | .alias _ => 1

def itemEvents : List Node → Nat
  | [] => 0
  | n :: rest => n.eventCount + itemEvents rest

def entryEvents : List (Node × Node) → Nat
  | [] => 0
  | (key, value) :: rest => key.eventCount + value.eventCount + entryEvents rest

end

end Node

/-- A document: its outermost node, and its anchored nodes with their numbers, the one that begins
last in front. -/
structure Document where
  root : Node
  anchored : List (Nat × Node) := []
  deriving DecidableEq, Repr, Inhabited

namespace Document

/-- The node that a number stands for: of several with one number, the one that begins last. -/
def anchor? (d : Document) (number : Nat) : Option Node := d.anchored.lookup number

/-- How many aliases may be followed while a document is read: a hundred for each event. -/
def aliasLimit (d : Document) : Nat := 100 * d.root.eventCount

end Document

end MountSweep.Yaml
