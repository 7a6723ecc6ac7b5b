import MountSweep.Posix.Process
import MountSweep.Text.Letters

namespace MountSweep.Shell

open Posix

structure Variable where
  value : Bytes
  exported : Bool := false
  deriving DecidableEq, Repr

structure Parameters where
  name : Bytes
  args : List Bytes := []
  bindings : List (Bytes × Variable) := []
  promised : List Bytes := []
  status : Nat := 0
  pid : Pid
  background : Option Pid := none
  options : List Char := []
  deriving DecidableEq, Repr

namespace Parameters

def separators (p : Parameters) : Bytes :=
  match p.bindings.lookup (Bytes.ofString "IFS") with
  | some v => v.value
  | none => [32, 9, 10]

def joined (p : Parameters) : Bytes := (p.separators.take 1).intercalate p.args

def get? (p : Parameters) (name : Bytes) : Option Bytes :=
  match Bytes.letters name with
  | ['@'] | ['*'] => if p.args = [] then none else some p.joined
  | ['#'] => some (Bytes.ofNat p.args.length)
  | ['?'] => some (Bytes.ofNat p.status)
  | ['$'] => some (Bytes.ofNat p.pid)
  | ['!'] => p.background.map Bytes.ofNat
  | ['-'] => some (Bytes.ofLetters p.options)
  | _ =>
    match Bytes.toNat? name with
    | some 0 => some p.name
    | some (n + 1) => p.args[n]?
    | none => (p.bindings.lookup name).map Variable.value

def set (p : Parameters) (name value : Bytes) : Parameters :=
  let exported := ((p.bindings.lookup name).map Variable.exported).getD (p.promised.contains name)
  { p with bindings := (name, ⟨value, exported⟩) :: p.bindings.filter (·.1 ≠ name) }

def markExported (p : Parameters) (name : Bytes) : Parameters :=
  match p.bindings.lookup name with
  | some v =>
    { p with bindings := p.bindings.map fun (k, w) ↦
        if k = name then (k, { v with exported := true }) else (k, w) }
  | none => { p with promised := name :: p.promised }

def unset (p : Parameters) (name : Bytes) : Parameters :=
  { p with
    bindings := p.bindings.filter (·.1 ≠ name)
    promised := p.promised.filter (· ≠ name) }

def environment (p : Parameters) : List (Bytes × Bytes) :=
  p.bindings.filterMap fun (k, v) ↦ if v.exported then some (k, v.value) else none

end Parameters

end MountSweep.Shell
