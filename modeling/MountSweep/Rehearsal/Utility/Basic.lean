import MountSweep.Output.Stream
import MountSweep.Posix.FileSystem.Guarded
import MountSweep.Text.Letters

namespace MountSweep.Rehearsal

open Posix Output

structure Call where
  args : List Bytes
  input : Bytes := []
  environment : List (Bytes × Bytes) := []

/-- The files a utility works on and what it has written, first things first. -/
structure Bench where
  files : FileSystem
  written : List (Stream × Bytes) := []

abbrev Work := StateM Bench

namespace Work

def say (bs : Bytes) : Work Unit :=
  modify fun b ↦ { b with written := b.written ++ [(.stdout, bs)] }

def complain (text : Bytes) : Work Unit :=
  modify fun b ↦ { b with written := b.written ++ [(.stderr, text ++ [10])] }

def attempt (f : FileSystem → Except Errno FileSystem) : Work (Except Errno Unit) := do
  match f (← get).files with
  | .ok files =>
    modify fun b ↦ { b with files }
    return .ok ()
  | .error e => return .error e

def look (f : FileSystem → α) : Work α := return f (← get).files

/-- Does something for each operand; the exit code is one if that failed for any of them. -/
def each (operands : List Bytes) (f : Bytes → Work Bool) : Work Nat := do
  let results ← operands.mapM f
  return if results.all id then 0 else 1

end Work

def quote (p : Bytes) : Bytes := 39 :: p ++ [39]

def message (parts : List (String ⊕ Bytes)) : Bytes :=
  parts.flatMap fun
    | .inl s => Bytes.ofString s
    | .inr bs => bs

def cannot (utility doing : String) (p : Bytes) (e : Errno) : Bytes :=
  message [.inl (utility ++ ": " ++ doing ++ " "), .inr (quote p), .inl (": " ++ e.describe)]

def about (utility : String) (p : Bytes) (e : Errno) : Bytes :=
  message [.inl (utility ++ ": "), .inr p, .inl (": " ++ e.describe)]

def hint (utility : String) : Bytes :=
  Bytes.ofString ("Try '" ++ utility ++ " --help' for more information.")

def misuse (utility text : String) (status : Nat) : Work Nat := do
  Work.complain (Bytes.ofString (utility ++ ": " ++ text))
  Work.complain (hint utility)
  return status

/-- Arguments taken apart: the letters of the options and the operands. What comes after a double
dash is an operand. -/
def splitOptions : List Bytes → List Char × List Bytes
  | [] => ([], [])
  | a :: rest =>
    match Bytes.letters a with
    | ['-', '-'] => ([], rest)
    | '-' :: c :: cs =>
      let (options, operands) := splitOptions rest
      (c :: cs ++ options, operands)
    | _ =>
      let (options, operands) := splitOptions rest
      (options, a :: operands)

def baseName (p : Path) : Bytes := (p.parts.getLast?).getD p

end MountSweep.Rehearsal
