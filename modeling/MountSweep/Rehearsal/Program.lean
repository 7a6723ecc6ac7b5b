import MountSweep.Path
import MountSweep.Posix.FileSystem.Fresh
import MountSweep.Posix.Process
import MountSweep.Rehearsal.Utility.Files
import MountSweep.Rehearsal.Utility.Lines
import MountSweep.Rehearsal.Utility.Printing
import MountSweep.Rehearsal.Utility.Test

namespace MountSweep.Rehearsal

open Posix

/-- A utility: whether it reads its input when called with some arguments, and its work. -/
structure Utility where
  reads : List Bytes → Bool := fun _ ↦ false
  work : Call → Work Nat

def readsInput (n : Nat) (args : List Bytes) : Bool :=
  let operands := args.filter fun a ↦ a.head? ≠ some 45 || a = inputOperand
  (operands.drop n).isEmpty || (operands.drop n).contains inputOperand

/-- Whether the arguments of a utility that passes on a part of a text name no file to read. -/
def readsPart (args : List Bytes) : Bool :=
  match extent args with
  | .ok (_, operands) => operands.isEmpty || operands.contains inputOperand
  | .error _ => false

def printEnvironment (c : Call) : Work Nat := do
  Work.say (c.environment.flatMap fun (k, v) ↦ k ++ 61 :: v ++ [10])
  return 0

def environmentName : String := "env"

def utilities : List (String × Utility) := [
  ("true", { work := fun _ ↦ return 0 }),
  ("false", { work := fun _ ↦ return 1 }),
  ("echo", { work := echo }),
  ("printf", { work := printf }),
  ("test", { work := test }),
  ("[", { work := bracket }),
  ("touch", { work := touch }),
  ("rm", { work := rm }),
  ("rmdir", { work := rmdir }),
  ("mkdir", { work := mkdir }),
  ("ln", { work := ln }),
  ("ls", { work := ls }),
  ("cp", { work := cp }),
  ("mv", { work := mv }),
  ("chmod", { work := chmod }),
  ("cat", { reads := readsInput 0, work := cat }),
  ("head", { reads := readsPart, work := head }),
  ("tail", { reads := readsPart, work := tail }),
  ("tr", { reads := fun _ ↦ true, work := tr }),
  ("sed", { reads := readsInput 1, work := sed }),
  ("wc", { reads := readsInput 0, work := wc }),
  ("grep", { reads := readsInput 1, work := grep }),
  ("sort", { reads := readsInput 0, work := sort }),
  ("tee", { reads := fun _ ↦ true, work := tee }),
  ("seq", { work := seq }),
  ("dd", { reads := fun args ↦ (settingOf? "if" args).isNone, work := dd }),
  ("basename", { work := basename }),
  ("dirname", { work := dirname }),
  ("readlink", { work := readlink }),
  ("printenv", { work := printenv }),
  (environmentName, { work := printEnvironment })]

def shellName : String := "sh"

def sleepName : String := "sleep"

def programNames : List String := shellName :: sleepName :: utilities.map (·.1)

/-- A program to run, the name by which it is called, and its arguments. -/
structure Image where
  program : String
  called : Bytes
  args : List Bytes
  deriving DecidableEq, Repr

namespace Image

def interpreter? (content : Bytes) : Option (Path × List Bytes) :=
  match Bytes.letters (content.takeWhile (· ≠ 10)) with
  | '#' :: '!' :: line =>
    let isBlank (c : Char) : Bool := c = ' ' || c = '\t'
    let line := line.dropWhile isBlank
    let path := line.takeWhile (!isBlank ·)
    let arg := (((line.drop path.length).dropWhile isBlank).reverse.dropWhile isBlank).reverse
    if path.isEmpty then none
    else
      some (Bytes.ofLetters path, if arg.isEmpty then [] else [Bytes.ofLetters arg])
  | _ => none

def load (fs : FileSystem) : Nat → Path → Bytes → List Bytes → Except Errno Image
  | 0, _, _, _ => .error .tooManyLinks
  | depth + 1, path, called, args => do
    let s ← fs.stat true path
    if s.kind ≠ .file || s.mode &&& 0o111 = 0 then throw .accessDenied
    let content ← fs.contents path
    if content.take FileSystem.programMark.length = FileSystem.programMark then
      return ⟨Bytes.display (content.drop FileSystem.programMark.length), called, args⟩
    else
      match interpreter? content with
      | some (program, first) => load fs depth program program (first ++ path :: args)
      | none => throw .notExecutable

def maxDepth : Nat := 5

def shellPath : Path := Bytes.ofString "/bin/sh"

/-- The program at a path. A file that is no program is a script if `scripts` holds. -/
def ofPath (fs : FileSystem) (scripts : Bool) (path : Path) (called : Bytes)
    (args : List Bytes) : Except Errno Image :=
  match load fs maxDepth path called args with
  | .error e =>
    if scripts && e = .notExecutable then .ok ⟨shellName, shellPath, path :: args⟩ else .error e
  | r => r

def isPassing (e : Errno) : Bool :=
  e = .noEntry || e = .notDirectory || e = .accessDenied

/-- The first program of this name in directories; `worst` is the error found so far. -/
def searchIn (fs : FileSystem) (scripts : Bool) (name : Bytes) (args : List Bytes)
    (worst : Errno) : List Path → Except Errno Image
  | [] => .error worst
  | dir :: rest =>
    match ofPath fs scripts (Path.join dir name) name args with
    | .ok i => .ok i
    | .error e =>
      if isPassing e then
        searchIn fs scripts name args (if worst = .accessDenied then worst else e) rest
      else .error e

def defaultSearch : Bytes := Bytes.ofString "/bin:/usr/bin"

/-- The program of a name: a name with a slash is a path, and others are looked for in the
directories of a search path. -/
def find (fs : FileSystem) (scripts : Bool) (search : Option Bytes) (name : Bytes)
    (args : List Bytes) : Except Errno Image :=
  if name = [] then .error .noEntry
  else if name.contains Path.slash then ofPath fs scripts name name args
  else if FileSystem.maxName < name.length then .error .nameTooLong
  else searchIn fs scripts name args .noEntry (Path.splitAt 58 (search.getD defaultSearch))

def locate? (fs : FileSystem) (search : Option Bytes) (name : Bytes) : Option Path :=
  if name.contains Path.slash then
    if (ofPath fs true name name []).toOption.isSome then some name else none
  else
    ((Path.splitAt 58 (search.getD defaultSearch)).map (Path.join · name)).find? fun p ↦
      (ofPath fs true p name []).toOption.isSome

end Image

def sleepTime? (operand : Bytes) : Option Nat :=
  let cs := Bytes.letters operand
  let whole := cs.takeWhile Char.isDigit
  let rest := cs.drop whole.length
  let fraction :=
    match rest with
    | '.' :: more => more.takeWhile Char.isDigit
    | _ => []
  let rest :=
    match rest with
    | '.' :: more => more.drop fraction.length
    | _ => rest
  let value (ds : List Char) : Nat := (Bytes.toNat? (Bytes.ofLetters ds)).getD 0
  let unit :=
    match rest with
    | [] | ['s'] => some 1
    | ['m'] => some 60
    | ['h'] => some 3600
    | ['d'] => some 86400
    | _ => none
  if whole.isEmpty && fraction.isEmpty then none
  else
    unit.map fun n ↦
      n * (value whole * 1000000000 + value ((fraction ++ List.replicate 9 '0').take 9))

end MountSweep.Rehearsal
