import MountSweep.Rehearsal.Start
import MountSweep.Shell.Expansion

namespace MountSweep.Rehearsal

open Posix Shell

inductive Mistake
  | expansion (text : String)
  | redirection (text : Bytes)

namespace Kernel

/-- Expands something with the parameters of a shell, which may be changed thereby. -/
def expand (pid : Pid) (f : FileSystem → Expand α) : Kernel (Except String α) := do
  match ← process? pid with
  | some p =>
    let fs ← inspect p id
    match p.task with
    | .shell s =>
      match (f fs).run s.parameters with
      | .ok (a, parameters) =>
        changeShell pid fun s ↦ { s with parameters }
        return .ok a
      | .error text => return .error text
    | _ => return .error ""
  | none => return .error ""

abbrev Saved := List (Nat × Option Channel)

def setChannel (pid : Pid) (descriptor : Nat) (c : Option Channel) : Kernel Unit :=
  change pid fun p ↦
    let others := p.channels.filter (·.1 ≠ descriptor)
    { p with channels := c.toList.map (descriptor, ·) ++ others }

def putBack (pid : Pid) : Saved → Kernel Unit
  | [] => return ()
  | (descriptor, c) :: rest => do
    setChannel pid descriptor c
    putBack pid rest

def cannotOpen (create : Bool) (path : Path) (e : Errno) : Bytes :=
  let isMissing := e = .noEntry || e = .notDirectory
  if create then
    message [.inl "cannot create ", .inr path,
      .inl (": " ++ if isMissing then "Directory nonexistent" else e.describe)]
  else
    message [.inl "cannot open ", .inr path,
      .inl (": " ++ if isMissing then "No such file" else e.describe)]

def targetChannel (pid : Pid) (t : Target) : Kernel (Except Mistake (Option Channel)) := do
  let opened (create : Bool) (flags : FileSystem.OpenFlags) (w : Word) :
      Kernel (Except Mistake (Option Channel)) := do
    match ← expand pid (fun _ ↦ Word.text w), ← process? pid with
    | .error text, _ => return .error (.expansion text)
    | .ok path, some p =>
      match ← openFile p flags path with
      | .ok c => return .ok (some c)
      | .error e => return .error (.redirection (cannotOpen create path e))
    | .ok _, none => return .ok none
  match t with
  | .input w => opened false {} w
  | .output append w => opened true { write := true, create := true, append, truncate := !append } w
  | .both w => opened true { write := true, create := true } w
  | .text w =>
    match ← expand pid (fun _ ↦ Word.text w) with
    | .error text => return .error (.expansion text)
    | .ok bs => return .ok (some (.pipeReader (← openFilledPipe bs)))
  | .duplicate w =>
    match ← expand pid (fun _ ↦ Word.text w) with
    | .error text => return .error (.expansion text)
    | .ok [45] => return .ok none
    | .ok bs =>
      match Bytes.toNat? bs, ← process? pid with
      | some n, some p =>
        match p.channels.lookup n with
        | some c => return .ok (some c)
        | none => return .error (.redirection (bs ++ Bytes.ofString ": Bad file descriptor"))
      | _, _ => return .error (.redirection (Bytes.ofString "Bad fd number"))

/-- Carries redirections out in order; if one of them fails, those before it are undone. -/
def redirect (pid : Pid) (saved : Saved) : List Redirection → Kernel (Except Mistake Saved)
  | [] => return .ok saved
  | r :: rest => do
    match ← targetChannel pid r.target with
    | .error e =>
      putBack pid saved
      return .error e
    | .ok c =>
      let former := (← process? pid).bind (·.channels.lookup r.descriptor)
      setChannel pid r.descriptor c
      redirect pid ((r.descriptor, former) :: saved) rest

end Kernel

end MountSweep.Rehearsal
