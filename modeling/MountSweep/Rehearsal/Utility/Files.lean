import MountSweep.Rehearsal.Utility.Basic

namespace MountSweep.Rehearsal

open Posix Output

def isDirectory (p : Path) : Work Bool :=
  Work.look fun fs ↦
    match fs.stat true p with
    | .ok s => s.kind = .dir
    | .error _ => false

def report (text : Errno → Bytes) (r : Except Errno Unit) : Work Bool := do
  match r with
  | .ok () => return true
  | .error e =>
    Work.complain (text e)
    return false

def touch (c : Call) : Work Nat := do
  match splitOptions c.args with
  | (_, []) => misuse "touch" "missing file operand" 1
  | (_, operands) =>
    Work.each operands fun p ↦ do
      let r ← Work.attempt fun fs ↦
        match fs.utimens p none none with
        | .error e =>
          if e = .noEntry then (fs.openFile { write := true, create := true } p).map (·.2)
          else .error e
        | r => r
      report (cannot "touch" "cannot touch" p) r

def rm (c : Call) : Work Nat := do
  let (options, operands) := splitOptions c.args
  let force := options.contains 'f'
  let recursive := options.contains 'r' || options.contains 'R'
  if operands.isEmpty then
    if force then return 0 else misuse "rm" "missing operand" 1
  else
    Work.each operands fun p ↦ do
      let r ← Work.attempt fun fs ↦
        if recursive then fs.removeAll p else fs.unlink p
      match r with
      | .error e =>
        if force && (e = .noEntry || e = .notDirectory) then return true
        report (cannot "rm" "cannot remove" p) (.error e)
      | .ok () => return true

def rmdir (c : Call) : Work Nat := do
  match splitOptions c.args with
  | (_, []) => misuse "rmdir" "missing operand" 1
  | (_, operands) =>
    Work.each operands fun p ↦ do
      report (cannot "rmdir" "failed to remove" p) (← Work.attempt (·.rmdir p))

def mkdir (c : Call) : Work Nat := do
  match splitOptions c.args with
  | (_, []) => misuse "mkdir" "missing operand" 1
  | (options, operands) =>
    Work.each operands fun p ↦ do
      let r ← Work.attempt fun fs ↦ if options.contains 'p' then fs.mkdirs p else fs.mkdir p
      report (cannot "mkdir" "cannot create directory" p) r

def targetFor (source target : Path) : Work Path := do
  return if ← isDirectory target then target.join (baseName source) else target

def ln (c : Call) : Work Nat := do
  let (options, operands) := splitOptions c.args
  let symbolic := options.contains 's'
  match operands with
  | [] => misuse "ln" "missing file operand" 1
  | source :: rest =>
    let named := rest.headD (baseName source)
    let into := if options.contains 'n' then pure named else targetFor source named
    let target ← into
    if options.contains 'f' then let _ ← Work.attempt (·.unlink target)
    let r ← Work.attempt fun fs ↦
      if symbolic then fs.symlink source target else fs.link source target
    let isMissing ← Work.look fun fs ↦ (fs.stat false source).toOption.isNone
    let text := fun e ↦
      if symbolic then cannot "ln" "failed to create symbolic link" target e
      else if isMissing then cannot "ln" "failed to access" source e
      else
        message [.inl "ln: failed to create hard link ", .inr (quote target), .inl " => ",
          .inr (quote source), .inl (": " ++ Errno.describe e)]
    return if ← report text r then 0 else 1

def shownNames (all : Bool) (names : List Bytes) : List Bytes :=
  (if all then names else names.filter (·.head? ≠ some 46)).mergeSort Bytes.isLe

def ls (c : Call) : Work Nat := do
  let (options, operands) := splitOptions c.args
  let all := options.contains 'a' || options.contains 'A'
  let operands := if operands.isEmpty then [Bytes.ofString "."] else operands.mergeSort Bytes.isLe
  let lines := fun (names : List Bytes) ↦ names.flatMap fun n ↦ n ++ [10]
  let mut status := 0
  let mut directories := []
  let mut plain := false
  for p in operands do
    match ← Work.look (·.stat true p) with
    | .error e =>
      match ← Work.look (·.stat false p) with
      | .ok _ => Work.say (lines [p])
      | .error _ =>
        Work.complain (cannot "ls" "cannot access" p e)
        status := 2
    | .ok s =>
      if s.kind = .dir && !options.contains 'd' then directories := directories ++ [p]
      else
        Work.say (lines [p])
        plain := true
  for p in directories do
    if 1 < operands.length then
      if plain then Work.say [10]
      Work.say (p ++ [58, 10])
      plain := true
    match ← Work.look (·.readdir p) with
    | .ok names =>
      let dots := if options.contains 'a' then [Bytes.ofString ".", Bytes.ofString ".."] else []
      Work.say (lines (shownNames all (dots ++ names)))
    | .error e =>
      Work.complain (cannot "ls" "cannot open directory" p e)
      status := 2
  return status

def cp (c : Call) : Work Nat := do
  match splitOptions c.args with
  | (_, [source, target]) =>
    let target ← targetFor source target
    match ← Work.look (·.contents source) with
    | .error e =>
      Work.complain (cannot "cp" "cannot stat" source e)
      return 1
    | .ok data =>
      let r ← Work.attempt (·.save target data)
      return if ← report (cannot "cp" "cannot create regular file" target) r then 0 else 1
  | _ => misuse "cp" "missing file operand" 1

def mv (c : Call) : Work Nat := do
  match splitOptions c.args with
  | (_, [source, target]) =>
    let target ← targetFor source target
    match ← Work.look (·.stat false source) with
    | .error e =>
      Work.complain (cannot "mv" "cannot stat" source e)
      return 1
    | .ok _ =>
      let r ← Work.attempt (·.rename source target)
      let text := fun e ↦
        message [.inl "mv: cannot move ", .inr (quote source), .inl " to ", .inr (quote target),
          .inl (": " ++ Errno.describe e)]
      return if ← report text r then 0 else 1
  | _ => misuse "mv" "missing file operand" 1

def octal? (bs : Bytes) : Option Nat :=
  if bs = [] then none
  else
    bs.foldl (fun n b ↦ n.bind fun n ↦
      if 48 ≤ b ∧ b ≤ 55 then some (n * 8 + (b.toNat - 48)) else none) (some 0)

def chmod (c : Call) : Work Nat := do
  match c.args with
  | mode :: operands =>
    if operands.isEmpty then misuse "chmod" "missing operand" 1
    else
      Work.each operands fun p ↦ do
        let r ← Work.attempt fun fs ↦
          match octal? mode with
          | some n => fs.chmod p n
          | none =>
            match fs.stat true p with
            | .ok s => fs.chmod p (s.mode ||| 0o111)
            | .error e => .error e
        report (cannot "chmod" "cannot access" p) r
  | [] => misuse "chmod" "missing operand" 1

end MountSweep.Rehearsal
