import MountSweep.Rehearsal.Utility.Filters

namespace MountSweep.Rehearsal

open Posix Output

/-- The contents of operands, or else the input; an operand that cannot be read is reported. -/
def gatherContents (name : String) (c : Call) (operands : List Bytes) :
    Work (List (Bytes × Bytes)) := do
  let operands := if operands.isEmpty then [inputOperand] else operands
  let found ← operands.mapM fun p ↦ do
    match ← contentOf c p none with
    | .ok bs => return some (p, bs)
    | .error e =>
      Work.complain (about name p e)
      return none
  return found.filterMap id

def countWords (bs : Bytes) : Nat :=
  let isBlank (b : UInt8) : Bool := b = 32 || (9 ≤ b && b ≤ 13)
  (bs.foldl (fun (n, inWord) b ↦
    if isBlank b then (n, false) else (if inWord then n else n + 1, true)) (0, false)).1

def wc (c : Call) : Work Nat := do
  let (options, operands) := splitOptions c.args
  let isAsked (o : Char) : Bool := options.isEmpty || options.contains o
  for (p, bs) in ← gatherContents "wc" c operands do
    let counts :=
      (if isAsked 'l' then [bs.count 10] else []) ++
      (if isAsked 'w' then [countWords bs] else []) ++
      if isAsked 'c' then [bs.length] else []
    let width :=
      if counts.length = 1 then 0
      else if p = inputOperand then 7
      else (toString bs.length).length
    let shown := counts.map fun n ↦ Bytes.ofLetters (padTo width false false (toString n).toList)
    let name := if operands.isEmpty then [] else 32 :: p
    Work.say ([32].intercalate shown ++ name ++ [10])
  return 0

def grep (c : Call) : Work Nat := do
  let (options, operands) := splitOptions c.args
  match operands with
  | [] =>
    Work.complain (Bytes.ofString "Usage: grep [OPTION]... PATTERNS [FILE]...")
    return 2
  | pattern :: files =>
    let letters := Bytes.letters pattern
    let regex := if options.contains 'F' then some (.literal letters) else basicRegex? letters
    match regex with
    | none => return 2
    | some regex =>
      let isChosen (line : Bytes) : Bool :=
        let cs := (Bytes.letters line).takeWhile (· ≠ '\n')
        let isMatch := (regex.pieces cs).any fun
          | .found _ => true
          | .kept _ => false
        isMatch != options.contains 'v'
      let texts ← gatherContents "grep" c files
      let chosen := (texts.flatMap fun (_, bs) ↦ linesFrom [] bs).filter isChosen
      if options.contains 'c' then Work.say (Bytes.ofNat chosen.length ++ [10])
      else if !options.contains 'q' then
        Work.say (chosen.flatMap fun l ↦ if l.getLast? = some 10 then l else l ++ [10])
      return if chosen.isEmpty then 1 else 0

def sort (c : Call) : Work Nat := do
  let (options, operands) := splitOptions c.args
  let texts ← gatherContents "sort" c operands
  let lines := (texts.flatMap fun (_, bs) ↦ linesFrom [] bs).map fun l ↦
    if l.getLast? = some 10 then l.dropLast else l
  let sorted := lines.mergeSort Bytes.isLe
  let sorted := if options.contains 'r' then sorted.reverse else sorted
  let sorted := if options.contains 'u' then sorted.eraseDups else sorted
  Work.say (sorted.flatMap (· ++ [10]))
  return 0

def tee (c : Call) : Work Nat := do
  let (options, operands) := splitOptions c.args
  Work.say c.input
  Work.each operands fun p ↦ do
    let flags : FileSystem.OpenFlags :=
      { write := true, create := true, append := options.contains 'a'
        truncate := !options.contains 'a' }
    match ← Work.attempt fun fs ↦ do
      let (h, fs) ← fs.openFile flags p
      return (← fs.write h c.input).2 with
    | .ok () => return true
    | .error e =>
      Work.complain (about "tee" p e)
      return false

def seq (c : Call) : Work Nat := do
  let numbers := c.args.filterMap Bytes.toInt?
  let range (first step last : Int) : List Int :=
    if step = 0 then []
    else
      let count := Int.tdiv (last - first) step
      if count < 0 || (0 < step && last < first) || (step < 0 && first < last) then []
      else (List.range (count.toNat + 1)).map fun i ↦ first + step * Int.ofNat i
  let display (ns : List Int) : Work Nat := do
    Work.say (ns.flatMap fun n ↦ Bytes.ofString (toString n ++ "\n"))
    return 0
  match numbers with
  | [last] => display (range 1 1 last)
  | [first, last] => display (range first 1 last)
  | [first, step, last] => display (range first step last)
  | _ => misuse "seq" "missing operand" 1

def settingOf? (name : String) (args : List Bytes) : Option Bytes :=
  let start := Bytes.ofString (name ++ "=")
  (args.find? fun a ↦ start.isPrefixOf a).map (·.drop start.length)

def dd (c : Call) : Work Nat := do
  let size := ((settingOf? "bs" c.args).bind Bytes.toNat?).getD 512
  let count := (settingOf? "count" c.args).bind Bytes.toNat?
  let source := (settingOf? "if" c.args).getD inputOperand
  match ← contentOf c source (count.map (· * size)) with
  | .error e =>
    Work.complain (message [.inl "dd: failed to open ", .inr (quote source),
      .inl (": " ++ e.describe)])
    return 1
  | .ok bs =>
    let bs := count.elim bs fun n ↦ bs.take (n * size)
    let size := max size 1
    let records := toString (bs.length / size) ++ "+" ++
      (if bs.length % size = 0 then "0" else "1") ++ " records "
    match settingOf? "of" c.args with
    | some target => let _ ← Work.attempt (·.save target bs)
    | none => Work.say bs
    Work.complain (Bytes.ofString (records ++ "in\n" ++ records ++ "out\n" ++
      toString bs.length ++ " bytes copied, 0 s, 0 B/s"))
    return 0

def basename (c : Call) : Work Nat := do
  match c.args with
  | [] => misuse "basename" "missing operand" 1
  | p :: rest =>
    let name := baseName p
    let ending := rest.headD []
    let isCut := ending.isSuffixOf name && ending.length < name.length
    Work.say ((if isCut then name.take (name.length - ending.length) else name) ++ [10])
    return 0

def dirname (c : Call) : Work Nat := do
  match c.args with
  | [] => misuse "dirname" "missing operand" 1
  | p :: _ =>
    let up := Path.parent p
    Work.say ((if up.isEmpty then [46] else up) ++ [10])
    return 0

def readlink (c : Call) : Work Nat := do
  match splitOptions c.args with
  | (_, []) => misuse "readlink" "missing operand" 1
  | (_, p :: _) =>
    match ← Work.look (·.readlink p) with
    | .ok target =>
      Work.say (target ++ [10])
      return 0
    | .error _ => return 1

def printenv (c : Call) : Work Nat := do
  match c.args with
  | [] =>
    Work.say (c.environment.flatMap fun (k, v) ↦ k ++ 61 :: v ++ [10])
    return 0
  | names =>
    let found := names.filterMap fun name ↦ c.environment.lookup name
    Work.say (found.flatMap (· ++ [10]))
    return if found.length = names.length then 0 else 1

end MountSweep.Rehearsal
