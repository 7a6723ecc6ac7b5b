import MountSweep.Shell.Lexer

namespace MountSweep.Shell

def reservedWords : List String :=
  ["if", "then", "elif", "else", "fi", "for", "in", "do", "done", "while", "until", "case",
    "esac", "\x7b", "\x7d", "!"]

def Token.reserved? : Token → Option String
  | .word _ (some bs) => reservedWords.find? (Bytes.ofString · = bs)
  | _ => none

def Token.shown : Token → String
  | .word w bare =>
    match (Token.word w bare).reserved? with
    | some r => "\"" ++ r ++ "\""
    | none => "word"
  | .operator text => "\"" ++ text ++ "\""
  | .descriptor _ => "redirection"
  | .newline => "newline"
  | .finish => "end of file"

def unexpected (t : Token) : Parse α :=
  Parse.fail (t.shown ++ " unexpected")

def unexpectedFor (t : Token) (wanted : String) : Parse α :=
  Parse.fail (t.shown ++ " unexpected (expecting \"" ++ wanted ++ "\")")

def expectReserved (wanted : String) : Parse Unit := do
  let t ← token
  if t.reserved? = some wanted then return () else unexpectedFor t wanted

def expectOperator (wanted : String) : Parse Unit := do
  match ← token with
  | .operator text =>
    if text = wanted then return () else unexpectedFor (.operator text) wanted
  | t => unexpectedFor t wanted

def skipNewlines : Nat → Parse Unit
  | 0 => return ()
  | fuel + 1 => do
    match ← peek with
    | .newline =>
      let _ ← token
      skipNewlines fuel
    | _ => return ()

def expectWord : Parse Word := do
  match ← token with
  | .word w _ => return w
  | t => unexpected t

def expectPattern : Parse Word := do
  match ← token with
  | .word w _ => return w
  | t => unexpectedFor t ")"

/-- The redirection that begins with an operator, from a descriptor if one is given. -/
def redirection (op : String) (descriptor : Option Nat) : Parse Redirection := do
  let w ← expectWord
  match op with
  | "<" => return ⟨descriptor.getD 0, .input w⟩
  | ">" | ">|" => return ⟨descriptor.getD 1, .output false w⟩
  | ">>" => return ⟨descriptor.getD 1, .output true w⟩
  | "<>" => return ⟨descriptor.getD 0, .both w⟩
  | "<<" => return ⟨descriptor.getD 0, .text (← document false w)⟩
  | "<<-" => return ⟨descriptor.getD 0, .text (← document true w)⟩
  | "<&" => return ⟨descriptor.getD 0, .duplicate w⟩
  | _ => return ⟨descriptor.getD 1, .duplicate w⟩

def redirectionOperators : List String :=
  ["<", ">", ">|", ">>", "<>", "<<", "<<-", "<&", ">&"]

def redirection? : Parse (Option Redirection) := do
  match ← peek with
  | .descriptor n =>
    let _ ← token
    match ← token with
    | .operator op =>
      if redirectionOperators.contains op then some <$> redirection op (some n)
      else unexpected (.operator op)
    | t => unexpected t
  | .operator op =>
    if redirectionOperators.contains op then
      let _ ← token
      some <$> redirection op none
    else return none
  | _ => return none

def redirections : Nat → Parse (List Redirection)
  | 0 => return []
  | fuel + 1 => do
    match ← redirection? with
    | some r => return r :: (← redirections fuel)
    | none => return []

def assignment? : Word → Option (Bytes × Word)
  | .text false bs :: rest =>
    let cs := Bytes.letters bs
    let name := cs.takeWhile isNameChar
    match cs.drop name.length with
    | '=' :: value =>
      if name.head?.any isNameStart then
        some (Bytes.ofLetters name,
          if value.isEmpty then rest else .text false (Bytes.ofLetters value) :: rest)
      else none
    | _ => none
  | _ => none

/-- The rest of a simple command after some of its parts, each list with its last part first. -/
def simpleCommand (line : Nat) : Nat → List (Bytes × Word) → List Word → List Redirection →
    Parse Command
  | 0, as, ws, rs => return .simple line as.reverse ws.reverse rs.reverse
  | fuel + 1, as, ws, rs => do
    match ← redirection? with
    | some r => simpleCommand line fuel as ws (r :: rs)
    | none =>
      match ← peek with
      | .word w _ =>
        let _ ← token
        match (if ws.isEmpty then assignment? w else none) with
        | some a => simpleCommand line fuel (a :: as) ws rs
        | none => simpleCommand line fuel as (w :: ws) rs
      | _ =>
        if as.isEmpty && ws.isEmpty && rs.isEmpty then unexpected (← peek)
        else return .simple line as.reverse ws.reverse rs.reverse

/-- The name that a simple command gives to the command that follows, if it is only a name before
a parenthesis. -/
def definedName? : Command → Parse (Option Bytes)
  | .simple _ [] [w] [] => do
    match ← peek, bareText w with
    | .operator "(", some name =>
      let _ ← token
      expectOperator ")"
      let cs := Bytes.letters name
      if !(cs.head?.any isNameStart && cs.all isNameChar) then Parse.fail "Bad function name"
      skipNewlines ((← Parse.rest).length + 1)
      return some name
    | _, _ => return none
  | _ => return none

def values : Nat → Parse (List Word)
  | 0 => return []
  | fuel + 1 => do
    match ← token with
    | .word w _ => return w :: (← values fuel)
    | .newline | .operator ";" => return []
    | t => unexpected t

def patterns : Nat → Parse (List Word)
  | 0 => return []
  | fuel + 1 => do
    let w ← expectPattern
    match ← token with
    | .operator "|" => return w :: (← patterns fuel)
    | .operator ")" => return [w]
    | t => unexpectedFor t ")"

def endsList (t : Token) : Bool :=
  match t with
  | .finish | .operator ")" | .operator ";;" => true
  | t =>
    match t.reserved? with
    | some r => ["then", "elif", "else", "fi", "do", "done", "esac", "\x7d"].contains r
    | none => false

/-- A list of commands that a token ends; a line is ended by nothing but the end of the script. -/
def closeList (oneLine : Bool) (t : Token) (cs : List Command) : Parse Command :=
  match oneLine, t with
  | true, .finish | false, _ => return .sequence cs
  | true, t => unexpected t

mutual

/-- The commands up to a token that ends them, and up to the end of the line if `oneLine`
holds. -/
def commandList (oneLine : Bool) : Nat → List Command → Parse Command
  | 0, acc => return .sequence acc.reverse
  | fuel + 1, acc => do
    if !oneLine then skipNewlines ((← Parse.rest).length + 1)
    let t ← peek
    if endsList t then return ← closeList oneLine t acc.reverse
    let c ← andOr fuel
    match ← peek with
    | .operator ";" =>
      let _ ← token
      if oneLine && (match ← peek with | .newline => true | _ => false) then
        let _ ← token
        return .sequence (c :: acc).reverse
      commandList oneLine fuel (c :: acc)
    | .operator "&" =>
      let _ ← token
      if oneLine && (match ← peek with | .newline => true | _ => false) then
        let _ ← token
        return .sequence (.background c :: acc).reverse
      commandList oneLine fuel (.background c :: acc)
    | .newline =>
      let _ ← token
      if oneLine then return .sequence (c :: acc).reverse
      commandList oneLine fuel (c :: acc)
    | t =>
      if endsList t then closeList oneLine t (c :: acc).reverse else unexpected t

def andOr : Nat → Parse Command
  | 0 => return .nothing
  | fuel + 1 => do andOrAfter fuel (← pipeline fuel)

def andOrAfter : Nat → Command → Parse Command
  | 0, left => return left
  | fuel + 1, left => do
    match ← peek with
    | .operator "&&" =>
      let _ ← token
      skipNewlines ((← Parse.rest).length + 1)
      andOrAfter fuel (.andThen left (← pipeline fuel))
    | .operator "||" =>
      let _ ← token
      skipNewlines ((← Parse.rest).length + 1)
      andOrAfter fuel (.orElse left (← pipeline fuel))
    | _ => return left

def pipeline : Nat → Parse Command
  | 0 => return .nothing
  | fuel + 1 => do
    if (← peek).reserved? = some "!" then
      let _ ← token
      return .negated (← pipeline fuel)
    match ← stages fuel with
    | [c] => return c
    | cs => return .pipeline cs

def stages : Nat → Parse (List Command)
  | 0 => return []
  | fuel + 1 => do
    let c ← command fuel
    match ← peek with
    | .operator "|" =>
      let _ ← token
      skipNewlines ((← Parse.rest).length + 1)
      return c :: (← stages fuel)
    | _ => return [c]

def command : Nat → Parse Command
  | 0 => return .nothing
  | fuel + 1 => do
    let t ← peek
    let line := (← get).line
    match ← compound? t fuel with
    | some c =>
      match ← redirections ((← Parse.rest).length + 1) with
      | [] => return c
      | rs => return .redirected line c rs
    | none =>
      let c ← simpleCommand line ((← Parse.rest).length + 1) [] [] []
      match ← definedName? c with
      | some name => return .define name (← command fuel)
      | none => return c

def compound? (t : Token) : Nat → Parse (Option Command)
  | 0 => return none
  | fuel + 1 => do
    match t with
    | .operator "(" =>
      let _ ← token
      let c ← commandList false fuel []
      expectOperator ")"
      return some (.subshell c)
    | _ =>
      match t.reserved? with
      | some "\x7b" =>
        let _ ← token
        let c ← commandList false fuel []
        expectReserved "\x7d"
        return some c
      | some "if" =>
        let _ ← token
        let c ← branches fuel
        return some c
      | some "while" =>
        let _ ← token
        some <$> loop true fuel
      | some "until" =>
        let _ ← token
        some <$> loop false fuel
      | some "for" =>
        let _ ← token
        some <$> forLoop fuel
      | some "case" =>
        let _ ← token
        let w ← expectWord
        skipNewlines ((← Parse.rest).length + 1)
        expectReserved "in"
        let as ← arms fuel
        return some (.select w as)
      | some "in" => return none
      | some _ => unexpected t
      | none => return none

def branches : Nat → Parse Command
  | 0 => return .nothing
  | fuel + 1 => do
    let test ← commandList false fuel []
    expectReserved "then"
    let yes ← commandList false fuel []
    let t ← token
    match t.reserved? with
    | some "elif" => return .branch test yes (some (← branches fuel))
    | some "else" =>
      let no ← commandList false fuel []
      expectReserved "fi"
      return .branch test yes (some no)
    | some "fi" => return .branch test yes none
    | _ => unexpectedFor t "fi"

def loop (whileSuccess : Bool) : Nat → Parse Command
  | 0 => return .nothing
  | fuel + 1 => do
    let test ← commandList false fuel []
    return .loop whileSuccess test (← body fuel)

def body : Nat → Parse Command
  | 0 => return .nothing
  | fuel + 1 => do
    expectReserved "do"
    let c ← commandList false fuel []
    expectReserved "done"
    return c

def forLoop : Nat → Parse Command
  | 0 => return .nothing
  | fuel + 1 => do
    match ← token with
    | .word _ (some name) =>
      let cs := Bytes.letters name
      if !(cs.head?.any isNameStart && cs.all isNameChar) then
        Parse.fail "Bad for loop variable"
      skipNewlines ((← Parse.rest).length + 1)
      let t ← peek
      let given ←
        if t.reserved? = some "in" then
          let _ ← token
          some <$> values ((← Parse.rest).length + 1)
        else
          match t with
          | .operator ";" =>
            let _ ← token
            pure none
          | _ => pure none
      skipNewlines ((← Parse.rest).length + 1)
      return .each name given (← body fuel)
    | _ => Parse.fail "Bad for loop variable"

def arms : Nat → Parse (List (List Word × Command))
  | 0 => return []
  | fuel + 1 => do
    skipNewlines ((← Parse.rest).length + 1)
    let t ← peek
    if t.reserved? = some "esac" then
      let _ ← token
      return []
    match t with
    | .operator "(" => let _ ← token
    | _ => pure ()
    let ps ← patterns ((← Parse.rest).length + 1)
    let c ← commandList false fuel []
    let t ← token
    match t with
    | .operator ";;" => return (ps, c) :: (← arms fuel)
    | _ => if t.reserved? = some "esac" then return [(ps, c)] else unexpectedFor t ";;"

end

def nextLine : Parse (Option Command) := do
  skipNewlines ((← Parse.rest).length + 1)
  match ← peek with
  | .finish => return none
  | t =>
    let c ← commandList true (16 * ((← Parse.rest).length + 2)) []
    match c with
    | .sequence [] => unexpected t
    | c => return some c

end MountSweep.Shell
