import MountSweep.Posix.FileSystem.Basic

namespace MountSweep.Posix.FileSystem

def maxLinks : Nat := 40

def maxName : Nat := 255

def maxPath : Nat := 4095

structure Route where
  absolute : Bool
  parts : List Bytes
  slash : Bool
  deriving DecidableEq, Repr

def Route.ofPath (p : Path) : Except Errno Route :=
  if p = [] then .error .noEntry
  else if maxPath < p.length then .error .nameTooLong
  else .ok ⟨p.isAbsolute, p.parts, p.getLast? = some Path.slash⟩

def dot : Bytes := [46]

def dotDot : Bytes := [46, 46]

/-- The components to walk: a slash at the end asks for the entry of a directory for itself. -/
def Route.steps (r : Route) : List Bytes :=
  if r.slash then r.parts ++ [dot] else r.parts

inductive Stop
  | arrived (i : Ino)
  | atLink (dir : Ino) (target : Bytes) (rest : List Bytes)
  deriving DecidableEq, Repr

/-- Walks from `i` along components up to the next symbolic link; one at the very end is only
stopped at when `follow` holds. -/
def walkPlain (fs : FileSystem) (follow : Bool) (i : Ino) :
    List Bytes → Except Errno Stop
  | [] => .ok (.arrived i)
  | name :: rest =>
    match fs.get? i with
    | some { node := .dir entries parent, .. } =>
      if name = dot then walkPlain fs follow i rest
      else if name = dotDot then walkPlain fs follow parent rest
      else if maxName < name.length then .error .nameTooLong
      else
        match entries.lookup name with
        | none => .error .noEntry
        | some j =>
          match fs.get? j with
          | some { node := .link target, .. } =>
            if rest = [] ∧ !follow then .ok (.arrived j) else .ok (.atLink i target rest)
          | _ => walkPlain fs follow j rest
    | _ => .error .notDirectory

def walk (fs : FileSystem) (follow : Bool) : Nat → Ino → List Bytes → Except Errno Ino
  | links, i, parts =>
    match walkPlain fs follow i parts with
    | .error e => .error e
    | .ok (.arrived j) => .ok j
    | .ok (.atLink dir target rest) =>
      match links with
      | 0 => .error .tooManyLinks
      | links + 1 =>
        match Route.ofPath target with
        | .error e => .error e
        | .ok r => walk fs follow links (if r.absolute then root else dir) (r.steps ++ rest)

def start (fs : FileSystem) (r : Route) : Ino :=
  if r.absolute then root else fs.cwd

def isDir (fs : FileSystem) (i : Ino) : Bool :=
  (fs.entries? i).isSome

/-- The inode to which a path leads. A symbolic link at its end is followed if `follow` holds or
a slash comes after it. -/
def lookup (fs : FileSystem) (follow : Bool) (p : Path) : Except Errno Ino := do
  let r ← Route.ofPath p
  walk fs follow maxLinks (fs.start r) r.steps

inductive Last
  | root | dot | dotDot
  | name (n : Bytes)
  deriving DecidableEq, Repr

/-- Where a path ends: the directory of its last component, that component, and whether a slash
comes after it. -/
structure Place where
  dir : Ino
  last : Last
  slash : Bool
  deriving DecidableEq, Repr

def placeFrom (fs : FileSystem) (i : Ino) (r : Route) : Except Errno Place := do
  match r.parts.getLast? with
  | none => return ⟨i, .root, r.slash⟩
  | some name =>
    let dir ← walk fs true maxLinks i r.parts.dropLast
    if !fs.isDir dir then throw .notDirectory
    if name = dot then return ⟨dir, .dot, r.slash⟩
    else if name = dotDot then return ⟨dir, .dotDot, r.slash⟩
    else if maxName < name.length then throw .nameTooLong
    else return ⟨dir, .name name, r.slash⟩

def place (fs : FileSystem) (p : Path) : Except Errno Place := do
  let r ← Route.ofPath p
  placeFrom fs (fs.start r) r

inductive Opening
  | existing (i : Ino)
  | missing (dir : Ino) (name : Bytes)
  deriving DecidableEq, Repr

/-- The file that a route names, or the free place at which it would be made: symbolic links at
the end are followed even if they lead nowhere. -/
def opening (fs : FileSystem) : Nat → Ino → Route → Except Errno Opening
  | links, i, r =>
    match placeFrom fs i r with
    | .error e => .error e
    | .ok place =>
      match place.last with
      | .name name =>
        match fs.child? place.dir name with
        | none => if r.slash then .error .isDirectory else .ok (.missing place.dir name)
        | some j =>
          if r.slash then .error .isDirectory
          else
            match fs.get? j with
            | some { node := .link target, .. } =>
              match links with
              | 0 => .error .tooManyLinks
              | links + 1 =>
                match Route.ofPath target with
                | .error e => .error e
                | .ok t => opening fs links (if t.absolute then root else place.dir) t
            | _ => .ok (.existing j)
      | _ => .error .isDirectory

end MountSweep.Posix.FileSystem
