import MountSweep.Posix.FileSystem.Walk

namespace MountSweep.Posix.FileSystem

def umask : Nat := 0o022

def masked (mode : Nat) : Nat := mode &&& (0o7777 ^^^ umask)

def stat (fs : FileSystem) (follow : Bool) (p : Path) : Except Errno Stat := do
  let i ← fs.lookup follow p
  match fs.get? i with
  | some n => return fs.statOf i n
  | none => throw .noEntry

def statOpen (fs : FileSystem) (i : Ino) : Except Errno Stat :=
  match fs.get? i with
  | some n => .ok (fs.statOf i n)
  | none => .error .badDescriptor

def freePlace (fs : FileSystem) (p : Path) : Except Errno (Ino × Bytes × Bool) := do
  let place ← fs.place p
  match place.last with
  | .name name =>
    if (fs.child? place.dir name).isSome then throw .alreadyExists
    else return (place.dir, name, place.slash)
  | _ => throw .alreadyExists

/-- The place of a new entry that is no directory, after which no slash may come. -/
def freeFilePlace (fs : FileSystem) (p : Path) : Except Errno (Ino × Bytes) := do
  let (dir, name, slash) ← fs.freePlace p
  if slash then throw .noEntry
  else return (dir, name)

def mkdir (fs : FileSystem) (p : Path) : Except Errno FileSystem := do
  let (dir, name, _) ← fs.freePlace p
  return (fs.make dir name (.dir [] dir) (masked 0o777)).2

def symlink (fs : FileSystem) (target : Bytes) (p : Path) : Except Errno FileSystem := do
  if target = [] then throw .noEntry
  let (dir, name) ← fs.freeFilePlace p
  return (fs.make dir name (.link target) 0o777).2

def readlink (fs : FileSystem) (p : Path) : Except Errno Bytes := do
  let i ← fs.lookup false p
  match fs.get? i with
  | some { node := .link target, .. } => return target
  | _ => throw .invalidArgument

def link (fs : FileSystem) (old new : Path) : Except Errno FileSystem := do
  let i ← fs.lookup false old
  let (dir, name) ← fs.freeFilePlace new
  if fs.isDir i then throw .notPermitted
  if (fs.get? i).map Inode.dev ≠ (fs.get? dir).map Inode.dev then throw .crossDevice
  return (fs.relink i (· + 1)).attach dir name i

def entryAt (fs : FileSystem) (place : Place) (name : Bytes) : Except Errno Ino :=
  match fs.child? place.dir name with
  | some i => .ok i
  | none => .error .noEntry

def unlink (fs : FileSystem) (p : Path) : Except Errno FileSystem := do
  let place ← fs.place p
  match place.last with
  | .name name =>
    let i ← fs.entryAt place name
    if fs.isDir i then throw .isDirectory
    if place.slash then throw .notDirectory
    return (fs.detach place.dir name).relink i (· - 1)
  | _ => throw .isDirectory

def rmdir (fs : FileSystem) (p : Path) : Except Errno FileSystem := do
  let place ← fs.place p
  match place.last with
  | .name name =>
    let i ← fs.entryAt place name
    match fs.entries? i with
    | none => throw .notDirectory
    | some [] => return fs.detach place.dir name
    | some (_ :: _) => throw .notEmpty
  | .root => throw .busy
  | .dot => throw .invalidArgument
  | .dotDot => throw .notEmpty

/-- Whether the directory `i` lies below the directory `top` or is it, looking at most `depth`
directories up. -/
def isBelow (fs : FileSystem) (top : Ino) : Nat → Ino → Bool
  | 0, _ => false
  | depth + 1, i =>
    i = top ||
      match fs.parent? i with
      | some j => j ≠ i && isBelow fs top depth j
      | none => false

/-- Moves the entry `i` from one place to another at which `occupant` stands, if anything. -/
def move (fs : FileSystem) (i : Ino) (fromDir : Ino) (fromName : Bytes) (toDir : Ino)
    (toName : Bytes) (occupant : Option Ino) : FileSystem :=
  let fs :=
    match occupant with
    | some j => (fs.detach toDir toName).relink j (· - 1)
    | none => fs
  let fs := ((fs.detach fromDir fromName).attach toDir toName i).relink i id
  fs.update i fun n ↦
    match n.node with
    | .dir entries _ => { n with node := .dir entries toDir }
    | _ => n

/-- Moves a file or directory to another path; what stands there is replaced, a directory only
by a directory and only if it is empty. -/
def rename (fs : FileSystem) (old new : Path) : Except Errno FileSystem := do
  let source ← fs.place old
  let target ← fs.place new
  match source.last, target.last with
  | .name oldName, .name newName =>
    if (fs.get? source.dir).map Inode.dev ≠ (fs.get? target.dir).map Inode.dev then
      throw .crossDevice
    let i ← fs.entryAt source oldName
    let occupant := fs.child? target.dir newName
    let moved := fs.entries? i
    if moved.isNone && (source.slash || target.slash) then throw .notDirectory
    if moved.isSome && fs.isBelow i fs.inodes.length target.dir then throw .invalidArgument
    match occupant with
    | none => return fs.move i source.dir oldName target.dir newName none
    | some j =>
      if j = i then return fs
      if fs.isBelow j fs.inodes.length source.dir then throw .notEmpty
      match moved, fs.entries? j with
      | some _, none => throw .notDirectory
      | none, some _ => throw .isDirectory
      | some _, some (_ :: _) => throw .notEmpty
      | _, _ => return fs.move i source.dir oldName target.dir newName (some j)
  | _, _ => throw .busy

def readdir (fs : FileSystem) (p : Path) : Except Errno (List Bytes) := do
  let i ← fs.lookup true p
  match fs.entries? i with
  | some entries => return entries.map (·.1)
  | none => throw .notDirectory

structure OpenFlags where
  write : Bool := false
  append : Bool := false
  create : Bool := false
  exclusive : Bool := false
  truncate : Bool := false
  mode : Nat := 0o666
  deriving DecidableEq, Repr

/-- An open descriptor: the file it refers to and where it stands in it. -/
structure Handle where
  ino : Ino
  offset : Nat := 0
  append : Bool := false
  deriving DecidableEq, Repr

def setContent (fs : FileSystem) (i : Ino) (f : Bytes → Bytes) : FileSystem :=
  fs.update i fun n ↦
    match n.node with
    | .file content => { n with node := .file (f content), mtime := fs.now, ctime := fs.now }
    | _ => n

def openExisting (fs : FileSystem) (flags : OpenFlags) (i : Ino) :
    Except Errno (Handle × FileSystem) :=
  if fs.isDir i && (flags.write || flags.create) then .error .isDirectory
  else
    let fs := if flags.truncate then fs.setContent i fun _ ↦ [] else fs
    .ok ({ ino := i, append := flags.append }, fs)

def openNew (fs : FileSystem) (flags : OpenFlags) (dir : Ino) (name : Bytes) :
    Handle × FileSystem :=
  let (i, fs) := fs.make dir name (.file []) (masked flags.mode)
  ({ ino := i, append := flags.append }, fs)

def openFile (fs : FileSystem) (flags : OpenFlags) (p : Path) :
    Except Errno (Handle × FileSystem) := do
  if flags.create && flags.exclusive then
    let (dir, name, slash) ← fs.freePlace p
    if slash then throw .isDirectory
    return fs.openNew flags dir name
  else if flags.create then
    let r ← Route.ofPath p
    match ← fs.opening maxLinks (fs.start r) r with
    | .existing i => fs.openExisting flags i
    | .missing dir name => return fs.openNew flags dir name
  else
    fs.openExisting flags (← fs.lookup true p)

def readAt (fs : FileSystem) (i : Ino) (offset limit : Nat) : Except Errno Bytes :=
  match (fs.get? i).map Inode.node with
  | some (.file content) => .ok ((content.drop offset).take limit)
  | some (.device .null) => .ok []
  | some (.device _) => .ok (List.replicate limit 0)
  | some (.dir ..) => .error .isDirectory
  | _ => .error .invalidArgument

/-- All that is left to read from `offset` on; an endless file exhausts the memory. -/
def readToEnd (fs : FileSystem) (i : Ino) (offset : Nat) : Except Errno Bytes :=
  match (fs.get? i).map Inode.node with
  | some (.file content) => .ok (content.drop offset)
  | some (.device .null) => .ok []
  | some (.device _) => .error .outOfMemory
  | some (.dir ..) => .error .isDirectory
  | _ => .error .invalidArgument

/-- Bytes with others written over them from `offset` on, a gap filled with zeros. -/
def overwrite (content : Bytes) (offset : Nat) (data : Bytes) : Bytes :=
  content.take offset ++ List.replicate (offset - content.length) 0 ++ data ++
    content.drop (offset + data.length)

def resize (content : Bytes) (length : Nat) : Bytes :=
  content.take length ++ List.replicate (length - content.length) 0

def write (fs : FileSystem) (h : Handle) (data : Bytes) : Except Errno (Handle × FileSystem) :=
  if data = [] then .ok (h, fs)
  else
    match (fs.get? h.ino).map Inode.node with
    | some (.file content) =>
      let offset := if h.append then content.length else h.offset
      .ok ({ h with offset := offset + data.length },
        fs.setContent h.ino (overwrite · offset data))
    | some (.device .full) => .error .noSpace
    | some (.device _) => .ok (h, fs)
    | _ => .error .badDescriptor

def truncateOpen (fs : FileSystem) (i : Ino) (length : Nat) : Except Errno FileSystem :=
  match (fs.get? i).map Inode.node with
  | some (.file _) => .ok (fs.setContent i (resize · length))
  | _ => .error .invalidArgument

def truncate (fs : FileSystem) (p : Path) (length : Nat) : Except Errno FileSystem := do
  let i ← fs.lookup true p
  if fs.isDir i then throw .isDirectory
  fs.truncateOpen i length

def chmod (fs : FileSystem) (p : Path) (mode : Nat) : Except Errno FileSystem := do
  let i ← fs.lookup true p
  return fs.update i fun n ↦ { n with mode := mode &&& 0o7777, ctime := fs.now }

def chown (fs : FileSystem) (p : Path) (uid gid : Option Nat) : Except Errno FileSystem := do
  let i ← fs.lookup true p
  return fs.update i fun n ↦
    { n with uid := uid.getD n.uid, gid := gid.getD n.gid, ctime := fs.now }

def utimens (fs : FileSystem) (p : Path) (atime mtime : Option Stamp) :
    Except Errno FileSystem := do
  let i ← fs.lookup true p
  return fs.update i fun n ↦
    { n with atime := atime.getD fs.now, mtime := mtime.getD fs.now, ctime := fs.now }

def contents (fs : FileSystem) (p : Path) : Except Errno Bytes := do
  let (h, fs) ← fs.openFile {} p
  fs.readToEnd h.ino 0

def save (fs : FileSystem) (p : Path) (data : Bytes) : Except Errno FileSystem := do
  let (h, fs) ← fs.openFile { write := true, create := true, truncate := true } p
  return (← fs.write h data).2

def orExisting (fs : FileSystem) (p : Path) (e : Errno) : Except Errno FileSystem :=
  match fs.stat true p with
  | .ok s => if s.kind = .dir then .ok fs else .error e
  | .error _ => .error e

def mkdirsUpTo : Nat → FileSystem → Path → Except Errno FileSystem
  | 0, fs, _ => .ok fs
  | depth + 1, fs, p =>
    if p = [] then .ok fs
    else
      match fs.mkdir p with
      | .ok fs => .ok fs
      | .error e =>
        if e = .noEntry then
          match mkdirsUpTo depth fs p.parent with
          | .error e => .error e
          | .ok fs =>
            match fs.mkdir p with
            | .ok fs => .ok fs
            | .error e => fs.orExisting p e
        else fs.orExisting p e

def mkdirs (fs : FileSystem) (p : Path) : Except Errno FileSystem :=
  mkdirsUpTo (p.length + 1) fs p

/-- Removes a file, or a directory with all that is in it, at most `depth` levels of them. -/
def removeAllUpTo : Nat → FileSystem → Path → Except Errno FileSystem
  | 0, fs, p => fs.unlink p
  | depth + 1, fs, p =>
    match fs.stat false p with
    | .error e => .error e
    | .ok s =>
      if s.kind = .dir then do
        let names ← fs.readdir p
        let fs ← names.foldlM (fun fs n ↦ removeAllUpTo depth fs (p.join n)) fs
        fs.rmdir p
      else fs.unlink p

def removeAll (fs : FileSystem) (p : Path) : Except Errno FileSystem :=
  removeAllUpTo fs.inodes.length fs p

/-- The path of a directory, looking at most `depth` directories up; that of the root is empty. -/
def pathOf (fs : FileSystem) : Nat → Ino → Path
  | 0, _ => []
  | depth + 1, i =>
    match fs.parent? i with
    | some j =>
      if j = i then []
      else
        match ((fs.entries? j).getD []).find? (·.2 = i) with
        | some (name, _) => pathOf fs depth j ++ Path.slash :: name
        | none => []
    | none => []

def directoryPath (fs : FileSystem) (i : Ino) : Path := fs.pathOf fs.inodes.length i

def absolute (fs : FileSystem) (p : Path) : Path := (fs.directoryPath fs.cwd).join p

/-- A listing of a directory and all below it: the path of each entry from there and its inode,
for at most `depth` levels. -/
def walkTree (fs : FileSystem) : Nat → Path → Ino → List (Path × Ino)
  | 0, _, _ => []
  | depth + 1, base, dir =>
    ((fs.entries? dir).getD []).flatMap fun (name, i) ↦
      let p := base.join name
      (p, i) :: walkTree fs depth p i

def tree (fs : FileSystem) (dir : Ino) : List (Path × Ino) :=
  (fs.walkTree fs.inodes.length [] dir).mergeSort fun a b ↦ Bytes.isLe a.1 b.1

end MountSweep.Posix.FileSystem
