import MountSweep.Path
import MountSweep.Posix.Errno

namespace MountSweep.Posix

abbrev Ino := Nat

inductive Device
  | null
  | full
  | zero
  deriving DecidableEq, Repr

/-- What an inode is. A directory knows the inode in which it lies. -/
inductive Node
  | file (content : Bytes)
  | dir (entries : List (Bytes × Ino)) (parent : Ino)
  | link (target : Bytes)
  | device (d : Device)
  deriving DecidableEq, Repr

inductive FileKind
  | file | dir | link | other
  deriving DecidableEq, Repr

def Node.kind : Node → FileKind
  | .file _ => .file
  | .dir .. => .dir
  | .link _ => .link
  | .device _ => .other

abbrev Stamp := Int

structure Inode where
  node : Node
  mode : Nat
  uid : Nat := 0
  gid : Nat := 0
  links : Nat := 1
  dev : Nat := 1
  atime : Stamp := 0
  mtime : Stamp := 0
  ctime : Stamp := 0
  deriving DecidableEq, Repr

/-- A file system and the place from which relative paths start. -/
structure FileSystem where
  inodes : List (Ino × Inode)
  next : Ino
  cwd : Ino
  now : Stamp := 0
  /-- The nanoseconds that pass before each of the next changes; after these the clock stands. -/
  delays : List Nat := []
  uid : Nat := 0
  gid : Nat := 0
  countsDirs : Bool := true
  deriving DecidableEq, Repr

namespace FileSystem

def root : Ino := 1

def get? (fs : FileSystem) (i : Ino) : Option Inode :=
  fs.inodes.lookup i

/-- Association lists with the value of a key replaced, or put in front if the key is new. -/
def putInode (i : Ino) (n : Inode) : List (Ino × Inode) → List (Ino × Inode)
  | [] => [(i, n)]
  | (j, m) :: rest => if j = i then (i, n) :: rest else (j, m) :: putInode i n rest

def put (fs : FileSystem) (i : Ino) (n : Inode) : FileSystem :=
  { fs with inodes := putInode i n fs.inodes }

def update (fs : FileSystem) (i : Ino) (f : Inode → Inode) : FileSystem :=
  match fs.get? i with
  | some n => fs.put i (f n)
  | none => fs

theorem lookup_putInode (i j : Ino) (n : Inode) (ns : List (Ino × Inode)) :
    (putInode i n ns).lookup j = if j = i then some n else ns.lookup j := by
  induction ns with
  | nil =>
    by_cases h : j = i
    · simp [putInode, h]
    · simp [putInode, List.lookup_cons, h, beq_eq_false_iff_ne.2 h]
  | cons e rest ih =>
    obtain ⟨k, m⟩ := e
    by_cases hk : k = i
    · by_cases h : j = i
      · simp [putInode, hk, h]
      · simp [putInode, List.lookup_cons, hk, h, beq_eq_false_iff_ne.2 h]
    · by_cases h : j = k
      · simp [putInode, hk, h]
      · simp [putInode, List.lookup_cons, hk, beq_eq_false_iff_ne.2 h, ih]

theorem get?_put (fs : FileSystem) (i j : Ino) (n : Inode) :
    (fs.put i n).get? j = if j = i then some n else fs.get? j :=
  lookup_putInode i j n fs.inodes

def elapse (fs : FileSystem) : FileSystem :=
  match fs.delays with
  | [] => fs
  | delay :: delays => { fs with now := fs.now + delay, delays }

def entries? (fs : FileSystem) (i : Ino) : Option (List (Bytes × Ino)) :=
  match fs.get? i with
  | some { node := .dir entries _, .. } => some entries
  | _ => none

def parent? (fs : FileSystem) (i : Ino) : Option Ino :=
  match fs.get? i with
  | some { node := .dir _ parent, .. } => some parent
  | _ => none

def child? (fs : FileSystem) (dir : Ino) (name : Bytes) : Option Ino :=
  (fs.entries? dir).bind (·.lookup name)

def editEntries (fs : FileSystem) (dir : Ino)
    (f : List (Bytes × Ino) → List (Bytes × Ino)) : FileSystem :=
  fs.update dir fun n ↦
    match n.node with
    | .dir entries parent =>
      { n with node := .dir (f entries) parent, mtime := fs.now, ctime := fs.now }
    | _ => n

def attach (fs : FileSystem) (dir : Ino) (name : Bytes) (i : Ino) : FileSystem :=
  fs.editEntries dir (· ++ [(name, i)])

def detach (fs : FileSystem) (dir : Ino) (name : Bytes) : FileSystem :=
  fs.editEntries dir (·.filter (·.1 ≠ name))

def newInode (fs : FileSystem) (dir : Ino) (node : Node) (mode : Nat) : Inode where
  node
  mode
  uid := fs.uid
  gid := fs.gid
  dev := ((fs.get? dir).map Inode.dev).getD 1
  atime := fs.now
  mtime := fs.now
  ctime := fs.now

/-- A new inode with these contents and permissions, under a name in a directory. -/
def make (fs : FileSystem) (dir : Ino) (name : Bytes) (node : Node) (mode : Nat) :
    Ino × FileSystem :=
  let n := fs.newInode dir node mode
  (fs.next, { fs.put fs.next n with next := fs.next + 1 }.attach dir name fs.next)

def relink (fs : FileSystem) (i : Ino) (f : Nat → Nat) : FileSystem :=
  fs.update i fun n ↦ { n with links := f n.links, ctime := fs.now }

/-- The attributes of an inode, as system calls report them. -/
structure Stat where
  ino : Ino
  dev : Nat
  kind : FileKind
  mode : Nat
  nlink : Nat
  uid : Nat
  gid : Nat
  size : Nat
  atime : Stamp
  mtime : Stamp
  ctime : Stamp
  deriving DecidableEq, Repr

def Stat.fullMode (s : Stat) : Nat :=
  match s.kind with
  | .file => 0o100000 + s.mode
  | .dir => 0o040000 + s.mode
  | .link => 0o120000 + s.mode
  | .other => 0o020000 + s.mode

def dirSize : Nat := 4096

/-- The attributes of an inode; a directory has two names and one more for each directory in
it, or always one name. -/
def statOf (fs : FileSystem) (i : Ino) (n : Inode) : Stat :=
  let size :=
    match n.node with
    | .file content => content.length
    | .dir .. => dirSize
    | .link target => target.length
    | .device _ => 0
  let nlink :=
    match n.node with
    | .dir entries _ =>
      if fs.countsDirs then 2 + entries.countP fun (_, j) ↦ (fs.entries? j).isSome else 1
    | _ => n.links
  ⟨i, n.dev, n.node.kind, n.mode, nlink, n.uid, n.gid, size, n.atime, n.mtime, n.ctime⟩

end FileSystem

end MountSweep.Posix
