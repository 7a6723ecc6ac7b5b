import MountSweep.Scenario.Attribute

namespace MountSweep.Scenario

open Posix Check

def utimens (ctx : Context) : Check Unit := do
  let path := ctx.mnt.joinName (← nextName)
  Check.mkdir path
  let before ← lstat path
  let atime := Attribute.atimeNanos.value before + 42
  let mtime := Attribute.mtimeNanos.value before - 42
  Check.utimens ("utimensat(" ++ path.display ++ ")") path (some atime) (some mtime)
  let after ← lstat path
  expectInt "st_atime_ns" atime (Attribute.atimeNanos.value after)
  expectInt "st_mtime_ns" mtime (Attribute.mtimeNanos.value after)

def utimensNow (ctx : Context) : Check Unit := do
  let path := ctx.mnt.joinName (← nextName)
  createEmpty path
  Check.utimens ("utimensat(" ++ path.display ++ ", UTIME_NOW)") path none none
  let s ← lstat path
  expect "st_atime_ns" "non-zero" (Attribute.atimeNanos.value s ≠ 0)
  expect "st_mtime_ns" "non-zero" (Attribute.mtimeNanos.value s ≠ 0)

def statvfs (ctx : Context) : Check Unit :=
  changeBare ("statvfs(" ++ ctx.mnt.display ++ ")") ctx.mnt fun fs ↦
    (fs.lookup true ctx.mnt).map fun _ ↦ fs

def octal (n : Nat) : String := String.ofList (Nat.toDigits 8 n)

def chmod (ctx : Context) : Check Unit := do
  let mode := 0o600
  let path := ctx.mnt.joinName (← nextName)
  createEmpty path
  change ("chmod(" ++ path.display ++ ", " ++ octal mode ++ ")") path fun fs ↦ fs.chmod path mode
  let s ← lstat path
  expectText "st_mode & 0o777" (octal mode) (octal (s.mode &&& 0o777))

def mappedUser : String := "foo_user"

def mappedGroup : String := "bar_group"

def nameOf (accounts : List Account) (id : Nat) : String :=
  match accounts.find? (·.id = id) with
  | some a => a.name
  | none => toString id

def ownerName (ctx : Context) (p : Path) : Check String := do
  return nameOf ctx.caller.users (← lstat p).uid

def groupName (ctx : Context) (p : Path) : Check String := do
  return nameOf ctx.caller.groups (← lstat p).gid

def lookupUser (ctx : Context) (name : String) : Check Account :=
  match ctx.caller.users.find? (·.name = name) with
  | some a => return a
  | none => fail (.skip ("User " ++ name ++ " does not exist"))

/-- A directory that is made behind the mount: its name and its path in the mount. -/
def mkdirBehindMount (ctx : Context) : Check (String × Path) := do
  let name ← nextName
  Check.mkdir (ctx.src.joinName name)
  return (name, ctx.mnt.joinName name)

def nameMapUser (ctx : Context) : Check Unit := do
  let (_, path) ← mkdirBehindMount ctx
  expectText "owner" "root" (← ownerName ctx path)
  expectText "group" "root" (← groupName ctx path)

def nameMapFile (ctx : Context) : Check Unit := do
  let _ ← lookupUser ctx mappedUser
  let (_, path) ← mkdirBehindMount ctx
  expectText "owner" mappedUser (← ownerName ctx path)
  expectText "group" mappedGroup (← groupName ctx path)

def nameMapFileEmpty (ctx : Context) : Check Unit := do
  let (name, path) ← mkdirBehindMount ctx
  assertListed name ctx.mnt
  let src ← lstat (ctx.src.joinName name)
  let mnt ← lstat path
  expect "S_ISDIR(st_mode)" "directory" (mnt.kind = .dir)
  assertSame name src mnt [.uid, .gid]

def chown (ctx : Context) : Check Unit := do
  let mapped ← lookupUser ctx mappedUser
  let path := ctx.mnt.joinName (← nextName)
  Check.mkdir path
  let gid := (← lstat path).gid
  change ("chown(" ++ path.display ++ ", " ++ toString mapped.id ++ ", -1)") path fun fs ↦
    fs.chown path (some mapped.id) none
  let s ← lstat path
  expectNat "st_uid" mapped.id s.uid
  expectNat "st_gid" gid s.gid
  change ("chown(" ++ path.display ++ ", -1, " ++ toString mapped.group ++ ")") path fun fs ↦
    fs.chown path none (some mapped.group)
  let s ← lstat path
  expectNat "st_uid" mapped.id s.uid
  expectNat "st_gid" mapped.group s.gid

end MountSweep.Scenario
