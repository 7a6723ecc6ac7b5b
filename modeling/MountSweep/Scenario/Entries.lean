import MountSweep.Scenario.Attribute

namespace MountSweep.Scenario

open Posix Check

def create (ctx : Context) : Check Unit := do
  let name ← nextName
  let path := ctx.mnt.joinName name
  assertNotFound path
  assertNotListed name ctx.mnt
  createEmpty path
  assertListed name ctx.mnt
  let s ← lstat path
  expect "S_ISREG(st_mode)" "regular file" (s.kind = .file)
  expectNat "st_nlink" 1 s.nlink
  expectNat "st_size" 0 s.size
  expectNat "st_uid" ctx.caller.uid s.uid
  expectNat "st_gid" ctx.caller.gid s.gid

def isBareLinkCount (n : Nat) : Bool := n = 1 || n = 2

def mkdir (ctx : Context) : Check Unit := do
  let name ← nextName
  let path := ctx.mnt.joinName name
  Check.mkdir path
  let s ← lstat path
  expect "S_ISDIR(st_mode)" "directory" (s.kind = .dir)
  expectNames "readdir(new dir)" [] (← listing path)
  expect "st_nlink" "1 or 2" (isBareLinkCount s.nlink)
  assertListed name ctx.mnt

def mkdirRmdir (ctx : Context) : Check Unit := do
  let name ← nextName
  let path := ctx.mnt.joinName name
  Check.mkdir path
  assertListed name ctx.mnt
  let s ← lstat path
  expect "st_nlink" "1 or 2" (isBareLinkCount s.nlink)
  Check.rmdir path
  assertNotListed name ctx.mnt
  assertNotListed name ctx.src

def readdir (ctx : Context) : Check Unit := do
  let newName ← nextName
  let src := ctx.src.joinName newName
  let mnt := ctx.mnt.joinName newName
  let fileName ← nextName
  let subdirName ← nextName
  let file := src.joinName fileName
  let subdir := src.joinName subdirName
  let subfile := subdir.joinName (← nextName)
  Check.mkdir src
  copy ctx.dataPath file
  Check.mkdir subdir
  copy ctx.dataPath subfile
  expectNames ("readdir(" ++ mnt.display ++ ")") (sorted [fileName, subdirName]) (← listing mnt)
  Check.unlink file
  Check.unlink subfile
  Check.rmdir subdir
  Check.rmdir src

def rmdir (ctx : Context) : Check Unit := do
  let name ← nextName
  let path := ctx.mnt.joinName name
  Check.mkdir (ctx.src.joinName name)
  waitForCache ctx 1
  assertListed name ctx.mnt
  Check.rmdir path
  assertNotFound path
  assertNotListed name ctx.mnt
  assertNotListed name ctx.src

def unlink (ctx : Context) : Check Unit := do
  let name ← nextName
  let path := ctx.mnt.joinName name
  save (ctx.src.joinName name) (Bytes.ofString "hello")
  waitForCache ctx 1
  assertListed name ctx.mnt
  Check.unlink path
  assertNotFound path
  assertNotListed name ctx.mnt
  assertNotListed name ctx.src

/-- Moving a file keeps it and its attributes; only the time of the last change may advance. -/
def rename (ctx : Context) : Check Unit := do
  let path1 := ctx.mnt.joinName (← nextName)
  let name2 ← nextName
  let path2 := ctx.mnt.joinName name2
  let data := Bytes.ofString "foo"
  save path1 data
  let before ← lstat path1
  operate ("rename(" ++ path1.display ++ ", " ++ path2.display ++ ")") fun fs ↦
    (onPaths [path1, path2] zeroByte (fs.rename path1 path2)).map ((), ·)
  waitForCache ctx 0
  let after ← lstat path2
  let content ← contents path2
  assertSame "rename" before after
    [.mode, .dev, .uid, .gid, .size, .atimeNanos, .mtimeNanos, .ino]
  expect "rename.st_ctime_ns" "non-decreasing"
    (Attribute.ctimeNanos.value before ≤ Attribute.ctimeNanos.value after)
  assertListed name2 ctx.mnt
  assertNotFound path1
  expectBytes "read(renamed)" data content

def link (ctx : Context) : Check Unit := do
  let path1 := ctx.mnt.joinName (← nextName)
  let name2 ← nextName
  let path2 := ctx.mnt.joinName name2
  copy ctx.dataPath path1
  assertSameContent path1 ctx.dataPath
  expectNat "st_nlink before link" 1 (← lstat path1).nlink
  operate ("link(" ++ path1.display ++ ", " ++ path2.display ++ ")") fun fs ↦
    (onPaths [path1, path2] zeroByte (fs.link path1 path2)).map ((), ·)
  waitForCache ctx 0
  let s1 ← lstat path1
  expectNat "st_nlink after link" 2 s1.nlink
  let s2 ← lstat path2
  assertSame "link" s1 s2
    [.mode, .dev, .uid, .gid, .size, .atimeNanos, .mtimeNanos, .ctimeNanos]
  assertListed name2 ctx.mnt
  assertSameContent path1 path2
  Check.unlink path2
  assertNotListed name2 ctx.mnt
  assertNotFound path2
  expectNat "st_nlink after unlink" 1 (← lstat path1).nlink
  assertSameContent path1 ctx.dataPath
  Check.unlink path1

def symlinkTarget : String := "/imaginary/dest"

def symlink (ctx : Context) : Check Unit := do
  let name ← nextName
  let path := ctx.mnt.joinName name
  let target := Bytes.ofString symlinkTarget
  change ("symlink(" ++ symlinkTarget ++ ", " ++ path.display ++ ")") path fun fs ↦
    fs.symlink target path
  let s ← lstat path
  expect "S_ISLNK(st_mode)" "symlink" (s.kind = .link)
  let observed ← query ("readlink(" ++ path.display ++ ")") path fun fs ↦ fs.readlink path
  expectEq Path.quoted "readlink" target observed
  expectNat "st_nlink" 1 s.nlink
  assertListed name ctx.mnt

end MountSweep.Scenario
