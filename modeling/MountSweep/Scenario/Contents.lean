import MountSweep.Posix.FileSystem.Temporary
import MountSweep.Scenario.Attribute

namespace MountSweep.Scenario

open Posix Check

def openRead (ctx : Context) : Check Unit := do
  let name ← nextName
  copy ctx.dataPath (ctx.src.joinName name)
  assertContent (ctx.mnt.joinName name) ctx.data

def openWrite (ctx : Context) : Check Unit := do
  let name ← nextName
  createEmpty (ctx.src.joinName name)
  let path := ctx.mnt.joinName name
  save path ctx.data
  assertContent path ctx.data

def openAndWrite (flags : FileSystem.OpenFlags) (p : Path) (data : Bytes) (fs : FileSystem) :
    Except Errno FileSystem := do
  let (h, fs) ← fs.openFile flags p
  return (← fs.write h data).2

def append (ctx : Context) : Check Unit := do
  let name ← nextName
  createEmpty (ctx.src.joinName name)
  let path := ctx.mnt.joinName name
  change ("write(" ++ path.display ++ ", O_WRONLY)") path
    (openAndWrite { write := true } path (Bytes.ofString "foo\n"))
  change ("write(" ++ path.display ++ ", O_WRONLY | O_APPEND)") path
    (openAndWrite { write := true, append := true } path (Bytes.ofString "bar\n"))
  assertContent path (Bytes.ofString "foo\nbar\n")

def writeAt (p : Path) (offset : Nat) (data : Bytes) : Check Unit := do
  let h ← openFile ("open(" ++ p.display ++ ", O_WRONLY)") p { write := true }
  let _ ← write ("pwrite(" ++ p.display ++ ", offset " ++ toString offset ++ ")")
    { h with offset } data

/-- A gap before what is written reads as zeros, and writing in the middle keeps the rest. -/
def seek (ctx : Context) : Check Unit := do
  let name ← nextName
  createEmpty (ctx.src.joinName name)
  let path := ctx.mnt.joinName name
  writeAt path 1 (Bytes.ofString "foobar\n")
  writeAt path 4 (Bytes.ofString "com")
  assertContent path (Bytes.ofString "\x00foocom\n")

def growth : Nat := 1024

def shrunk (size : Nat) : Check Nat :=
  if size < growth then fail (.panicked "attempt to subtract with overflow")
  else return size - growth

def truncatePath (ctx : Context) : Check Unit := do
  let data := ctx.data
  let path := ctx.mnt.joinName (← nextName)
  save path data
  let size := (← lstat path).size
  expectNat "st_size" data.length size
  let truncate := fun length ↦
    changeBare ("truncate(" ++ path.display ++ ", " ++ toString length ++ ")") path fun fs ↦
      fs.truncate path length
  truncate (size + growth)
  expectNat "st_size after grow" (size + growth) (← lstat path).size
  assertContent path (FileSystem.resize data (data.length + growth))
  let less ← shrunk size
  truncate less
  expectNat "st_size after shrink" less (← lstat path).size
  assertContent path (data.take less)
  Check.unlink path

/-- Makes a temporary file in a directory and opens it; a failure is reported with the path. -/
def makeTemporary (dir : Path) : Check (Path × FileSystem.Handle) :=
  operate ("mkstemp in " ++ dir.display) (·.openTemporary dir)

def removeTemporary (p : Path) : Check Unit :=
  modify fun w ↦
    match w.files.unlink p with
    | .ok files => { w with files }
    | .error _ => w

def resizeOpen (data : Bytes) (h : FileSystem.Handle) : Check Unit := do
  let h ← write "write(tmpfile)" h data
  let size ← sizeOpen "fstat(tmpfile)" h
  expectNat "st_size" data.length size
  let truncate := fun length ↦
    truncateOpen ("ftruncate(tmpfile, " ++ toString length ++ ")") h length
  truncate (size + growth)
  expectNat "st_size after grow" (size + growth) (← sizeOpen "fstat(tmpfile)" h)
  let contents ← readOpen "read(tmpfile)" h
  expectNat "read length" (data.length + growth) contents.length
  expectBytes "grown prefix" data (contents.take data.length)
  expect "grown tail" "1024 zero bytes" ((contents.drop data.length).all (· = 0))
  let less ← shrunk size
  truncate less
  expectNat "st_size after shrink" less (← sizeOpen "fstat(tmpfile)" h)
  let contents ← readOpen "read(tmpfile)" h
  expectBytes "shrunk content" (data.take less) contents

/-- A temporary file grows and shrinks through its descriptor, and is removed in any case. -/
def truncateFd (ctx : Context) : Check Unit := do
  let (path, h) ← makeTemporary ctx.mnt
  try resizeOpen ctx.data h
  catch f =>
    removeTemporary path
    fail f
  removeTemporary path

def sharedAttributes : List Attribute := [.mode, .nlink, .uid, .gid, .size, .mtime]

def passthroughFrom (ctx : Context) (throughMount : Bool) : Check Unit := do
  let name ← nextName
  let src := ctx.src.joinName name
  let mnt := ctx.mnt.joinName name
  assertNotListed name ctx.src
  assertNotListed name ctx.mnt
  save (if throughMount then mnt else src) (Bytes.ofString "Hello, world")
  assertListed name ctx.src
  waitForCache ctx 1
  assertListed name ctx.mnt
  assertSame name (← lstat src) (← lstat mnt) sharedAttributes

def passthrough (ctx : Context) : Check Unit := do
  passthroughFrom ctx false
  passthroughFrom ctx true

def openUnlink (ctx : Context) : Check Unit := do
  let name ← nextName
  let path := ctx.mnt.joinName name
  let h ← openFile ("open(" ++ path.display ++ ", O_CREAT | O_RDWR | O_TRUNC)") path
    { write := true, create := true, truncate := true }
  let h ← write "write(fd)" h (Bytes.ofString "foo")
  Check.unlink path
  assertNotFound path
  assertNotListed name ctx.mnt
  let h ← write "write(fd)" h (Bytes.ofString "bar")
  let contents ← readOpen "read(fd)" h
  expectBytes "read(fd)" (Bytes.ofString "foobar") contents

end MountSweep.Scenario
