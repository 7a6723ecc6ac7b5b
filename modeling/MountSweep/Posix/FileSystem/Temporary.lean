import MountSweep.Posix.FileSystem.Guarded

namespace MountSweep.Posix.FileSystem

def temporaryLetters : List UInt8 := Bytes.ofString "abcdefghijklmnopqrstuvwxyz"

def temporaryName (stem : Bytes) (n : Nat) : Bytes :=
  let letter := fun k ↦ temporaryLetters.getD (n / Nat.pow 26 k % 26) 97
  stem ++ (List.range 6).reverse.map letter

def freeTemporaryName (stem : Bytes) (taken : List Bytes) : Bytes :=
  ((List.range (taken.length + 1)).map (temporaryName stem)).find? (!taken.contains ·)
    |>.getD (temporaryName stem 0)

def freePath (fs : FileSystem) (dir : Path) (stem : Bytes) : Path :=
  (fs.absolute dir).join (freeTemporaryName stem ((fs.readdir dir).toOption.getD []))

/-- The result of a call on a temporary path; a failure is reported with the path. -/
def onTemporary (p : Path) (r : Except Errno α) : Except SystemError α :=
  match onPaths [p] zeroByte r with
  | .ok a => .ok a
  | .error e => .error (.stated (e.message ++ " at path " ++ p.quoted))

def openTemporary (fs : FileSystem) (dir : Path) :
    Except SystemError ((Path × Handle) × FileSystem) :=
  let path := fs.freePath dir (Bytes.ofString ".tmp")
  let flags : OpenFlags := { write := true, create := true, exclusive := true, mode := 0o600 }
  (onTemporary path (fs.openFile flags path)).map fun (h, fs) ↦ ((path, h), fs)

def mkdirTemporary (fs : FileSystem) (dir : Path) (stem : Bytes) :
    Except SystemError (Path × FileSystem) :=
  let path := fs.freePath dir stem
  (onTemporary path (fs.mkdir path)).map (path, ·)

end MountSweep.Posix.FileSystem
