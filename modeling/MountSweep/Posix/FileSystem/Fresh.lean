import MountSweep.Posix.FileSystem.Calls

namespace MountSweep.Posix.FileSystem

def freshDir (parent : Ino) (entries : List (String × Ino)) (dev : Nat) : Inode :=
  { node := .dir (entries.map fun (name, i) ↦ (Bytes.ofString name, i)) parent
    mode := 0o755
    dev }

def freshDevice (d : Device) : Inode :=
  { node := .device d, mode := 0o666, dev := 2 }

def firstProgram : Ino := 12

def programMark : Bytes := 0x7f :: Bytes.ofString "ELF"

def programContent (name : String) : Bytes := programMark ++ Bytes.ofString name

/-- A fresh file system at a time, with programs of these names under `/usr/bin`. -/
def fresh (programs : List String) (now : Stamp) : FileSystem :=
  let numbered := programs.zipIdx firstProgram
  { inodes := [
      (root, freshDir root
        [("dev", 2), ("proc", 6), ("sys", 7), ("tmp", 8), ("usr", 9), ("bin", 11)] 1),
      (2, freshDir root [("null", 3), ("full", 4), ("zero", 5)] 2),
      (3, freshDevice .null),
      (4, freshDevice .full),
      (5, freshDevice .zero),
      (6, freshDir root [] 3),
      (7, freshDir root [] 4),
      (8, freshDir root [] 1),
      (9, freshDir root [("bin", 10)] 1),
      (10, freshDir 9 numbered 1),
      (11, { node := .link (Bytes.ofString "usr/bin"), mode := 0o777 })] ++
      numbered.map fun (name, i) ↦ (i, { node := .file (programContent name), mode := 0o755 })
    next := firstProgram + programs.length
    cwd := root
    now }

def enter (fs : FileSystem) (p : Path) : FileSystem :=
  match fs.mkdirs p with
  | .ok fs =>
    match fs.lookup true p with
    | .ok i => { fs with cwd := i }
    | .error _ => fs
  | .error _ => fs

end MountSweep.Posix.FileSystem
