import MountSweep.Posix.FileSystem.Calls

namespace MountSweep.Posix.FileSystem

/-- Whether something is mounted at a path: what is there is no symbolic link, and it lies on
another device than its parent or is its own parent. -/
def isMountPoint (fs : FileSystem) (p : Path) : Bool :=
  if p.contains 0 then false
  else
    match fs.stat false p, fs.stat true (p.joinName "..") with
    | .ok here, .ok above =>
      here.kind ≠ .link && (here.dev ≠ above.dev || here.ino = above.ino)
    | _, _ => false

def isFile (fs : FileSystem) (p : Path) : Bool :=
  if p.contains 0 then false
  else
    match fs.stat true p with
    | .ok s => s.kind = .file
    | .error _ => false

end MountSweep.Posix.FileSystem
