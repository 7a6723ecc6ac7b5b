import MountSweep.Posix.FileSystem.Calls

namespace MountSweep.Posix

def zeroByte : SystemError := .stated "file name contained an unexpected NUL byte"

def onPaths (paths : List Path) (refusal : SystemError) (r : Except Errno α) :
    Except SystemError α :=
  if paths.any (·.contains 0) then .error refusal
  else
    match r with
    | .ok a => .ok a
    | .error e => .error (.errno e)

def FileSystem.contentOf (fs : FileSystem) (p : Path) : Except SystemError Bytes :=
  onPaths [p] zeroByte (fs.contents p)

def FileSystem.store (fs : FileSystem) (p : Path) (data : Bytes) : Except SystemError FileSystem :=
  onPaths [p] zeroByte (fs.save p data)

end MountSweep.Posix
