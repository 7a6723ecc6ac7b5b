import MountSweep.NameMap
import MountSweep.Posix.FileSystem.Guarded

namespace MountSweep.NameMapMode

open Posix

/-- Writes the mapping files of a mode into a directory, the one for users first; the first that
cannot be written is reported. -/
def writeMappingFiles (mode : NameMapMode) (dir : Path) (fs : FileSystem) :
    Except SystemError Unit × FileSystem :=
  match mode.mappingFiles dir with
  | Option.none => (.ok (), fs)
  | some (userPath, groupPath) =>
    let (userMap, groupMap) := mode.mappingContents
    match fs.store userPath userMap with
    | .error e => (.error e, fs)
    | .ok fs =>
      match fs.store groupPath groupMap with
      | .error e => (.error e, fs)
      | .ok fs => (.ok (), fs)

end MountSweep.NameMapMode
