import MountSweep.Config
import MountSweep.Posix.FileSystem.Guarded
import MountSweep.Posix.Process

namespace MountSweep

open Posix

structure ServiceDirs where
  src : Path
  mnt : Path
  conf : Path
  deriving DecidableEq, Repr

namespace ServiceDirs

def under (root : Path) : ServiceDirs :=
  ⟨root.joinName "src", root.joinName "mnt", root.joinName "conf"⟩

/-- Makes the directories under a root, in order; the first that cannot be made is reported. -/
def createIn (root : Path) (fs : FileSystem) : Except SystemError ServiceDirs × FileSystem :=
  let dirs := under root
  match onPaths [root] zeroByte (fs.mkdirs dirs.src) with
  | .error e => (.error e, fs)
  | .ok fs =>
    match onPaths [root] zeroByte (fs.mkdirs dirs.mnt) with
    | .error e => (.error e, fs)
    | .ok fs =>
      match onPaths [root] zeroByte (fs.mkdirs dirs.conf) with
      | .error e => (.error e, fs)
      | .ok fs => (.ok dirs, fs)

end ServiceDirs

structure ServiceLauncher where
  service : ServiceConfig
  timeouts : TimeoutConfig
  deriving DecidableEq, Repr

namespace ServiceLauncher

def ofConfig (c : Config) : ServiceLauncher := ⟨c.service, c.timeouts⟩

/-- The options with which every service is started: nothing is kept in the caches of the
system. -/
def baselineOptions : List String := ["-o", "entry_timeout=0", "-o", "attr_timeout=0"]

/-- The command line of a service: the wrapper, the program in the foreground, what it mounts
and where, the arguments of the variant, and the options of all services. -/
def commandLine (l : ServiceLauncher) (v : Variant) (dirs : ServiceDirs) :
    Except ConfigError (List String) := do
  let args ← v.args dirs.conf
  return l.service.wrapper ++
    [l.service.binary.display, "-f", l.service.host ++ ":" ++ dirs.src.display,
      dirs.mnt.display] ++ args ++ baselineOptions

/-- The variable that makes the service stop at the first warning, and its value. -/
def debugVariable : String × String := ("G_DEBUG", "fatal-warnings")

/-- The variables with which every service is started: the configured ones, and the one that
makes it stop at warnings whatever the configuration says of it. -/
def environment (l : ServiceLauncher) : List (String × String) :=
  l.service.env.filter (·.1 ≠ debugVariable.1) ++ [debugVariable]

def command (l : ServiceLauncher) (program : String) (args : List String) : Command :=
  { program := Bytes.ofString program
    args := args.map Bytes.ofString
    env := l.environment.map fun (k, v) ↦ (k, Bytes.ofString v) }

end ServiceLauncher

end MountSweep
