import MountSweep.Config.Decode
import MountSweep.Posix.FileSystem.Guarded

namespace MountSweep.Config

open Posix

def read? (env : Environment) (fs : FileSystem) (p : Path) : Except ConfigError Config :=
  ofFile? env p (fs.contentOf p)

structure LoadFailure where
  path : Path
  cause : ConfigError
  deriving DecidableEq, Repr

def LoadFailure.message (f : LoadFailure) : String :=
  "Failed to load harness config " ++ f.path.quoted

/-- The configuration of the file that the environment names, or the built-in one if it names
none. -/
def load? (env : Environment) (fs : FileSystem) : Except LoadFailure Config :=
  match env.get? Environment.configVariable with
  | none => .ok (builtIn env)
  | some path =>
    match read? env fs path with
    | .ok c => .ok c
    | .error e => .error ⟨path, e⟩

end MountSweep.Config
