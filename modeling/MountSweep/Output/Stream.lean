import MountSweep.Text.Utf8

namespace MountSweep.Output

inductive Stream
  | stdout | stderr
  deriving DecidableEq, Repr

def Stream.name : Stream → String
  | .stdout => "stdout"
  | .stderr => "stderr"

/-- The bytes captured of both streams during one run. -/
structure Captured where
  stdout : Bytes := []
  stderr : Bytes := []
  deriving DecidableEq, Repr, Inhabited

namespace Captured

def bytes (c : Captured) : Stream → Bytes
  | .stdout => c.stdout
  | .stderr => c.stderr

def text (c : Captured) (s : Stream) : List Char :=
  Text.Utf8.decodeLossy (c.bytes s)

end Captured

end MountSweep.Output
