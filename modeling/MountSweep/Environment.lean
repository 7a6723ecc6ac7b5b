import MountSweep.Unicode.Character
import MountSweep.Text.Utf8

namespace MountSweep

/-- Environment variables, the first of each name counting. -/
structure Environment where
  bindings : List (String × Bytes) := []
  deriving Repr, Inhabited

namespace Environment

def get? (env : Environment) (name : String) : Option Bytes :=
  env.bindings.lookup name

/-- The text of a variable; one that is not well-formed UTF-8 counts as missing. -/
def text? (env : Environment) (name : String) : Option String :=
  (env.get? name).bind Bytes.toString?

def set (env : Environment) (name : String) (value : Bytes) : Environment :=
  ⟨(name, value) :: env.bindings.filter (·.1 ≠ name)⟩

def unset (env : Environment) (name : String) : Environment :=
  ⟨env.bindings.filter (·.1 ≠ name)⟩

def binaryVariable : String := "SSHFS_BINARY"

def valgrindVariable : String := "TEST_WITH_VALGRIND"

def configVariable : String := "SSHFS_HARNESS_CONFIG"

def logVariable : String := "RUST_LOG"

def searchVariable : String := "PATH"

/-- Whether the value of a switch turns it on: anything but `no`, `false` and `0`, in any case
and with white space around. -/
def isTruthy (value : String) : Bool :=
  let word := (Unicode.trim value.toList).flatMap Unicode.lower
  !(["no", "false", "0"].map String.toList).contains word

def wantsValgrind (env : Environment) : Bool :=
  match env.text? valgrindVariable with
  | some value => isTruthy value
  | none => false

end Environment

end MountSweep
