import MountSweep.Axis

namespace MountSweep

/-- A choice of one value for each of several axes, in axis order. -/
structure Variant where
  entries : List (String × AxisValue) := []
  deriving DecidableEq, Repr, Inhabited

namespace Variant

def get? (v : Variant) (axis : String) : Option AxisValue :=
  v.entries.lookup axis

def entryId (entry : String × AxisValue) : String :=
  entry.1 ++ "=" ++ entry.2.display

def id (v : Variant) : String :=
  "-".intercalate (v.entries.map entryId)

/-- The arguments of a variant, entry by entry; the first entry that is not understood is
reported. -/
def args (v : Variant) (conf : Path) : Except ConfigError (List String) :=
  (v.entries.mapM fun (axis, value) ↦ Axis.args axis value conf).map List.flatten

/-- The typed view of a variant; the first entry that is not understood is reported. -/
def options (v : Variant) : Except ConfigError ServiceOptions :=
  v.entries.foldlM (fun o (axis, value) ↦ o.set axis value) {}

end Variant

structure Matrix where
  axes : List Axis
  deriving DecidableEq, Repr

namespace Matrix

def defaultAxes : List Axis := [
  ⟨Axis.debug, [.bool false, .bool true]⟩,
  ⟨Axis.cacheTimeout, [.int 0, .int 1]⟩,
  ⟨Axis.syncReaddir, [.bool true, .bool false]⟩,
  ⟨Axis.multiconn, [.bool true, .bool false]⟩]

instance : Inhabited Matrix := ⟨⟨defaultAxes⟩⟩

/-- Refuses the leftmost axis that repeats one of the names `seen` or those before it, or has no
values. -/
def checkAxes (seen : List String) : List Axis → Except ConfigError Unit
  | [] => .ok ()
  | a :: rest =>
    if a.name ∈ seen then .error (.duplicateAxis a.name)
    else if a.values = [] then .error (.emptyAxis a.name)
    else checkAxes (a.name :: seen) rest

/-- The matrix of some axes, whose names have to differ and which have to have values. -/
def ofAxes? (axes : List Axis) : Except ConfigError Matrix :=
  (checkAxes [] axes).map fun _ ↦ ⟨axes⟩

/-- Some axes with the one called `name` reduced to a value, or with a new one at the end. -/
def pinAxes (name : String) (value : AxisValue) : List Axis → List Axis
  | [] => [⟨name, [value]⟩]
  | a :: rest => if a.name = name then ⟨a.name, [value]⟩ :: rest else a :: pinAxes name value rest

def pin (m : Matrix) (name : String) (value : AxisValue) : Matrix :=
  ⟨pinAxes name value m.axes⟩

def size (m : Matrix) : Nat :=
  (m.axes.foldl (fun n a ↦ n * UInt64.ofNat a.values.length) 1).toNat

/-- Entries for all axes, one list for every combination of values, the first axis varying
slowest. -/
def product : List Axis → List (List (String × AxisValue))
  | [] => [[]]
  | a :: rest => a.values.flatMap fun v ↦ (product rest).map fun tail ↦ (a.name, v) :: tail

def variants (m : Matrix) : List Variant :=
  (product m.axes).map Variant.mk

def validate (m : Matrix) : Except ConfigError Unit :=
  m.axes.forM fun a ↦ a.values.forM fun v ↦ (Axis.args a.name v []).map fun _ ↦ ()

end Matrix

end MountSweep
