import MountSweep.NameMap

namespace MountSweep

inductive AxisValue
  | bool (b : Bool)
  | int (n : UInt64)
  | str (s : String)
  deriving DecidableEq, Repr

def AxisValue.display : AxisValue → String
  | .bool true => "true"
  | .bool false => "false"
  | .int n => toString n.toNat
  | .str s => s

structure Axis where
  name : String
  values : List AxisValue
  deriving DecidableEq, Repr

namespace Axis

def debug : String := "debug"

def cacheTimeout : String := "cache_timeout"

def syncReaddir : String := "sync_rd"

def multiconn : String := "multiconn"

def nameMap : String := "namemap"

def maxConnections : Nat := 3

def expectBool (axis : String) : AxisValue → Except ConfigError Bool
  | .bool b => .ok b
  | v => .error (.invalidValue axis v.display "a boolean")

def expectInt (axis : String) : AxisValue → Except ConfigError UInt64
  | .int n => .ok n
  | v => .error (.invalidValue axis v.display "a non-negative integer")

def expectNameMap : AxisValue → Except ConfigError NameMapMode
  | .str s => NameMapMode.ofName? s
  | v => .error (.invalidValue nameMap v.display NameMapMode.expectation)

def option (o : String) : List String := ["-o", o]

/-- The arguments that a value of an axis adds to the command line; mapping files are looked for
under `conf`. -/
def args (axis : String) (value : AxisValue) (conf : Path) : Except ConfigError (List String) :=
  if axis = debug then do
    if ← expectBool axis value then return option "sshfs_debug" else return []
  else if axis = syncReaddir then do
    if ← expectBool axis value then return option "sync_readdir" else return []
  else if axis = cacheTimeout then do
    let timeout ← expectInt axis value
    if timeout = 0 then return option "dir_cache=no"
    else return option ("dcache_timeout=" ++ toString timeout.toNat) ++ option "dir_cache=yes"
  else if axis = multiconn then do
    if ← expectBool axis value then return option ("max_conns=" ++ toString maxConnections)
    else return []
  else if axis = nameMap then do
    match ← expectNameMap value with
    | .none => return []
    | .user => return option "namemap=user"
    | .file | .fileEmpty =>
      return option "namemap=file" ++
        option ("unamefile=" ++ (conf.joinName NameMapMode.userFile).display) ++
        option ("gnamefile=" ++ (conf.joinName NameMapMode.groupFile).display)
  else .error (.unknownAxis axis)

end Axis

/-- The settings of a service as far as they matter to whoever drives it. -/
structure ServiceOptions where
  debug : Bool := false
  cacheTimeout : UInt64 := 0
  syncReaddir : Bool := false
  multiconn : Bool := false
  nameMap : NameMapMode := .none
  deriving DecidableEq, Repr, Inhabited

namespace ServiceOptions

def set (o : ServiceOptions) (axis : String) (value : AxisValue) :
    Except ConfigError ServiceOptions :=
  if axis = Axis.debug then
    (Axis.expectBool axis value).map fun b ↦ { o with debug := b }
  else if axis = Axis.cacheTimeout then
    (Axis.expectInt axis value).map fun n ↦ { o with cacheTimeout := n }
  else if axis = Axis.syncReaddir then
    (Axis.expectBool axis value).map fun b ↦ { o with syncReaddir := b }
  else if axis = Axis.multiconn then
    (Axis.expectBool axis value).map fun b ↦ { o with multiconn := b }
  else if axis = Axis.nameMap then
    (Axis.expectNameMap value).map fun m ↦ { o with nameMap := m }
  else .error (.unknownAxis axis)

end ServiceOptions

end MountSweep
