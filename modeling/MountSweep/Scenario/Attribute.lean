import MountSweep.Scenario.Check

namespace MountSweep.Scenario

open Posix Time

def nanos (secs nsecs : Int) : Int :=
  secs * Span.nanosPerSec + nsecs

def timespec (ns : Int) : Int × Int :=
  (ns / Span.nanosPerSec, ns % Span.nanosPerSec)

inductive Attribute
  | mode | dev | ino | nlink | uid | gid | size
  | atimeNanos | mtimeNanos | ctimeNanos
  | mtime
  deriving DecidableEq, Repr

namespace Attribute

def name : Attribute → String
  | .mode => "st_mode"
  | .dev => "st_dev"
  | .ino => "st_ino"
  | .nlink => "st_nlink"
  | .uid => "st_uid"
  | .gid => "st_gid"
  | .size => "st_size"
  | .atimeNanos => "st_atime_ns"
  | .mtimeNanos => "st_mtime_ns"
  | .ctimeNanos => "st_ctime_ns"
  | .mtime => "st_mtime"

def value (a : Attribute) (s : FileSystem.Stat) : Int :=
  match a with
  | .mode => s.fullMode
  | .dev => s.dev
  | .ino => s.ino
  | .nlink => s.nlink
  | .uid => s.uid
  | .gid => s.gid
  | .size => s.size
  | .atimeNanos => nanos (timespec s.atime).1 (timespec s.atime).2
  | .mtimeNanos => nanos (timespec s.mtime).1 (timespec s.mtime).2
  | .ctimeNanos => nanos (timespec s.ctime).1 (timespec s.ctime).2
  | .mtime => (timespec s.mtime).1

end Attribute

namespace Check

def assertSame (what : String) (before after : FileSystem.Stat) (attributes : List Attribute) :
    Check Unit :=
  attributes.forM fun a ↦ expectInt (what ++ "." ++ a.name) (a.value before) (a.value after)

def utimens (call : String) (p : Path) (atime mtime : Option Int) : Check Unit :=
  let stamp := fun ns ↦ nanos (timespec ns).1 (timespec ns).2
  changeBare call p fun fs ↦ fs.utimens p (atime.map stamp) (mtime.map stamp)

end Check

end MountSweep.Scenario
