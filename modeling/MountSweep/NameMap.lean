import MountSweep.Error

namespace MountSweep

inductive NameMapMode
  | none | user | file | fileEmpty
  deriving DecidableEq, Repr, Inhabited

namespace NameMapMode

def all : List NameMapMode := [.none, .user, .file, .fileEmpty]

def name : NameMapMode → String
  | .none => "none"
  | .user => "user"
  | .file => "file"
  | .fileEmpty => "file_empty"

def title : NameMapMode → String
  | .none => "None"
  | .user => "User"
  | .file => "File"
  | .fileEmpty => "FileEmpty"

def expectation : String := "one of none, user, file, file_empty"

def ofName? (s : String) : Except ConfigError NameMapMode :=
  match all.find? (·.name = s) with
  | some mode => .ok mode
  | Option.none => .error (.invalidValue "namemap" s expectation)

theorem ofName?_name (m : NameMapMode) : ofName? m.name = .ok m := by
  cases m <;> rfl

def userFile : String := "unamefile.txt"

def groupFile : String := "gnamefile.txt"

/-- The user and the group mapping file under `conf`, for the modes that use them. -/
def mappingFiles (mode : NameMapMode) (conf : Path) : Option (Path × Path) :=
  match mode with
  | .file | .fileEmpty => some (conf.joinName userFile, conf.joinName groupFile)
  | .none | .user => Option.none

def mappingContents : NameMapMode → Bytes × Bytes
  | .file => (Bytes.ofString "foo_user:root\n", Bytes.ofString "bar_group:root\n")
  | _ => ([], [])

end NameMapMode

end MountSweep
