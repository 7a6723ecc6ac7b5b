import MountSweep.Matrix
import MountSweep.Scenario.Contents
import MountSweep.Scenario.Entries
import MountSweep.Scenario.Metadata

namespace MountSweep

structure Scenario where
  name : String
  nameMap : NameMapMode := .none
  requiresRoot : Bool := false
  body : Scenario.Body

namespace Scenario

def testId (s : Scenario) (v : Variant) : String :=
  s.name ++ "[" ++ v.id ++ "]"

def shown (s : Scenario) : String :=
  String.ofList ['S', 'c', 'e', 'n', 'a', 'r', 'i', 'o', ' ', '\x7b'] ++
    " name: " ++ Text.Quoted.ofString s.name ++ ", namemap: " ++ s.nameMap.title ++
    ", requires_root: " ++ (if s.requiresRoot then "true" else "false") ++ " " ++
    String.ofList ['\x7d']

def catalogue : List Scenario := [
  { name := "utimens", body := utimens },
  { name := "utimens_now", body := utimensNow },
  { name := "statvfs", body := statvfs },
  { name := "chmod", body := chmod },
  { name := "create", body := create },
  { name := "open_read", body := openRead },
  { name := "open_write", body := openWrite },
  { name := "append", body := append },
  { name := "seek", body := seek },
  { name := "truncate_path", body := truncatePath },
  { name := "truncate_fd", body := truncateFd },
  { name := "passthrough", body := passthrough },
  { name := "mkdir", body := mkdir },
  { name := "mkdir_rmdir", body := mkdirRmdir },
  { name := "readdir", body := readdir },
  { name := "rmdir", body := rmdir },
  { name := "rename", body := rename },
  { name := "link", body := link },
  { name := "symlink", body := symlink },
  { name := "unlink", body := unlink },
  { name := "open_unlink", body := openUnlink },
  { name := "namemap_user", nameMap := .user, requiresRoot := true, body := nameMapUser },
  { name := "namemap_file", nameMap := .file, requiresRoot := true, body := nameMapFile },
  { name := "namemap_file_empty", nameMap := .fileEmpty, body := nameMapFileEmpty },
  { name := "chown", nameMap := .file, requiresRoot := true, body := chown }]

def find? (name : String) : Option Scenario :=
  catalogue.find? (·.name = name)

end Scenario

end MountSweep
