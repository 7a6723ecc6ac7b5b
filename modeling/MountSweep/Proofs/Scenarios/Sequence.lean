import MountSweep.Posix.FileSystem.Fresh
import MountSweep.Proofs.Scenarios.Contents
import MountSweep.Proofs.Scenarios.Entries
import MountSweep.Proofs.Scenarios.Metadata
import MountSweep.Proofs.Scenarios.Tree
import MountSweep.Scenario.Catalogue
import MountSweep.Scenario.Payload

namespace MountSweep.Scenario

open Posix FileSystem Check NameGenerator

variable {ctx : Context} {dir : Ino} {s : Scenario} {ss : List Scenario} {w : Workspace}

/-- The results of scenarios that are run one after another in a workspace. -/
def results (ctx : Context) : List Scenario → Workspace → List (Except ScenarioFailure Unit)
  | [], _ => []
  | s :: ss, w =>
    let (result, w) := (s.body ctx).run w
    result :: results ctx ss w

theorem body_safe (hs : s ∈ catalogue) (hroot : s.requiresRoot = false) :
    Safe ctx dir [] 4 (s.body ctx) := by
  revert s
  simp only [catalogue, List.forall_mem_cons, List.not_mem_nil, false_imp_iff, implies_true,
    Bool.true_eq_false, forall_const, true_and, and_true]
  refine ⟨utimens_safe.mono ?_, utimensNow_safe.mono ?_, statvfs_safe.mono ?_, chmod_safe.mono ?_,
    create_safe.mono ?_, openRead_safe.mono ?_, openWrite_safe.mono ?_, append_safe.mono ?_,
    seek_safe.mono ?_, truncatePath_safe.mono ?_, truncateFd_safe.mono ?_, passthrough_safe.mono ?_,
    mkdir_safe.mono ?_, mkdirRmdir_safe.mono ?_, readdir_safe, rmdir_safe.mono ?_,
    rename_safe.mono ?_, link_safe.mono ?_, symlink_safe.mono ?_, unlink_safe.mono ?_,
    openUnlink_safe.mono ?_, nameMapFileEmpty_safe.mono ?_⟩ <;> decide

/-- Scenarios that need no superuser pass on conforming files, in any order and however often, as
long as the numbers of the names do not run out: none draws more than four. -/
theorem scenarios_pass (hw : Ready ctx dir w)
    (hss : ∀ s ∈ ss, s ∈ catalogue ∧ s.requiresRoot = false)
    (hroom : w.names.issued.toNat + 4 * ss.length < UInt64.size) :
    results ctx ss w = List.replicate ss.length (.ok ()) := by
  induction ss generalizing w with
  | nil => rfl
  | cons s ss ih =>
    rw [List.forall_mem_cons] at hss
    rw [List.length_cons] at hroom
    obtain ⟨w', hrun, hw', hissued⟩ :=
      body_safe hss.1.1 hss.1.2 w hw nofun .nil (by omega)
    have hrest := ih hw' hss.2 (by omega)
    rw [results, hrun, List.length_cons, List.replicate_succ]
    exact congrArg (Except.ok () :: ·) hrest

def usedData : Bytes := List.replicate Payload.size 0x61

/-- Files with a directory in which scenarios have left a link and a file. -/
def usedFiles : FileSystem where
  inodes := [
    (FileSystem.root, freshDir FileSystem.root [("data.txt", 2), ("mnt", 3)] 1),
    (2, { node := .file usedData, mode := 0o644 }),
    (3, { node := .dir [(entry 2, 4), (entry 3, 5)] FileSystem.root, mode := 0o755 }),
    (4, { node := .link (Bytes.ofString symlinkTarget), mode := 0o777 }),
    (5, { node := .file (Bytes.ofString "foo"), mode := 0o644 })]
  next := 6
  cwd := FileSystem.root
  now := 1
  delays := [2, 0, 3]

def usedContext : Context where
  src := Bytes.ofString "mnt"
  mnt := Bytes.ofString "/mnt"
  dataPath := Bytes.ofString "/data.txt"
  data := usedData

theorem usedFiles_ground : Ground usedContext 3 usedFiles where
  src := ⟨by decide +kernel, by decide +kernel, by decide +kernel, by decide +kernel⟩
  mnt := ⟨by decide +kernel, by decide +kernel, by decide +kernel, by decide +kernel⟩
  tidy := tidy_of_forall_lt (by decide +kernel)
  rooted := ⟨FileSystem.root, by decide +kernel, .inl rfl⟩
  absolute := ⟨by decide +kernel, by decide +kernel, by decide +kernel, by decide +kernel⟩
  temporary := ⟨0, by decide +kernel⟩
  zero_notMem := by decide +kernel
  contents_eq := rfl
  now_pos := by decide
  uid_eq := rfl
  gid_eq := rfl
  cacheTimeout_eq := rfl
  growth_le := by
    rw [usedContext, usedData, List.length_replicate]
    decide

theorem used_files_pass :
    let w : Workspace := { files := usedFiles, names := ⟨3⟩ }
    let ss := catalogue.filter (!·.requiresRoot)
    Ready usedContext 3 w ∧
      results usedContext (ss ++ ss.reverse) w = List.replicate 44 (.ok ()) := by
  intro w ss
  have hready : Ready usedContext 3 w := by
    refine ⟨usedFiles_ground, fun n hn ↦ ?_⟩
    have hne (m : UInt64) (hm : m ≤ 3) : entry n ≠ entry m := by
      rintro he
      rw [entry_injective he] at hn
      exact UInt64.not_lt.mpr hm hn
    have hentries : w.files.entries? 3 = some [(entry 2, 4), (entry 3, 5)] := rfl
    rw [child?_eq_lookup hentries, List.lookup_cons, beq_eq_false_iff_ne.mpr (hne 2 (by decide))]
    exact lookup_other (hne 3 (by decide)) 5
  refine ⟨hready, ?_⟩
  have hss : ∀ s ∈ ss ++ ss.reverse, s ∈ catalogue ∧ s.requiresRoot = false := by
    intro s hs
    rw [List.mem_append, List.mem_reverse, or_self] at hs
    simpa [ss] using hs
  have hlength : (ss ++ ss.reverse).length = 44 := by
    rw [List.length_append, List.length_reverse]
    rfl
  rw [← hlength]
  exact scenarios_pass hready hss (by rw [hlength]; decide)

end MountSweep.Scenario
