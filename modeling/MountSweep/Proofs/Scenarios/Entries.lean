import MountSweep.Proofs.Scenarios.Ground

namespace MountSweep.Scenario

open Posix FileSystem Check NameGenerator

variable {ctx : Context} {dir k : Ino} {base fs : FileSystem} {n m : UInt64}

theorem create_safe : Safe ctx dir [] 1 (create ctx) := by
  refine .name fun n ↦ .of_passes fun base hg hnew _ ↦ ?_
  have hn := hnew n List.mem_cons_self
  have hp := hg.vacant_mnt hn
  refine (hg.adds.notFound hp rfl).then ?_
  refine (hg.adds.notListed hg.mnt hn rfl).then ?_
  refine (hg.adds.createEmpty_passes hp rfl).bind ?_
  rintro _ fs ⟨k, i, h, hk, huid, hgid⟩
  have ha := lookup_own (entry n) k
  refine (h.adds.listed hg.mnt hn ha).then ?_
  obtain ⟨hfile, hlinks⟩ := h.isFile.of_get hk
  refine (h.adds.lstat_looks hp ha hk).then ?_
  refine (expect_looks (by simp [statOf, hfile, Node.kind])).then ?_
  refine (expectEq_looks (by simp [statOf, hfile, hlinks])).then ?_
  refine (expectEq_looks (by simp [statOf, hfile])).then ?_
  refine (expectEq_looks (hg.uid_eq.symm.trans huid.symm)).then ?_
  exact (expectEq_looks (hg.gid_eq.symm.trans hgid.symm)).passes
    (.one h.adds List.mem_cons_self h.next_le)

theorem mkdir_safe : Safe ctx dir [] 1 (mkdir ctx) := by
  refine .name fun n ↦ .of_passes fun base hg hnew _ ↦ ?_
  have hn := hnew n List.mem_cons_self
  have hp := hg.vacant_mnt hn
  refine (hg.adds.mkdir_passes hp rfl).bind ?_
  rintro _ fs ⟨k, i, h, hnext, -, hk, hdir⟩
  have ha := lookup_own (entry n) k
  obtain ⟨hkind, hlinks⟩ := @statOf_dir fs k i dir hdir
  have hempty := entries_of_get hk hdir
  have hl := (h.grows.leads hg.mnt).join (isName_entry n) ((h.child?_eq hn).trans ha)
    (isDir_of_entries hempty)
  refine (h.lstat_looks hp ha hk).then ?_
  refine (expect_looks (by simp [hkind])).then ?_
  refine Looks.then ((entries_looks hl hempty).bind (.pure fs _)) ?_
  refine (expectEq_looks (by simp [sorted])).then ?_
  refine (expect_looks hlinks).then ?_
  exact (h.listed hg.mnt hn ha).passes (.one h List.mem_cons_self hnext)

theorem mkdirRmdir_safe : Safe ctx dir [] 1 (mkdirRmdir ctx) := by
  refine .name fun n ↦ .of_passes fun base hg hnew _ ↦ ?_
  have hn := hnew n List.mem_cons_self
  have hp := hg.vacant_mnt hn
  refine (hg.adds.mkdir_passes hp rfl).bind ?_
  rintro _ fs ⟨k, i, h, -, -, hk, hdir⟩
  have ha := lookup_own (entry n) k
  refine (h.listed hg.mnt hn ha).then ?_
  refine (h.lstat_looks hp ha hk).then ?_
  refine (expect_looks (statOf_dir hdir).2).then ?_
  refine (h.rmdir_passes hp ha (entries_of_get hk hdir)).bind ?_
  intro _ fs h
  rw [List.nil_append, filter_own] at h
  refine (h.notListed hg.mnt hn rfl).then ?_
  exact (h.notListed hg.src hn rfl).passes (.nothing h)

theorem rmdir_safe : Safe ctx dir [] 1 (rmdir ctx) := by
  refine .name fun n ↦ .of_passes fun base hg hnew _ ↦ ?_
  have hn := hnew n List.mem_cons_self
  have hp := hg.vacant_mnt hn
  refine (hg.adds.mkdir_passes (hg.vacant_src hn) rfl).bind ?_
  rintro _ fs ⟨k, i, h, -, -, hk, hdir⟩
  have ha := lookup_own (entry n) k
  refine (waitForCache_looks hg.cacheTimeout_eq 1).then ?_
  refine (h.listed hg.mnt hn ha).then ?_
  refine (h.rmdir_passes hp ha (entries_of_get hk hdir)).bind ?_
  intro _ fs h
  rw [List.nil_append, filter_own] at h
  refine (h.notFound hp rfl).then ?_
  refine (h.notListed hg.mnt hn rfl).then ?_
  exact (h.notListed hg.src hn rfl).passes (.nothing h)

theorem unlink_safe : Safe ctx dir [] 1 (unlink ctx) := by
  refine .name fun n ↦ .of_passes fun base hg hnew _ ↦ ?_
  have hn := hnew n List.mem_cons_self
  have hp := hg.vacant_mnt hn
  refine (hg.adds.save_passes (hg.vacant_src hn) rfl _).bind ?_
  rintro _ fs ⟨k, h⟩
  have ha := lookup_own (entry n) k
  refine (waitForCache_looks hg.cacheTimeout_eq 1).then ?_
  refine (h.adds.listed hg.mnt hn ha).then ?_
  refine (h.unlink_passes hp ha).bind ?_
  intro _ fs h
  have h := h.adds
  rw [List.nil_append, filter_own] at h
  refine (h.notFound hp rfl).then ?_
  refine (h.notListed hg.mnt hn rfl).then ?_
  exact (h.notListed hg.src hn rfl).passes (.nothing h)

theorem symlink_safe : Safe ctx dir [] 1 (symlink ctx) := by
  refine .name fun n ↦ .of_passes fun base hg hnew _ ↦ ?_
  have hn := hnew n List.mem_cons_self
  have hp := hg.vacant_mnt hn
  have htarget : Bytes.ofString symlinkTarget ≠ [] := by decide +kernel
  refine (hg.adds.symlink_passes hp rfl htarget).bind ?_
  rintro _ fs ⟨k, i, h, hnext, hk, hlink, hlinks⟩
  have ha := lookup_own (entry n) k
  refine (h.lstat_looks hp ha hk).then ?_
  refine (expect_looks (by simp [statOf, hlink, Node.kind])).then ?_
  refine (query_looks hp.names.zero_notMem
    ((h.names hp).readlink_eq ((h.child?_eq hn).trans ha) hk hlink)).then ?_
  refine (expectEq_looks (α := Bytes) rfl).then ?_
  refine (expectEq_looks (α := Nat) (by simp [statOf, hlink, hlinks])).then ?_
  exact (h.listed hg.mnt hn ha).passes (.one h List.mem_cons_self hnext)

theorem rename_safe : Safe ctx dir [] 2 (rename ctx) := by
  refine .name fun n ↦ .name fun m ↦ .of_passes fun base hg hnew hnodup ↦ ?_
  have hn := hnew n (by simp)
  have hm := hnew m (by simp)
  have hne : entry m ≠ entry n := fun h ↦ by simp [entry_injective h] at hnodup
  have hp := hg.vacant_mnt hn
  have hq := hg.vacant_mnt hm
  refine (hg.adds.save_passes hp rfl _).bind ?_
  rintro _ fs₁ ⟨k, h₁⟩
  have ha := lookup_own (entry n) k
  obtain ⟨i, hk, hfile, -, -, hctime⟩ := id h₁.isFile
  refine (h₁.adds.lstat_looks hp ha hk).then ?_
  refine (h₁.rename_passes hp ha hq (lookup_other hne k) hk).bind ?_
  rintro _ fs₂ ⟨now, hnow, hk₂, h₂⟩
  rw [List.nil_append, filter_own, List.nil_append] at h₂
  have ha₂ := lookup_own (entry m) k
  refine (waitForCache_looks hg.cacheTimeout_eq 0).then ?_
  refine (h₂.adds.lstat_looks hq ha₂ hk₂).then ?_
  refine (contents_looks hq.names.zero_notMem
    (h₂.isFile.contents_eq (h₂.adds.names hq) (h₂.child?_eq hq ha₂))).then ?_
  refine (assertSame_looks (by simp [Attribute.value, statOf, hfile, Stat.fullMode])).then ?_
  refine (expect_looks ?_).then ?_
  · simpa [Attribute.value, nanos_timespec, statOf] using hctime.trans hnow
  refine (h₂.adds.listed hg.mnt hm ha₂).then ?_
  refine (h₂.adds.notFound hp (lookup_other hne.symm k)).then ?_
  exact (expectEq_looks (α := Bytes) rfl).passes (.one h₂.adds (by simp) h₂.next_le)

theorem link_safe : Safe ctx dir [] 2 (link ctx) := by
  refine .name fun n ↦ .name fun m ↦ .of_passes fun base hg hnew hnodup ↦ ?_
  have hn := hnew n (by simp)
  have hm := hnew m (by simp)
  have hne : entry m ≠ entry n := fun h ↦ by simp [entry_injective h] at hnodup
  have hp := hg.vacant_mnt hn
  have hq := hg.vacant_mnt hm
  refine (hg.adds.copy_passes hp rfl hg.zero_notMem hg.contents_eq).bind ?_
  rintro _ fs₁ ⟨k, h₁⟩
  have ha := lookup_own (entry n) k
  have hb := lookup_other hne k
  have hdata {fs : FileSystem} (hg' : base.Grows fs) :
      Looks (Check.contents ctx.dataPath) fs ctx.data :=
    contents_looks hg.zero_notMem (hg'.contents_eq hg.contents_eq).1
  refine ((hdata h₁.adds.grows).bind (h₁.content_looks hp ha)).then ?_
  obtain ⟨s₁, hs₁, -, hlinks₁, -⟩ := h₁.stat_looks hp ha
  refine hs₁.then ?_
  refine (expectEq_looks hlinks₁.symm).then ?_
  refine (h₁.link_passes hp ha hq hb).bind ?_
  intro _ fs₂ h₂
  have ha₂ : [(entry n, k), (entry m, k)].lookup (entry n) = some k := List.lookup_cons_self
  have hb₂ : [(entry n, k), (entry m, k)].lookup (entry m) = some k := by
    rw [List.lookup_cons, beq_eq_false_iff_ne.mpr hne]
    exact lookup_own (entry m) k
  obtain ⟨i, hk, hfile, hlinks, -⟩ := id h₂.isFile
  refine (waitForCache_looks hg.cacheTimeout_eq 0).then ?_
  refine (h₂.adds.lstat_looks hp ha₂ hk).then ?_
  refine (expectEq_looks (by simp [statOf, hfile, hlinks])).then ?_
  refine (h₂.adds.lstat_looks hq hb₂ hk).then ?_
  refine (assertSame_looks fun _ _ ↦ rfl).then ?_
  refine (h₂.adds.listed hg.mnt hm hb₂).then ?_
  refine Looks.then ((contents_looks hq.names.zero_notMem (h₂.isFile.contents_eq
    (h₂.adds.names hq) (h₂.child?_eq hq hb₂))).bind (h₂.content_looks hp ha₂)) ?_
  refine (h₂.unlink_passes hq hb₂).bind ?_
  intro _ fs₃ h₃
  have hleft : [(entry n, k), (entry m, k)].filter (·.1 ≠ entry m) = [(entry n, k)] := by
    simp [hne.symm]
  rw [List.nil_append, List.singleton_append, hleft] at h₃
  refine (h₃.adds.notListed hg.mnt hm hb).then ?_
  refine (h₃.adds.notFound hq hb).then ?_
  obtain ⟨s₃, hs₃, -, hlinks₃, -⟩ := h₃.stat_looks hp ha
  refine hs₃.then ?_
  refine (expectEq_looks hlinks₃.symm).then ?_
  refine Looks.then ((hdata h₃.adds.grows).bind (h₃.content_looks hp ha)) ?_
  refine (h₃.unlink_passes hp ha).mono ?_
  intro _ fs₄ h₄
  rw [filter_own] at h₄
  exact .nothing h₄.adds

end MountSweep.Scenario
