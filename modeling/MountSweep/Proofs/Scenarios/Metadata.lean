import MountSweep.Proofs.Scenarios.Ground

namespace MountSweep.Scenario

open Posix FileSystem Check NameGenerator

variable {ctx : Context} {dir k : Ino} {base fs : FileSystem} {n m : UInt64}

theorem utimens_safe : Safe ctx dir [] 1 (utimens ctx) := by
  refine .name fun n ↦ .of_passes fun base hg hnew _ ↦ ?_
  have hn := hnew n List.mem_cons_self
  have hp := hg.vacant_mnt hn
  refine (hg.adds.mkdir_passes hp rfl).bind ?_
  rintro _ fs₁ ⟨k, i, h₁, hnext, -, hk, hdir⟩
  have ha := lookup_own (entry n) k
  refine (h₁.lstat_looks hp ha hk).then ?_
  refine (h₁.utimens_passes hp ha hk hnext (by simp [hdir]) _ _).bind ?_
  rintro _ fs₂ ⟨h₂, now, -, hk₂⟩
  refine (h₂.lstat_looks hp ha hk₂).then ?_
  refine (expectEq_looks (nanos_timespec _).symm).then ?_
  exact (expectEq_looks (nanos_timespec _).symm).passes (.one h₂ List.mem_cons_self hnext)

theorem utimensNow_safe : Safe ctx dir [] 1 (utimensNow ctx) := by
  refine .name fun n ↦ .of_passes fun base hg hnew _ ↦ ?_
  have hn := hnew n List.mem_cons_self
  have hp := hg.vacant_mnt hn
  refine (hg.adds.createEmpty_passes hp rfl).bind ?_
  rintro _ fs₁ ⟨k, i, h₁, hk, -, -⟩
  have ha := lookup_own (entry n) k
  obtain ⟨hfile, -⟩ := h₁.isFile.of_get hk
  refine (h₁.adds.utimens_passes hp ha hk h₁.next_le (by simp [hfile]) none none).bind ?_
  rintro _ fs₂ ⟨h₂, now, hnow, hk₂⟩
  have hpos : now ≠ 0 := (hg.now_pos.trans_le (h₁.adds.touches.now_le.trans hnow)).ne'
  have hnanos : nanos (timespec now).1 (timespec now).2 ≠ 0 := by rwa [nanos_timespec]
  refine (h₂.lstat_looks hp ha hk₂).then ?_
  refine (expect_looks (decide_eq_true hnanos)).then ?_
  exact (expect_looks (decide_eq_true hnanos)).passes (.one h₂ List.mem_cons_self h₁.next_le)

theorem statvfs_safe : Safe ctx dir [] 0 (statvfs ctx) := by
  refine .of_passes fun base hg _ _ ↦ ?_
  have h := hg.adds.elapse
  have hlookup : (base.elapse.lookup true ctx.mnt).map (fun _ ↦ base.elapse) = .ok base.elapse := by
    rw [(h.grows.leads hg.mnt).lookup_eq]
    rfl
  exact changeBare_passes hg.mnt.zero_notMem hlookup (.nothing h)

theorem chmod_safe : Safe ctx dir [] 1 (chmod ctx) := by
  refine .name fun n ↦ .of_passes fun base hg hnew _ ↦ ?_
  have hn := hnew n List.mem_cons_self
  have hp := hg.vacant_mnt hn
  refine (hg.adds.createEmpty_passes hp rfl).bind ?_
  rintro _ fs₁ ⟨k, i, h₁, hk, -, -⟩
  have ha := lookup_own (entry n) k
  obtain ⟨hfile, -⟩ := h₁.isFile.of_get hk
  refine (h₁.adds.chmod_passes hp ha hk h₁.next_le (by simp [hfile]) 0o600).bind ?_
  rintro _ fs₂ ⟨h₂, now, hk₂⟩
  refine (h₂.lstat_looks hp ha hk₂).then ?_
  have hmode : octal 0o600 = octal (0o600 &&& 0o7777 &&& 0o777) := congrArg octal (by decide)
  exact (expectEq_looks hmode).passes (.one h₂ List.mem_cons_self h₁.next_le)

theorem mkdirBehindMount_bind (rest : String × Path → Check Unit) :
    mkdirBehindMount ctx >>= rest = nextName >>= fun name ↦
      Check.mkdir (ctx.src.joinName name) >>= fun _ ↦ rest (name, ctx.mnt.joinName name) := by
  rw [mkdirBehindMount]
  simp only [bind_assoc, pure_bind]

theorem nameMapFileEmpty_safe : Safe ctx dir [] 1 (nameMapFileEmpty ctx) := by
  rw [nameMapFileEmpty, mkdirBehindMount_bind]
  refine .name fun n ↦ .of_passes fun base hg hnew _ ↦ ?_
  have hn := hnew n List.mem_cons_self
  have hp := hg.vacant_mnt hn
  have hq := hg.vacant_src hn
  refine (hg.adds.mkdir_passes hq rfl).bind ?_
  rintro _ fs ⟨k, i, h, hnext, -, hk, hdir⟩
  have ha := lookup_own (entry n) k
  refine (h.listed hg.mnt hn ha).then ?_
  refine (h.lstat_looks hq ha hk).then ?_
  refine (h.lstat_looks hp ha hk).then ?_
  refine (expect_looks (by simp [(statOf_dir hdir).1])).then ?_
  exact (assertSame_looks fun _ _ ↦ rfl).passes (.one h List.mem_cons_self hnext)

end MountSweep.Scenario
