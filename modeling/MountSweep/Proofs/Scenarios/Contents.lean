import MountSweep.Proofs.Scenarios.Ground

namespace MountSweep.Scenario

open Posix FileSystem Check NameGenerator

variable {ctx : Context} {dir k : Ino} {base fs : FileSystem} {n m : UInt64} {data : Bytes}

theorem openRead_safe : Safe ctx dir [] 1 (openRead ctx) := by
  refine .name fun n ↦ .of_passes fun base hg hnew _ ↦ ?_
  have hn := hnew n List.mem_cons_self
  refine (hg.adds.copy_passes (hg.vacant_src hn) rfl hg.zero_notMem hg.contents_eq).bind ?_
  rintro _ fs ⟨k, h⟩
  have ha := lookup_own (entry n) k
  exact (h.content_looks (hg.vacant_mnt hn) ha).passes (.one h.adds List.mem_cons_self h.next_le)

theorem openWrite_safe : Safe ctx dir [] 1 (openWrite ctx) := by
  refine .name fun n ↦ .of_passes fun base hg hnew _ ↦ ?_
  have hn := hnew n List.mem_cons_self
  have hp := hg.vacant_mnt hn
  refine (hg.adds.createEmpty_passes (hg.vacant_src hn) rfl).bind ?_
  rintro _ fs₁ ⟨k, -, h₁, -⟩
  have ha := lookup_own (entry n) k
  refine (h₁.save_passes hp ha ctx.data).bind ?_
  intro _ fs₂ h₂
  exact (h₂.content_looks hp ha).passes (.one h₂.adds List.mem_cons_self h₂.next_le)

theorem append_safe : Safe ctx dir [] 1 (append ctx) := by
  refine .name fun n ↦ .of_passes fun base hg hnew _ ↦ ?_
  have hn := hnew n List.mem_cons_self
  have hp := hg.vacant_mnt hn
  refine (hg.adds.createEmpty_passes (hg.vacant_src hn) rfl).bind ?_
  rintro _ fs₁ ⟨k, -, h₁, -⟩
  have ha := lookup_own (entry n) k
  refine (h₁.openAndWrite_passes hp ha rfl rfl 0 rfl (by decide +kernel)).bind ?_
  intro _ fs₂ h₂
  rw [IsFile.overwrite_zero_nil] at h₂
  refine (h₂.openAndWrite_passes hp ha rfl rfl _ rfl (by decide +kernel)).bind ?_
  intro _ fs₃ h₃
  have hcontent : overwrite (Bytes.ofString "foo\n") (Bytes.ofString "foo\n").length
      (Bytes.ofString "bar\n") = Bytes.ofString "foo\nbar\n" := by decide +kernel
  have hlooks := h₃.content_looks hp ha
  rw [if_pos rfl, hcontent] at hlooks
  exact hlooks.passes (.one h₃.adds List.mem_cons_self h₃.next_le)

theorem seek_safe : Safe ctx dir [] 1 (seek ctx) := by
  refine .name fun n ↦ .of_passes fun base hg hnew _ ↦ ?_
  have hn := hnew n List.mem_cons_self
  have hp := hg.vacant_mnt hn
  refine (hg.adds.createEmpty_passes (hg.vacant_src hn) rfl).bind ?_
  rintro _ fs₁ ⟨k, -, h₁, -⟩
  have ha := lookup_own (entry n) k
  refine (h₁.writeAt_passes hp ha 1 (by decide +kernel)).bind ?_
  intro _ fs₂ h₂
  refine (h₂.writeAt_passes hp ha 4 (by decide +kernel)).bind ?_
  intro _ fs₃ h₃
  have hcontent : overwrite (overwrite [] 1 (Bytes.ofString "foobar\n")) 4 (Bytes.ofString "com") =
      Bytes.ofString "\x00foocom\n" := by decide +kernel
  have hlooks := h₃.content_looks hp ha
  rw [hcontent] at hlooks
  exact hlooks.passes (.one h₃.adds List.mem_cons_self h₃.next_le)

theorem length_resize (data : Bytes) (length : Nat) : (resize data length).length = length := by
  rw [resize, List.length_append, List.length_take, List.length_replicate]
  omega

theorem resize_add (data : Bytes) (more : Nat) :
    resize data (data.length + more) = data ++ List.replicate more 0 := by
  rw [resize, List.take_of_length_le (Nat.le_add_right _ _), Nat.add_sub_cancel_left]

theorem resize_resize_sub (data : Bytes) (more less : Nat) :
    resize (resize data (data.length + more)) (data.length - less) =
      data.take (data.length - less) := by
  have hle : data.length - less ≤ data.length := Nat.sub_le _ _
  rw [resize, length_resize, resize_add, List.take_append_of_le_length hle,
    Nat.sub_eq_zero_of_le (hle.trans (Nat.le_add_right _ _)), List.replicate_zero,
    List.append_nil]

theorem shrunk_looks {size : Nat} (h : growth ≤ size) (fs : FileSystem) :
    Looks (shrunk size) fs (size - growth) := by
  rw [shrunk, if_neg (Nat.not_lt.mpr h)]
  exact .pure fs _

theorem truncatePath_safe : Safe ctx dir [] 1 (truncatePath ctx) := by
  refine .name fun n ↦ .of_passes fun base hg hnew _ ↦ ?_
  have hn := hnew n List.mem_cons_self
  have hp := hg.vacant_mnt hn
  refine (hg.adds.save_passes hp rfl ctx.data).bind ?_
  rintro _ fs₁ ⟨k, h₁⟩
  have ha := lookup_own (entry n) k
  obtain ⟨s₁, hs₁, -, -, hsize₁⟩ := h₁.stat_looks hp ha
  refine hs₁.then ?_
  refine (expectEq_looks hsize₁.symm).then ?_
  rw [hsize₁]
  refine (h₁.truncate_passes hp ha (ctx.data.length + growth)).bind ?_
  intro _ fs₂ h₂
  obtain ⟨s₂, hs₂, -, -, hsize₂⟩ := h₂.stat_looks hp ha
  refine hs₂.then ?_
  refine (expectEq_looks (hsize₂.trans (length_resize _ _)).symm).then ?_
  refine (h₂.content_looks hp ha).then ?_
  refine (shrunk_looks hg.growth_le fs₂).then ?_
  refine (h₂.truncate_passes hp ha (ctx.data.length - growth)).bind ?_
  intro _ fs₃ h₃
  obtain ⟨s₃, hs₃, -, -, hsize₃⟩ := h₃.stat_looks hp ha
  refine hs₃.then ?_
  refine (expectEq_looks (hsize₃.trans (length_resize _ _)).symm).then ?_
  rw [resize_resize_sub] at h₃
  refine (h₃.content_looks hp ha).then ?_
  refine (h₃.unlink_passes hp ha).mono ?_
  intro _ fs₄ h₄
  rw [List.nil_append, filter_own] at h₄
  exact .nothing h₄.adds

theorem passthroughFrom_safe (throughMount : Bool) :
    Safe ctx dir [] 1 (passthroughFrom ctx throughMount) := by
  refine .name fun n ↦ .of_passes fun base hg hnew _ ↦ ?_
  have hn := hnew n List.mem_cons_self
  have hp := hg.vacant_mnt hn
  have hq := hg.vacant_src hn
  refine (hg.adds.notListed hg.src hn rfl).then ?_
  refine (hg.adds.notListed hg.mnt hn rfl).then ?_
  have hside : base.Vacant (if throughMount then ctx.mnt.joinName (nth n)
      else ctx.src.joinName (nth n)) dir (entry n) := by
    cases throughMount with
    | false => exact hq
    | true => exact hp
  refine (hg.adds.save_passes hside rfl _).bind ?_
  rintro _ fs ⟨k, h⟩
  have ha := lookup_own (entry n) k
  obtain ⟨i, hk, -⟩ := id h.isFile
  refine (h.adds.listed hg.src hn ha).then ?_
  refine (waitForCache_looks hg.cacheTimeout_eq 1).then ?_
  refine (h.adds.listed hg.mnt hn ha).then ?_
  refine (h.adds.lstat_looks hq ha hk).then ?_
  refine (h.adds.lstat_looks hp ha hk).then ?_
  exact (assertSame_looks fun _ _ ↦ rfl).passes (.one h.adds List.mem_cons_self h.next_le)

theorem passthrough_safe : Safe ctx dir [] 2 (passthrough ctx) :=
  (passthroughFrom_safe false).seq (passthroughFrom_safe true)

theorem resizeOpen_passes {added : List (Bytes × Ino)} (hdata : growth ≤ data.length)
    (h : base.AddsFile dir added k [] 1 fs) :
    Passes (resizeOpen data { ino := k }) fs fun _ fs' ↦
      ∃ content, base.AddsFile dir added k content 1 fs' := by
  refine (h.write_passes { ino := k } 0 rfl (.inr le_rfl)).bind ?_
  rintro _ fs₁ ⟨⟨next, rfl, -⟩, h₁⟩
  rw [IsFile.overwrite_zero_nil] at h₁
  refine (h₁.sizeOpen_looks rfl).then ?_
  refine (expectEq_looks rfl).then ?_
  refine (h₁.truncateOpen_passes rfl _).bind ?_
  intro _ fs₂ h₂
  refine (h₂.sizeOpen_looks rfl).then ?_
  refine (expectEq_looks (length_resize _ _).symm).then ?_
  refine (h₂.readOpen_looks rfl).then ?_
  refine (expectEq_looks (length_resize _ _).symm).then ?_
  rw [resize_add]
  refine (expectEq_looks List.take_left.symm).then ?_
  refine (expect_looks (by simp)).then ?_
  refine (shrunk_looks hdata fs₂).then ?_
  refine (h₂.truncateOpen_passes rfl _).bind ?_
  intro _ fs₃ h₃
  refine (h₃.sizeOpen_looks rfl).then ?_
  refine (expectEq_looks (length_resize _ _).symm).then ?_
  rw [resize_resize_sub] at h₃
  refine (h₃.readOpen_looks rfl).then ?_
  exact (expectEq_looks rfl).passes ⟨_, h₃⟩

theorem truncateFd_safe : Safe ctx dir [] 0 (truncateFd ctx) := by
  refine .of_passes fun base hg _ _ ↦ ?_
  refine (makeTemporary_passes hg.tidy hg.mnt hg.absolute hg.temporary).bind ?_
  rintro ⟨p, _⟩ fs₁ ⟨nb, k, hp, rfl, h₁⟩
  refine ((resizeOpen_passes hg.growth_le h₁).tryCatch _).bind ?_
  rintro _ fs₂ ⟨content, h₂⟩
  refine (h₂.removeTemporary_passes hp (lookup_own nb k)).mono ?_
  intro _ fs₃ h₃
  rw [filter_own] at h₃
  exact .nothing h₃

theorem openUnlink_safe : Safe ctx dir [] 1 (openUnlink ctx) := by
  refine .name fun n ↦ .of_passes fun base hg hnew _ ↦ ?_
  have hn := hnew n List.mem_cons_self
  have hp := hg.vacant_mnt hn
  refine (hg.adds.openFile_passes hp rfl rfl).bind ?_
  rintro _ fs₁ ⟨k, -, rfl, h₁, -⟩
  refine (h₁.write_passes { ino := k } 0 rfl (.inr le_rfl)).bind ?_
  rintro _ fs₂ ⟨⟨next, rfl, hnext⟩, h₂⟩
  have hlength : 0 + (Bytes.ofString "foo").length = 3 := by decide +kernel
  obtain rfl : next = 3 := (hnext rfl).trans hlength
  have ha := lookup_own (entry n) k
  refine (h₂.unlink_passes hp ha).bind ?_
  intro _ fs₃ h₃
  rw [List.nil_append, filter_own] at h₃
  refine (h₃.adds.notFound hp rfl).then ?_
  refine (h₃.adds.notListed hg.mnt hn rfl).then ?_
  refine (h₃.write_passes { ino := k, offset := 3 } 3 rfl (.inl (by decide +kernel))).bind ?_
  rintro _ fs₄ ⟨⟨_, rfl, -⟩, h₄⟩
  refine (h₄.readOpen_looks rfl).then ?_
  exact (expectEq_looks (by decide +kernel)).passes (.nothing h₄.adds)

end MountSweep.Scenario
