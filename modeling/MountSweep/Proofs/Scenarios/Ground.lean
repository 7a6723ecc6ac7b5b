import MountSweep.Proofs.Scenarios.Steps
import MountSweep.Scenario.Contents

namespace MountSweep.Scenario

open Posix FileSystem Check NameGenerator

/-- Files on which scenarios can run: both paths lead to one directory, and so does the path from
the root by which temporary files are made. The directory has a temporary name to spare, the data
can be read and is long enough to shrink, the clock is past its zero, and what is made belongs to
the caller. -/
structure Ground (ctx : Context) (dir : Ino) (fs : FileSystem) : Prop where
  src : fs.Leads ctx.src 3 dir
  mnt : fs.Leads ctx.mnt 3 dir
  tidy : fs.Tidy
  rooted : fs.Rooted fs.inodes.length fs.cwd
  absolute : fs.Leads (fs.absolute ctx.mnt) 1 dir
  temporary : ∃ n, fs.child? dir (temporaryName temporaryStem n) = none
  zero_notMem : 0 ∉ ctx.dataPath
  contents_eq : fs.contents ctx.dataPath = .ok ctx.data
  now_pos : 0 < fs.now
  uid_eq : fs.uid = ctx.caller.uid
  gid_eq : fs.gid = ctx.caller.gid
  cacheTimeout_eq : ctx.cacheTimeout = 0
  growth_le : growth ≤ ctx.data.length

/-- A workspace in which scenarios can run: no name that is still to be drawn is in use. -/
structure Ready (ctx : Context) (dir : Ino) (w : Workspace) : Prop where
  ground : Ground ctx dir w.files
  unused : ∀ n, w.names.issued < n → w.files.child? dir (entry n) = none

variable {ctx : Context} {dir k : Ino} {base fs : FileSystem} {added : List (Bytes × Ino)}
  {n m : UInt64}

namespace Ground

theorem adds (h : Ground ctx dir base) : base.Adds dir [] base := .refl h.tidy h.mnt.isDir

theorem vacant_src (h : Ground ctx dir base) (hn : base.child? dir (entry n) = none) :
    base.Vacant (ctx.src.joinName (nth n)) dir (entry n) := ⟨h.src.names (isName_entry n), hn⟩

theorem vacant_mnt (h : Ground ctx dir base) (hn : base.child? dir (entry n) = none) :
    base.Vacant (ctx.mnt.joinName (nth n)) dir (entry n) := ⟨h.mnt.names (isName_entry n), hn⟩

theorem entry_ne_temporaryName (n : UInt64) (m : Nat) :
    entry n ≠ temporaryName temporaryStem m := by
  intro h
  have hmem : 46 ∈ entry n := by
    rw [h, temporaryName]
    exact List.mem_append_left _ (by decide +kernel)
  exact absurd (le_toNat_of_mem_entry hmem) (by decide)

theorem absolute_eq (h : Ground ctx dir base) (hs : base.Adds dir added fs)
    (hnew : ∀ e ∈ added, base.next ≤ e.2) (p : Path) : fs.absolute p = base.absolute p := by
  rw [FileSystem.absolute, FileSystem.absolute, directoryPath, directoryPath, hs.touches.cwd_eq,
    hs.pathOf_eq hnew h.rooted hs.touches.length_le]

theorem of_adds (h : Ground ctx dir base) (hs : base.Adds dir added fs)
    (hnew : ∀ e ∈ added, (∃ n, e.1 = entry n) ∧ base.next ≤ e.2) : Ground ctx dir fs where
  src := hs.grows.leads h.src
  mnt := hs.grows.leads h.mnt
  tidy := hs.touches.tidy
  rooted := by
    rw [hs.touches.cwd_eq]
    exact (hs.rooted h.rooted).mono hs.touches.length_le
  absolute := by
    rw [h.absolute_eq hs (fun e he ↦ (hnew e he).2)]
    exact hs.grows.leads h.absolute
  temporary := by
    obtain ⟨n, hn⟩ := h.temporary
    refine ⟨n, hs.child?_eq_none hn fun e he ↦ ?_⟩
    obtain ⟨⟨m, hm⟩, -⟩ := hnew e he
    exact hm ▸ entry_ne_temporaryName m n
  zero_notMem := h.zero_notMem
  contents_eq := (hs.grows.contents_eq h.contents_eq).1
  now_pos := h.now_pos.trans_le hs.touches.now_le
  uid_eq := hs.touches.uid_eq.trans h.uid_eq
  gid_eq := hs.touches.gid_eq.trans h.gid_eq
  cacheTimeout_eq := h.cacheTimeout_eq
  growth_le := h.growth_le

end Ground

/-- In a workspace that is ready, a body that has drawn some names passes and leaves the workspace
ready. It draws at most `room` names more. -/
def Safe (ctx : Context) (dir : Ino) (names : List UInt64) (room : Nat) (c : Check Unit) : Prop :=
  ∀ w, Ready ctx dir w →
    (∀ n ∈ names, n ≤ w.names.issued ∧ w.files.child? dir (entry n) = none) → names.Nodup →
    w.names.issued.toNat + room < UInt64.size →
    ∃ w', c.run w = (.ok (), w') ∧ Ready ctx dir w' ∧
      w'.names.issued.toNat ≤ w.names.issued.toNat + room

variable {names : List UInt64} {room : Nat}

theorem Safe.name {rest : String → Check Unit}
    (h : ∀ n, Safe ctx dir (names ++ [n]) room (rest (nth n))) :
    Safe ctx dir names (room + 1) (nextName >>= rest) := by
  intro w hw hnames hnodup hroom
  have hone : (w.names.issued + 1).toNat = w.names.issued.toNat + 1 := by
    rw [UInt64.toNat_add, UInt64.toNat_one, Nat.mod_eq_of_lt]
    exact Nat.lt_of_le_of_lt (Nat.add_le_add_left (Nat.le_add_left 1 room) _) hroom
  have hlt : w.names.issued < w.names.issued + 1 := by
    rw [UInt64.lt_iff_toNat_lt, hone]
    exact Nat.lt_succ_self _
  have hready : Ready ctx dir { w with names := ⟨w.names.issued + 1⟩ } :=
    ⟨hw.ground, fun n hn ↦ hw.unused n (UInt64.lt_trans hlt hn)⟩
  have hdrawn : ∀ n ∈ names ++ [w.names.issued + 1],
      n ≤ w.names.issued + 1 ∧ w.files.child? dir (entry n) = none := by
    intro n hn
    rcases List.mem_append.mp hn with hn | hn
    · exact ⟨UInt64.le_trans (hnames n hn).1 (UInt64.le_of_lt hlt), (hnames n hn).2⟩
    · rw [List.mem_singleton.mp hn]
      exact ⟨UInt64.le_refl _, hw.unused _ hlt⟩
  have hnodup' : (names ++ [w.names.issued + 1]).Nodup := by
    rw [List.nodup_append']
    refine ⟨hnodup, List.nodup_singleton _, ?_⟩
    rw [List.disjoint_singleton]
    exact fun hn ↦ UInt64.not_lt.mpr (hnames _ hn).1 hlt
  have hroom' : (w.names.issued + 1).toNat + room < UInt64.size := by omega
  obtain ⟨w', hrun, hw', hle⟩ := h _ _ hready hdrawn hnodup' hroom'
  refine ⟨w', ?_, hw', ?_⟩
  · rw [run_bind]
    exact hrun
  · dsimp only at hle
    omega

theorem lookup_own (nb : Bytes) (k : Ino) : [(nb, k)].lookup nb = some k := List.lookup_cons_self

theorem lookup_other {nb nb' : Bytes} (h : nb' ≠ nb) (k : Ino) : [(nb, k)].lookup nb' = none := by
  rw [List.lookup_cons, beq_eq_false_iff_ne.mpr h, List.lookup_nil]

theorem filter_own (nb : Bytes) (k : Ino) : [(nb, k)].filter (·.1 ≠ nb) = [] := by simp

/-- What has been left in the directory has drawn names, and its inodes are new. -/
def Leaves (base : FileSystem) (dir : Ino) (names : List UInt64) (fs : FileSystem) : Prop :=
  ∃ added, base.Adds dir added fs ∧
    ∀ e ∈ added, (∃ n ∈ names, e.1 = entry n) ∧ base.next ≤ e.2

theorem Leaves.nothing (h : base.Adds dir [] fs) : Leaves base dir names fs := ⟨[], h, nofun⟩

theorem Leaves.one (h : base.Adds dir [(entry n, k)] fs) (hn : n ∈ names) (hk : base.next ≤ k) :
    Leaves base dir names fs := by
  refine ⟨_, h, fun e he ↦ ?_⟩
  rw [List.mem_singleton.mp he]
  exact ⟨⟨n, hn, rfl⟩, hk⟩

theorem Safe.of_passes {c : Check Unit}
    (h : ∀ base, Ground ctx dir base → (∀ n ∈ names, base.child? dir (entry n) = none) →
      names.Nodup → Passes c base fun _ fs ↦ Leaves base dir names fs) :
    Safe ctx dir names 0 c := by
  intro w hw hnames hnodup _
  obtain ⟨⟨⟩, fs, hrun, added, hs, hnew⟩ :=
    h w.files hw.ground (fun n hn ↦ (hnames n hn).2) hnodup w rfl
  refine ⟨_, hrun, ⟨hw.ground.of_adds hs fun e he ↦ ?_, fun n hn ↦ ?_⟩, le_rfl⟩
  · obtain ⟨⟨n, -, heq⟩, hle⟩ := hnew e he
    exact ⟨⟨n, heq⟩, hle⟩
  · refine hs.child?_eq_none (hw.unused n hn) fun e he heq ↦ ?_
    obtain ⟨⟨m, hm, hem⟩, -⟩ := hnew e he
    obtain rfl : m = n := entry_injective (hem.symm.trans heq)
    exact UInt64.not_lt.mpr (hnames m hm).1 hn

theorem Safe.seq {c d : Check Unit} {room' : Nat} (hc : Safe ctx dir [] room c)
    (hd : Safe ctx dir [] room' d) : Safe ctx dir [] (room + room') (c >>= fun _ ↦ d) := by
  intro w hw _ _ hroom
  obtain ⟨w', hrun, hw', hle⟩ := hc w hw nofun .nil (by omega)
  obtain ⟨w'', hrun', hw'', hle'⟩ := hd w' hw' nofun .nil (by omega)
  refine ⟨w'', ?_, hw'', by omega⟩
  rw [run_bind, hrun]
  exact hrun'

theorem Safe.mono {c : Check Unit} {room' : Nat} (h : Safe ctx dir names room c)
    (hle : room ≤ room') : Safe ctx dir names room' c := by
  intro w hw hnames hnodup hroom
  obtain ⟨w', hrun, hw', hissued⟩ := h w hw hnames hnodup (by omega)
  exact ⟨w', hrun, hw', by omega⟩

end MountSweep.Scenario
