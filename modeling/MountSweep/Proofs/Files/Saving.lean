import MountSweep.Proofs.Files.Calls

namespace MountSweep.Posix.FileSystem

variable {fs fs' fs'' : FileSystem} {p : Path} {dir k : Ino} {name : Bytes}
  {names names' : List Bytes} {held : Option Bytes} {content data : Bytes} {n : Inode}

/-- What a directory holds under a name: nothing, or a file with some contents that has no other
name there. -/
def Holds (fs : FileSystem) (dir : Ino) (name : Bytes) : Option Bytes → Prop
  | none => fs.child? dir name = none
  | some content => ∃ k n, fs.child? dir name = some k ∧ fs.get? k = some n ∧
      n.node = .file content ∧ ∀ other, fs.child? dir other = some k → other = name

/-- No entry of a directory is that of an inode that is still to be made. -/
def Bounded (fs : FileSystem) (dir : Ino) : Prop :=
  ∀ name k, fs.child? dir name = some k → k < fs.next

theorem mem_of_child? {entries : List (Bytes × Ino)} (hentries : fs.entries? dir = some entries)
    (hc : fs.child? dir name = some k) : (name, k) ∈ entries := by
  rw [child?_eq_lookup hentries, List.lookup_eq_some_iff] at hc
  obtain ⟨front, back, rfl, -⟩ := hc
  exact List.mem_append_right _ List.mem_cons_self

theorem Holds.contentOf_eq (h : fs.Holds dir name (some content)) (hp : fs.Names p dir name) :
    fs.contentOf p = .ok content := by
  obtain ⟨k, n, hc, hk, hn, -⟩ := h
  rw [contentOf, hp.contents_file hc hk hn,
    onPaths_ok (List.forall_mem_singleton.mpr hp.zero_notMem)]

theorem Holds.name_eq (h : fs.Holds dir name held) (hc : fs.child? dir name = some k)
    {other : Bytes} (hother : fs.child? dir other = some k) : other = name := by
  cases held with
  | none => cases hc.symm.trans h
  | some content =>
    obtain ⟨j, n, hj, -, -, honly⟩ := h
    cases hc.symm.trans hj
    exact honly other hother

/-- Entries of a directory with some names have been written: all else that was there is as it was,
and paths lead where they led. -/
structure Rewrites (fs : FileSystem) (dir : Ino) (names : List Bytes) (fs' : FileSystem) :
    Prop where
  leadsOn : fs.LeadsOn fs'
  touches : fs.Touches (dir :: names.filterMap (fs.child? dir)) fs'
  entries : ∃ entries added, fs.entries? dir = some entries ∧
    fs'.entries? dir = some (entries ++ added) ∧
    ∀ e ∈ added, e.1 ∈ names ∧ fs.next ≤ e.2 ∧ e.2 < fs'.next

namespace Rewrites

theorem refl (ht : fs.Tidy) (hd : fs.isDir dir) : fs.Rewrites dir names fs := by
  obtain ⟨entries, hentries⟩ := exists_entries_of_isDir hd
  exact ⟨.refl fs, .refl ht, entries, [], hentries, by rw [List.append_nil, hentries],
    List.forall_mem_nil _⟩

theorem isDir (h : fs.Rewrites dir names fs') : fs.isDir dir := by
  obtain ⟨entries, -, hentries, -⟩ := h.entries
  exact isDir_of_entries hentries

theorem child?_eq (h : fs.Rewrites dir names fs') (hc : fs.child? dir name = some k) :
    fs'.child? dir name = some k := by
  obtain ⟨entries, added, hbefore, hafter, -⟩ := h.entries
  rw [child?_eq_lookup hbefore] at hc
  rw [child?_eq_lookup hafter, List.lookup_append, hc, Option.some_or]

theorem child?_cases (h : fs.Rewrites dir names fs') (hc : fs'.child? dir name = some k) :
    fs.child? dir name = some k ∨
      fs.child? dir name = none ∧ name ∈ names ∧ fs.next ≤ k ∧ k < fs'.next := by
  cases hold : fs.child? dir name with
  | some j => exact .inl ((h.child?_eq hold).symm.trans hc)
  | none =>
    obtain ⟨entries, added, hbefore, hafter, hadded⟩ := h.entries
    rw [child?_eq_lookup hbefore, List.lookup_eq_none_iff] at hold
    refine .inr ⟨rfl, hadded (name, k) ?_⟩
    refine (List.mem_append.mp (mem_of_child? hafter hc)).resolve_left fun hmem ↦ ?_
    simpa using hold _ hmem

theorem get?_eq (h : fs.Rewrites dir names fs') (hk : k < fs.next) (hne : k ≠ dir)
    (hother : ∀ name ∈ names, fs.child? dir name ≠ some k) : fs'.get? k = fs.get? k := by
  refine h.touches.kept k hk ?_
  rw [List.mem_cons, List.mem_filterMap, not_or]
  exact ⟨hne, fun ⟨name, hmem, hc⟩ ↦ hother name hmem hc⟩

theorem bounded (h : fs.Rewrites dir names fs') (hb : fs.Bounded dir) : fs'.Bounded dir := by
  intro name k hc
  rcases h.child?_cases hc with hold | ⟨-, -, -, hlt⟩
  · exact (hb name k hold).trans_le h.touches.next_le
  · exact hlt

theorem child?_of_notMem (h : fs.Rewrites dir names fs') (hname : name ∉ names) :
    fs'.child? dir name = fs.child? dir name := by
  cases hc : fs.child? dir name with
  | some k => exact h.child?_eq hc
  | none =>
    refine Option.eq_none_iff_forall_ne_some.mpr fun k hc' ↦ ?_
    rcases h.child?_cases hc' with hold | ⟨-, hmem, -, -⟩
    · cases hold.symm.trans hc
    · exact hname hmem

theorem holds (h : fs.Rewrites dir names fs') (ht : fs.Tidy) (hname : name ∉ names)
    (hh : fs.Holds dir name held) : fs'.Holds dir name held := by
  cases held with
  | none => exact (h.child?_of_notMem hname).trans hh
  | some content =>
    obtain ⟨k, n, hc, hk, hn, honly⟩ := hh
    have hlt := ht.lt_next hk
    refine ⟨k, n, h.child?_eq hc, ?_, hn, fun other hother ↦ ?_⟩
    · have hne := ne_dir_of_file hk hn h.isDir
      rw [h.get?_eq hlt hne fun other hmem hother ↦ hname (honly other hother ▸ hmem), hk]
    · rcases h.child?_cases hother with hold | ⟨-, -, hle, -⟩
      · exact honly other hold
      · exact absurd hlt (Nat.not_lt.mpr hle)

theorem trans (h : fs.Rewrites dir names fs') (h' : fs'.Rewrites dir names' fs'') :
    fs.Rewrites dir (names ++ names') fs'' where
  leadsOn := h.leadsOn.trans h'.leadsOn
  touches := by
    refine (h.touches.mono ?_).trans h'.touches fun i hi hlt ↦ ?_
    · exact List.cons_subset_cons _ (List.filterMap_append ▸ List.subset_append_left _ _)
    · rw [List.mem_cons, List.mem_filterMap] at hi ⊢
      refine hi.imp_right ?_
      rintro ⟨name, hmem, hc⟩
      -- an entry that is new has a new inode
      rcases h.child?_cases hc with hold | ⟨-, -, hle, -⟩
      · exact ⟨name, List.mem_append_right _ hmem, hold⟩
      · exact absurd hlt (Nat.not_lt.mpr hle)
  entries := by
    obtain ⟨entries, added, hbefore, hmiddle, hadded⟩ := h.entries
    obtain ⟨_, added', hmiddle', hafter, hadded'⟩ := h'.entries
    cases hmiddle.symm.trans hmiddle'
    refine ⟨entries, added ++ added', hbefore, by rw [hafter, List.append_assoc], ?_⟩
    rw [List.forall_mem_append]
    refine ⟨fun e he ↦ ?_, fun e he ↦ ?_⟩
    · obtain ⟨hmem, hle, hlt⟩ := hadded e he
      exact ⟨List.mem_append_left _ hmem, hle, hlt.trans_le h'.touches.next_le⟩
    · obtain ⟨hmem, hle, hlt⟩ := hadded' e he
      exact ⟨List.mem_append_right _ hmem, h.touches.next_le.trans hle, hlt⟩

end Rewrites

theorem Touches.leadsOn (h : fs.Touches [k] fs') (ht : fs.Tidy) (hk : fs.get? k = some n)
    (hn : n.node = .file content) {n' : Inode} (hk' : fs'.get? k = some n')
    (hn' : n'.node = .file data) : fs.LeadsOn fs' where
  cwd_eq := h.cwd_eq
  extends_of_get i m hi := by
    by_cases hik : i = k
    · subst hik
      cases hi.symm.trans hk
      refine ⟨n', hk', ?_⟩
      rw [hn, hn']
      exact .file content data
    · refine ⟨m, ?_, .refl _⟩
      rw [h.kept i (ht.lt_next hi) (by simpa using hik), hi]

theorem rewrites_missing (ht : fs.Tidy) (hb : fs.Bounded dir) (hp : fs.Vacant p dir name)
    (data : Bytes) :
    ∃ fs', fs.save p data = .ok fs' ∧ fs.Rewrites dir [name] fs' ∧
      fs'.Holds dir name (some data) := by
  obtain ⟨fs', hsave, h⟩ := (Adds.refl ht hp.names.isDir).save_eq hp rfl data
  obtain ⟨entries, parent, dev, hbefore, hafter⟩ := h.adds.isDirectory
  have hrewrites : fs.Rewrites dir [name] fs' := by
    refine ⟨h.adds.grows.toLeadsOn, ?_, entries, _, hbefore.entries_eq, hafter.entries_eq, ?_⟩
    · exact h.adds.touches.mono (List.cons_subset_cons _ (List.nil_subset _))
    · exact List.forall_mem_singleton.mpr
        ⟨List.mem_singleton_self _, le_rfl, h.isFile.lt_next h.adds.touches.tidy⟩
  have hc : fs'.child? dir name = some fs.next := h.child?_eq hp (by simp)
  obtain ⟨n, hk, hn, -⟩ := h.isFile
  refine ⟨fs', hsave, hrewrites, fs.next, n, hc, hk, hn, fun other hother ↦ ?_⟩
  rcases hrewrites.child?_cases hother with hold | ⟨-, hmem, -, -⟩
  · exact absurd (hb other _ hold) (lt_irrefl _)
  · exact List.mem_singleton.mp hmem

theorem rewrites_present (ht : fs.Tidy) (hp : fs.Names p dir name)
    (hh : fs.Holds dir name (some content)) (data : Bytes) :
    ∃ fs', fs.save p data = .ok fs' ∧ fs.Rewrites dir [name] fs' ∧
      fs'.Holds dir name (some data) := by
  obtain ⟨k, n, hc, hk, hn, honly⟩ := hh
  obtain ⟨entries, hentries⟩ := exists_entries_of_isDir hp.isDir
  have hcleared : fs.Touches [k] (fs.setContent k fun _ ↦ []) := update_touches_self ht k _
  obtain ⟨fs', handle', hwrite, hwritten, n', hk', hn', -⟩ :=
    (isFile_setContent hk hn fun _ ↦ []).write_all hcleared.tidy data
  have htouches : fs.Touches [k] fs' := hcleared.trans hwritten fun _ hi _ ↦ hi
  have hsave : fs.save p data = .ok fs' := by
    rw [save, hp.openFile_file hc hk hn rfl]
    simp only [bind, Except.bind, if_true, hwrite]
    rfl
  have hrewrites : fs.Rewrites dir [name] fs' := by
    refine ⟨htouches.leadsOn ht hk hn hk' hn', htouches.mono (by simp [hc]), entries, [], hentries,
      ?_, List.forall_mem_nil _⟩
    have hdir : dir ∉ [k] := by simpa using (ne_dir_of_file hk hn hp.isDir).symm
    rw [List.append_nil, htouches.entries?_eq ht hentries hdir]
  refine ⟨fs', hsave, hrewrites, k, n', hrewrites.child?_eq hc, hk', hn', fun other hother ↦ ?_⟩
  rcases hrewrites.child?_cases hother with hold | ⟨-, -, hle, -⟩
  · exact honly other hold
  · exact absurd (ht.lt_next hk) (Nat.not_lt.mpr hle)

theorem exists_rewrites (ht : fs.Tidy) (hb : fs.Bounded dir) (hp : fs.Names p dir name)
    (hh : fs.Holds dir name held) (data : Bytes) :
    ∃ fs', fs.store p data = .ok fs' ∧ fs.Rewrites dir [name] fs' ∧
      fs'.Holds dir name (some data) := by
  have hsaved : ∃ fs', fs.save p data = .ok fs' ∧ fs.Rewrites dir [name] fs' ∧
      fs'.Holds dir name (some data) := by
    cases held with
    | none => exact rewrites_missing ht hb ⟨hp, hh⟩ data
    | some content => exact rewrites_present ht hp hh data
  obtain ⟨fs', hsave, h⟩ := hsaved
  refine ⟨fs', ?_, h⟩
  rw [store, hsave, onPaths_ok (List.forall_mem_singleton.mpr hp.zero_notMem)]

end MountSweep.Posix.FileSystem
