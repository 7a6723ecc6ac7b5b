import MountSweep.Proofs.Scenarios.Ground

namespace MountSweep.Posix.FileSystem

open Scenario Scenario.Check NameGenerator

variable {base fs : FileSystem} {dir k f s g parent : Ino} {added entries : List (Bytes × Ino)}
  {content data nb : Bytes} {links dev : Nat} {n m l : UInt64} {p q : Path} {rest : Check Unit}
  {R : Unit → FileSystem → Prop}

theorem Adds.entries?_eq (h : base.Adds dir added fs) (hbase : base.entries? dir = some entries) :
    fs.entries? dir = some (entries ++ added) := by
  obtain ⟨entries', parent, dev, hb, hfs⟩ := h.isDirectory
  rw [hb.entries_eq] at hbase
  cases hbase
  exact hfs.entries_eq

theorem IsFile.unlink_passes (h : fs.IsFile k content links dev) (ht : fs.Tidy)
    (hd : fs.entries? dir = some entries) (hp : fs.Names p dir nb)
    (hc : fs.child? dir nb = some k) :
    Passes (Check.unlink p) fs fun _ fs' ↦ fs.Touches [dir, k] fs' ∧
      fs'.entries? dir = some (entries.filter (·.1 ≠ nb)) := by
  have hisDir : fs.isDir dir := isDir_of_entries hd
  obtain ⟨entries', parent, dev', hdir⟩ := exists_isDirectory hisDir
  obtain rfl : entries' = entries := Option.some_inj.mp (hdir.entries_eq.symm.trans hd)
  have hs := elapse_touches ht [dir, k]
  have h' := h.kept ht (elapse_touches ht []) List.not_mem_nil
  have hp' := (Adds.refl ht hisDir).elapse.grows.names hp
  have hc' : fs.elapse.child? dir nb = some k := by rwa [child?, entries?, get?_elapse]
  have hne : dir ≠ k := by
    rintro rfl
    exact Bool.false_ne_true (h.isDir_eq.symm.trans hisDir)
  have hdetach : fs.elapse.Touches [dir, k] (fs.elapse.detach dir nb) :=
    update_touches hs.tidy List.mem_cons_self _
  have hrelink : (fs.elapse.detach dir nb).Touches [dir, k]
      ((fs.elapse.detach dir nb).relink k (· - 1)) :=
    update_touches hdetach.tidy (List.mem_cons_of_mem dir List.mem_cons_self) _
  have hleft := (hdir.of_get_eq (get?_elapse fs dir)).editEntries (·.filter (·.1 ≠ nb))
  have hget : ((fs.elapse.detach dir nb).relink k (· - 1)).get? dir =
      (fs.elapse.detach dir nb).get? dir := by
    rw [FileSystem.relink, get?_update, if_neg hne]
  refine change_passes hp.zero_notMem (h'.unlink_eq hp' hc') ⟨?_, ?_⟩
  · exact (hs.trans hdetach fun _ hi _ ↦ hi).trans hrelink fun _ hi _ ↦ hi
  · exact (hleft.of_get_eq hget).entries_eq

/-- A directory that was empty holds a file and a directory with another file. -/
structure HoldsTree (base : FileSystem) (k : Ino) (n m l : UInt64) (f s g : Ino)
    (fs : FileSystem) : Prop where
  file : ∃ data, base.AddsFile k [(entry n, f), (entry m, s)] f data 1 fs
  subdir : fs.entries? s = some [(entry l, g)]
  subfile : ∃ data dev, fs.IsFile g data 1 dev
  subdir_next_le : base.next ≤ s
  subfile_next_le : base.next ≤ g
  ne_subfile : f ≠ g

theorem entry_lookup_second (h : m ≠ n) (f s : Ino) :
    [(entry n, f), (entry m, s)].lookup (entry m) = some s := by
  rw [List.lookup_cons, beq_eq_false_iff_ne.mpr fun he ↦ h (entry_injective he)]
  exact lookup_own (entry m) s

theorem buildTree_passes (ht : base.Tidy) (hl : base.Leads p 2 k)
    (hk : base.entries? k = some []) (hq : 0 ∉ q) (hdata : base.contents q = .ok data)
    (hne : m ≠ n)
    (hrest : ∀ f s g fs, base.HoldsTree k n m l f s g fs → Passes rest fs R) :
    Passes (copy q (p.joinName (nth n)) >>= fun _ ↦ Check.mkdir (p.joinName (nth m)) >>= fun _ ↦
      copy q ((p.joinName (nth m)).joinName (nth l)) >>= fun _ ↦ rest) base R := by
  have hvacant (n : UInt64) : base.Vacant (p.joinName (nth n)) k (entry n) :=
    ⟨hl.names (isName_entry n), by rw [child?_eq_lookup hk, List.lookup_nil]⟩
  have hother (f : Ino) : [(entry n, f)].lookup (entry m) = none :=
    lookup_other (fun he ↦ hne (entry_injective he)) f
  refine ((Adds.refl ht hl.isDir).copy_passes (hvacant n) rfl hq hdata).bind ?_
  rintro _ fs₁ ⟨f, h₁⟩
  refine (h₁.adds.mkdir_passes (hvacant m) (hother f)).bind ?_
  rintro _ fs₂ ⟨s, i, h₂, hnext, hs₂, hs, hdir⟩
  have hf₂ := h₁.isFile.kept h₁.adds.touches.tidy hs₂
    (by simpa using (h₁.adds.dir_lt.trans_le h₁.next_le).ne')
  have hempty := entries_of_get hs hdir
  have hfs : f ≠ s := by
    rintro rfl
    rw [hf₂.entries?_eq] at hempty
    cases hempty
  have hchild : fs₂.child? k (entry m) = some s :=
    (h₂.child?_eq (hvacant m).child?_eq).trans (entry_lookup_second hne f s)
  have hinner := (h₂.grows.leads hl).join (isName_entry m) hchild
    (isDir_of_entries hempty)
  have hsub : fs₂.Vacant ((p.joinName (nth m)).joinName (nth l)) s (entry l) :=
    ⟨hinner.names (isName_entry l), by rw [child?_eq_lookup hempty, List.lookup_nil]⟩
  refine ((Adds.refl h₂.touches.tidy hinner.isDir).copy_passes hsub rfl hq
    (h₂.grows.contents_eq hdata).1).bind ?_
  rintro _ fs₃ ⟨g, h₃⟩
  have hlt := hf₂.lt_next h₂.touches.tidy
  exact hrest f s g fs₃
    { file := ⟨data, h₂.inner h₃.adds hnext,
        hf₂.kept h₂.touches.tidy h₃.adds.touches (by simpa using hfs), h₁.next_le⟩
      subdir := h₃.adds.entries?_eq hempty
      subfile := ⟨data, _, h₃.isFile⟩
      subdir_next_le := hnext
      subfile_next_le := h₂.touches.next_le.trans h₃.next_le
      ne_subfile := (hlt.trans_le h₃.next_le).ne }

theorem HoldsTree.removeTree_passes (h : base.HoldsTree k n m l f s g fs)
    (hl : base.Leads p 2 k) (hk : base.entries? k = some []) (hne : m ≠ n)
    (hrest : ∀ fs', base.Adds k [] fs' → Passes rest fs' R) :
    Passes (Check.unlink (p.joinName (nth n)) >>= fun _ ↦
      Check.unlink ((p.joinName (nth m)).joinName (nth l)) >>= fun _ ↦
      Check.rmdir (p.joinName (nth m)) >>= fun _ ↦ rest) fs R := by
  have hvacant (n : UInt64) : base.Vacant (p.joinName (nth n)) k (entry n) :=
    ⟨hl.names (isName_entry n), by rw [child?_eq_lookup hk, List.lookup_nil]⟩
  obtain ⟨data, hf⟩ := h.file
  obtain ⟨content, dev, hg⟩ := h.subfile
  have ha : [(entry n, f), (entry m, s)].lookup (entry n) = some f := List.lookup_cons_self
  have hleft : [(entry n, f), (entry m, s)].filter (·.1 ≠ entry n) = [(entry m, s)] := by
    have hentry : entry m ≠ entry n := fun he ↦ hne (entry_injective he)
    simp [hentry]
  have htidy := hf.adds.touches.tidy
  have hold {i : Ino} (hi : base.next ≤ i) : i ≠ k := (hf.adds.dir_lt.trans_le hi).ne'
  have hs_ne : s ≠ f := by
    rintro rfl
    cases h.subdir.symm.trans hf.isFile.entries?_eq
  have houter := hf.adds.entries?_eq hk
  refine Passes.bind ((hf.unlink_passes (hvacant n) ha).and (hf.isFile.unlink_passes htidy houter
    (hf.adds.names (hvacant n)) (hf.child?_eq (hvacant n) ha))) ?_
  rintro _ fs₁ ⟨hf₁, hs₁, -⟩
  rw [hleft] at hf₁
  have hsub₁ := hs₁.entries?_eq htidy h.subdir (by simp [hold h.subdir_next_le, hs_ne])
  have hg₁ := hg.kept htidy hs₁ (by simp [hold h.subfile_next_le, h.ne_subfile.symm])
  have hchild : fs₁.child? k (entry m) = some s :=
    (hf₁.adds.child?_eq (hvacant m).child?_eq).trans (lookup_own (entry m) s)
  have hinner := (hf₁.adds.grows.leads hl).join (isName_entry m) hchild
    (isDir_of_entries hsub₁)
  refine (hg₁.unlink_passes hs₁.tidy hsub₁ (hinner.names (isName_entry l)) ?_).bind ?_
  · rw [child?_eq_lookup hsub₁]
    exact lookup_own (entry l) g
  rintro _ fs₂ ⟨hs₂, hsub₂⟩
  rw [filter_own] at hsub₂
  have h₂ := hf₁.adds.of_touches hs₂ (by simp [h.subdir_next_le, h.subfile_next_le])
  refine (h₂.rmdir_passes (hvacant m) (lookup_own (entry m) s) hsub₂).bind ?_
  intro _ fs₃ h₃
  rw [filter_own] at h₃
  exact hrest fs₃ h₃

end MountSweep.Posix.FileSystem

namespace MountSweep.Scenario

open Posix FileSystem Check NameGenerator

variable {ctx : Context} {dir : Ino}

theorem readdir_safe : Safe ctx dir [] 4 (readdir ctx) := by
  refine .name fun n ↦ .name fun m ↦ .name fun l ↦ .name fun j ↦
    .of_passes fun base hg hnew hnodup ↦ ?_
  have hn := hnew n (by simp)
  have hne : l ≠ m := by
    rintro rfl
    simp at hnodup
  refine (hg.adds.mkdir_passes (hg.vacant_src hn) rfl).bind ?_
  rintro _ fs₁ ⟨k, i, h₁, hnext, -, hk, hdir⟩
  have ha := lookup_own (entry n) k
  have hempty := entries_of_get hk hdir
  have hchild := (h₁.child?_eq hn).trans ha
  have hisDir : fs₁.isDir k := isDir_of_entries hempty
  have hsrc := (h₁.grows.leads hg.src).join (isName_entry n) hchild hisDir
  have hmnt := (h₁.grows.leads hg.mnt).join (isName_entry n) hchild hisDir
  refine buildTree_passes h₁.touches.tidy hsrc hempty hg.zero_notMem
    (h₁.grows.contents_eq hg.contents_eq).1 hne fun f s g fs₂ h₂ ↦ ?_
  obtain ⟨data, h₂f⟩ := h₂.file
  refine Looks.then ((entries_looks (h₂f.adds.grows.leads hmnt)
    (h₂f.adds.entries?_eq hempty)).bind (.pure fs₂ _)) ?_
  refine (expectEq_looks (by simp [display_entry])).then ?_
  refine h₂.removeTree_passes hsrc hempty hne fun fs₃ h₃ ↦ ?_
  have h₄ := h₁.inner h₃ hnext
  refine (h₄.rmdir_passes (hg.vacant_src hn) ha (h₃.entries?_eq hempty)).mono ?_
  intro _ fs₄ h₅
  rw [List.nil_append, filter_own] at h₅
  exact .nothing h₅

end MountSweep.Scenario
