import Mathlib.Algebra.Order.Group.Int
import MountSweep.Posix.FileSystem.Calls
import MountSweep.Proofs.Files.Walks

namespace MountSweep.Posix.FileSystem

variable {base fs fs' fs'' : FileSystem} {dir i j k : Ino} {added added' : List (Bytes × Ino)}
  {name : Bytes} {n : Inode} {f : Inode → Inode} {touched touched' : List Ino}

@[simp]
theorem get?_update (fs : FileSystem) (i j : Ino) (f : Inode → Inode) :
    (fs.update i f).get? j = if j = i then (fs.get? i).map f else fs.get? j := by
  rw [update]
  split
  · rename_i n hn
    rw [get?_put, hn]
    rfl
  · rename_i hn
    split
    · rename_i hj
      rw [hj, hn]
      rfl
    · rfl

@[simp]
theorem update_next (fs : FileSystem) (i : Ino) (f : Inode → Inode) :
    (fs.update i f).next = fs.next := by
  rw [update]
  split <;> rfl

@[simp]
theorem update_cwd (fs : FileSystem) (i : Ino) (f : Inode → Inode) :
    (fs.update i f).cwd = fs.cwd := by
  rw [update]
  split <;> rfl

@[simp]
theorem update_now (fs : FileSystem) (i : Ino) (f : Inode → Inode) :
    (fs.update i f).now = fs.now := by
  rw [update]
  split <;> rfl

@[simp]
theorem update_uid (fs : FileSystem) (i : Ino) (f : Inode → Inode) :
    (fs.update i f).uid = fs.uid := by
  rw [update]
  split <;> rfl

@[simp]
theorem update_gid (fs : FileSystem) (i : Ino) (f : Inode → Inode) :
    (fs.update i f).gid = fs.gid := by
  rw [update]
  split <;> rfl

theorem length_put_le (fs : FileSystem) (i : Ino) (n : Inode) :
    fs.inodes.length ≤ (fs.put i n).inodes.length := by
  have hle (ns : List (Ino × Inode)) : ns.length ≤ (putInode i n ns).length := by
    induction ns with
    | nil => exact Nat.zero_le _
    | cons e ns ih =>
      rw [putInode]
      split
      · exact le_rfl
      · exact Nat.succ_le_succ ih
  exact hle fs.inodes

theorem length_update_le (fs : FileSystem) (i : Ino) (f : Inode → Inode) :
    fs.inodes.length ≤ (fs.update i f).inodes.length := by
  rw [update]
  split
  · exact length_put_le fs i _
  · exact le_rfl

def Tidy (fs : FileSystem) : Prop := ∀ i, fs.next ≤ i → fs.get? i = none

theorem tidy_of_forall_lt (h : ∀ e ∈ fs.inodes, e.1 < fs.next) : fs.Tidy := by
  intro i hi
  rw [get?, List.lookup_eq_none_iff]
  exact fun e he ↦ bne_iff_ne.mpr ((h e he).trans_le hi).ne'

theorem Tidy.lt_next (h : fs.Tidy) (hi : fs.get? i = some n) : i < fs.next := by
  refine Nat.lt_of_not_le fun hle ↦ ?_
  rw [h i hle] at hi
  cases hi

/-- Some inodes may have changed, time may have passed, and new inodes may have been made. -/
structure Touches (fs : FileSystem) (touched : List Ino) (fs' : FileSystem) : Prop where
  cwd_eq : fs'.cwd = fs.cwd
  uid_eq : fs'.uid = fs.uid
  gid_eq : fs'.gid = fs.gid
  now_le : fs.now ≤ fs'.now
  next_le : fs.next ≤ fs'.next
  length_le : fs.inodes.length ≤ fs'.inodes.length
  tidy : fs'.Tidy
  kept : ∀ i, i < fs.next → i ∉ touched → fs'.get? i = fs.get? i

theorem Touches.refl (h : fs.Tidy) : fs.Touches touched fs where
  cwd_eq := rfl
  uid_eq := rfl
  gid_eq := rfl
  now_le := le_rfl
  next_le := le_rfl
  length_le := le_rfl
  tidy := h
  kept _ _ _ := rfl

theorem Touches.mono (h : fs.Touches touched fs') (hsub : touched ⊆ touched') :
    fs.Touches touched' fs' :=
  { h with kept := fun i hi hnot ↦ h.kept i hi fun hmem ↦ hnot (hsub hmem) }

theorem Touches.trans (h : fs.Touches touched fs') (h' : fs'.Touches touched' fs'')
    (hold : ∀ i ∈ touched', i < fs.next → i ∈ touched) : fs.Touches touched fs'' where
  cwd_eq := h'.cwd_eq.trans h.cwd_eq
  uid_eq := h'.uid_eq.trans h.uid_eq
  gid_eq := h'.gid_eq.trans h.gid_eq
  now_le := h.now_le.trans h'.now_le
  next_le := h.next_le.trans h'.next_le
  length_le := h.length_le.trans h'.length_le
  tidy := h'.tidy
  kept i hi hnot := (h'.kept i (hi.trans_le h.next_le) fun hmem ↦ hnot (hold i hmem hi)).trans
    (h.kept i hi hnot)

theorem Touches.entries?_eq (h : fs.Touches touched fs') (ht : fs.Tidy)
    {entries : List (Bytes × Ino)} (hi : fs.entries? i = some entries) (hnot : i ∉ touched) :
    fs'.entries? i = some entries := by
  obtain ⟨n, parent, hget, -⟩ := exists_dir_of_entries hi
  rw [← hi, entries?, entries?, h.kept i (ht.lt_next hget) hnot]

theorem update_touches (h : fs.Tidy) (hi : i ∈ touched) (f : Inode → Inode) :
    fs.Touches touched (fs.update i f) where
  cwd_eq := update_cwd fs i f
  uid_eq := update_uid fs i f
  gid_eq := update_gid fs i f
  now_le := (update_now fs i f).ge
  next_le := (update_next fs i f).ge
  length_le := length_update_le fs i f
  tidy j hj := by
    rw [update_next] at hj
    rw [get?_update]
    split
    · rename_i hji
      rw [← hji, h j hj]
      rfl
    · exact h j hj
  kept j _ hnot := by
    have hji : j ≠ i := by
      rintro rfl
      exact hnot hi
    rw [get?_update, if_neg hji]

theorem update_touches_self (h : fs.Tidy) (i : Ino) (f : Inode → Inode) :
    fs.Touches [i] (fs.update i f) := update_touches h (List.mem_singleton_self i) f

@[simp]
theorem get?_elapse (fs : FileSystem) (i : Ino) : fs.elapse.get? i = fs.get? i := by
  rw [elapse]
  split <;> rfl

theorem elapse_touches (h : fs.Tidy) (touched : List Ino) : fs.Touches touched fs.elapse := by
  rw [elapse]
  split
  · exact .refl h
  · exact ⟨rfl, rfl, rfl, by simp, le_rfl, le_rfl, h, fun _ _ _ ↦ rfl⟩

def allocate (fs : FileSystem) (n : Inode) : FileSystem :=
  { fs.put fs.next n with next := fs.next + 1 }

theorem make_eq (fs : FileSystem) (dir : Ino) (name : Bytes) (node : Node) (mode : Nat) :
    fs.make dir name node mode =
      (fs.next, (fs.allocate (fs.newInode dir node mode)).attach dir name fs.next) := rfl

theorem get?_allocate (fs : FileSystem) (n : Inode) (i : Ino) :
    (fs.allocate n).get? i = if i = fs.next then some n else fs.get? i :=
  get?_put fs fs.next i n

theorem allocate_touches (h : fs.Tidy) (n : Inode) (touched : List Ino) :
    fs.Touches touched (fs.allocate n) where
  cwd_eq := rfl
  uid_eq := rfl
  gid_eq := rfl
  now_le := le_rfl
  next_le := Nat.le_succ _
  length_le := length_put_le fs fs.next n
  tidy i hi := by
    have hlt : fs.next < i := hi
    rw [get?_allocate, if_neg hlt.ne']
    exact h i hlt.le
  kept i hi _ := by rw [get?_allocate, if_neg hi.ne]

/-- An inode is a directory with some entries, in some directory and on some device. -/
def IsDirectory (fs : FileSystem) (dir : Ino) (entries : List (Bytes × Ino)) (parent : Ino)
    (dev : Nat) : Prop :=
  ∃ n, fs.get? dir = some n ∧ n.node = .dir entries parent ∧ n.dev = dev

variable {entries : List (Bytes × Ino)} {parent : Ino} {dev : Nat}

theorem IsDirectory.entries_eq (h : fs.IsDirectory dir entries parent dev) :
    fs.entries? dir = some entries := by
  obtain ⟨n, hget, hnode, -⟩ := h
  exact entries_of_get hget hnode

theorem IsDirectory.isDir (h : fs.IsDirectory dir entries parent dev) : fs.isDir dir :=
  isDir_of_entries h.entries_eq

theorem exists_isDirectory (h : fs.isDir dir) :
    ∃ entries parent dev, fs.IsDirectory dir entries parent dev := by
  obtain ⟨entries, hentries⟩ := exists_entries_of_isDir h
  obtain ⟨n, parent, hget, hnode⟩ := exists_dir_of_entries hentries
  exact ⟨entries, parent, n.dev, n, hget, hnode, rfl⟩

theorem IsDirectory.editEntries (h : fs.IsDirectory dir entries parent dev)
    (f : List (Bytes × Ino) → List (Bytes × Ino)) :
    (fs.editEntries dir f).IsDirectory dir (f entries) parent dev := by
  obtain ⟨n, hget, hnode, hdev⟩ := h
  refine ⟨{ n with node := .dir (f entries) parent, mtime := fs.now, ctime := fs.now }, ?_, rfl,
    hdev⟩
  rw [FileSystem.editEntries, get?_update, if_pos rfl, hget, Option.map_some, hnode]

theorem IsDirectory.of_get_eq (h : fs.IsDirectory dir entries parent dev)
    (hget : fs'.get? dir = fs.get? dir) : fs'.IsDirectory dir entries parent dev := by
  obtain ⟨n, hn, hrest⟩ := h
  exact ⟨n, hget.trans hn, hrest⟩

/-- Further entries are in a directory, and new inodes have been made: all else is as it was. -/
structure Adds (base : FileSystem) (dir : Ino) (added : List (Bytes × Ino)) (fs : FileSystem) :
    Prop where
  tidy : base.Tidy
  touches : base.Touches [dir] fs
  isDirectory : ∃ entries parent dev, base.IsDirectory dir entries parent dev ∧
    fs.IsDirectory dir (entries ++ added) parent dev

namespace Adds

theorem refl (ht : base.Tidy) (hd : base.isDir dir) : base.Adds dir [] base := by
  obtain ⟨entries, parent, dev, h⟩ := exists_isDirectory hd
  exact ⟨ht, .refl ht, entries, parent, dev, h, by rwa [List.append_nil]⟩

theorem dir_lt (h : base.Adds dir added fs) : dir < base.next := by
  obtain ⟨-, -, -, ⟨n, hget, -⟩, -⟩ := h.isDirectory
  exact h.tidy.lt_next hget

theorem trans (h : base.Adds dir added fs) (h' : fs.Adds dir added' fs') :
    base.Adds dir (added ++ added') fs' := by
  obtain ⟨entries, parent, dev, hbase, n, hget, hnode, hdev⟩ := h.isDirectory
  obtain ⟨entries', parent', dev', ⟨n', hget', hnode', hdev'⟩, hfs'⟩ := h'.isDirectory
  rw [hget] at hget'
  cases hget'
  rw [hnode] at hnode'
  cases hnode'
  subst hdev
  subst hdev'
  refine ⟨h.tidy, h.touches.trans h'.touches fun i hi _ ↦ hi, entries, parent, _, hbase, ?_⟩
  rwa [← List.append_assoc]

theorem step (h : base.Adds dir added fs) (ht : fs.Touches touched fs')
    (hnew : ∀ i ∈ touched, i = dir ∨ base.next ≤ i)
    (hd : ∀ entries parent dev, base.IsDirectory dir entries parent dev →
      fs.IsDirectory dir (entries ++ added) parent dev →
      fs'.IsDirectory dir (entries ++ added') parent dev) : base.Adds dir added' fs' := by
  obtain ⟨entries, parent, dev, hbase, hfs⟩ := h.isDirectory
  refine ⟨h.tidy, h.touches.trans ht fun i hi hlt ↦ ?_, entries, parent, dev, hbase,
    hd _ _ _ hbase hfs⟩
  rcases hnew i hi with rfl | hle
  · exact List.mem_singleton_self _
  · exact absurd hlt (Nat.not_lt.mpr hle)

theorem of_touches (h : base.Adds dir added fs) (ht : fs.Touches touched fs')
    (hnew : ∀ i ∈ touched, base.next ≤ i) : base.Adds dir added fs' := by
  refine h.step ht (fun i hi ↦ .inr (hnew i hi)) fun entries parent dev _ hfs ↦ ?_
  refine hfs.of_get_eq (ht.kept dir (h.dir_lt.trans_le h.touches.next_le) fun hmem ↦ ?_)
  exact absurd h.dir_lt (Nat.not_lt.mpr (hnew dir hmem))

theorem inner (h : base.Adds dir added fs) (h' : fs.Adds k added' fs') (hk : base.next ≤ k) :
    base.Adds dir added fs' :=
  h.of_touches h'.touches fun _ hi ↦ List.mem_singleton.mp hi ▸ hk

theorem elapse (h : base.Adds dir added fs) : base.Adds dir added fs.elapse :=
  h.of_touches (elapse_touches h.touches.tidy []) nofun

theorem update (h : base.Adds dir added fs) (hk : base.next ≤ k) (f : Inode → Inode) :
    base.Adds dir added (fs.update k f) :=
  h.of_touches (update_touches_self h.touches.tidy k f) fun _ hi ↦ List.mem_singleton.mp hi ▸ hk

theorem grows (h : base.Adds dir added fs) : base.Grows fs where
  cwd_eq := h.touches.cwd_eq
  extends_of_get i n hn := by
    by_cases hi : i = dir
    · subst hi
      obtain ⟨entries, parent, dev, ⟨m, hget, hnode, -⟩, n', hget', hnode', -⟩ := h.isDirectory
      rw [hn] at hget
      cases hget
      refine ⟨n', hget', ?_⟩
      rw [hnode, hnode']
      exact .dir entries added parent
    · refine ⟨n, ?_, .refl _⟩
      rw [h.touches.kept i (h.tidy.lt_next hn) (by simpa using hi), hn]
  kept i n n' hn hne hn' := by
    have hi : i ≠ dir := by
      rintro rfl
      obtain ⟨entries, parent, dev, ⟨m, hget, hnode, -⟩, -⟩ := h.isDirectory
      rw [hn] at hget
      cases hget
      exact hne entries parent hnode
    rw [h.touches.kept i (h.tidy.lt_next hn) (by simpa using hi), hn] at hn'
    cases hn'
    rfl

theorem isDir (h : base.Adds dir added fs) : fs.isDir dir := by
  obtain ⟨entries, parent, dev, -, hfs⟩ := h.isDirectory
  exact hfs.isDir

theorem child?_eq (h : base.Adds dir added fs) (hbase : base.child? dir name = none) :
    fs.child? dir name = added.lookup name := by
  obtain ⟨entries, parent, dev, hb, hfs⟩ := h.isDirectory
  rw [child?_eq_lookup hb.entries_eq] at hbase
  rw [child?_eq_lookup hfs.entries_eq, List.lookup_append, hbase, Option.none_or]

theorem child?_eq_none (h : base.Adds dir added fs) (hbase : base.child? dir name = none)
    (hname : ∀ e ∈ added, e.1 ≠ name) : fs.child? dir name = none := by
  rw [h.child?_eq hbase, List.lookup_eq_none_iff]
  exact fun e he ↦ by simpa using (hname e he).symm

theorem attach (h : base.Adds dir added fs) (name : Bytes) (i : Ino) :
    base.Adds dir (added ++ [(name, i)]) (fs.attach dir name i) := by
  refine h.step (update_touches_self h.touches.tidy dir _)
    (fun _ hi ↦ .inl (List.mem_singleton.mp hi)) fun entries parent dev _ hfs ↦ ?_
  rw [← List.append_assoc]
  exact hfs.editEntries _

theorem detach (h : base.Adds dir added fs) (hbase : base.child? dir name = none) :
    base.Adds dir (added.filter (·.1 ≠ name)) (fs.detach dir name) := by
  refine h.step (update_touches_self h.touches.tidy dir _)
    (fun _ hi ↦ .inl (List.mem_singleton.mp hi)) fun entries parent dev hb hfs ↦ ?_
  have hedit := hfs.editEntries (·.filter (·.1 ≠ name))
  -- the directory did not have the name before
  rw [child?_eq_lookup hb.entries_eq, List.lookup_eq_none_iff] at hbase
  rwa [List.filter_append, List.filter_eq_self.mpr] at hedit
  intro e he
  simpa using (bne_iff_ne.mp (hbase e he)).symm

theorem allocate (h : base.Adds dir added fs) (n : Inode) : base.Adds dir added (fs.allocate n) :=
  h.of_touches (allocate_touches h.touches.tidy n []) nofun

theorem make (h : base.Adds dir added fs) (name : Bytes) (node : Node) (mode : Nat) :
    base.Adds dir (added ++ [(name, fs.next)]) (fs.make dir name node mode).2 :=
  (h.allocate _).attach name fs.next

end Adds

/-- Going up from a directory, one comes to one that lies in itself in fewer steps than `depth`. -/
def Rooted (fs : FileSystem) : Nat → Ino → Prop
  | 0, _ => False
  | depth + 1, i => ∃ j, fs.parent? i = some j ∧ (j = i ∨ Rooted fs depth j)

theorem Rooted.mono {depth depth' : Nat} (h : fs.Rooted depth i) (hle : depth ≤ depth') :
    fs.Rooted depth' i := by
  induction depth generalizing i depth' with
  | zero => exact h.elim
  | succ depth ih =>
    obtain ⟨depth', rfl⟩ := Nat.exists_eq_add_one_of_ne_zero (Nat.ne_zero_of_lt hle)
    obtain ⟨j, hj, rfl | hrest⟩ := h
    · exact ⟨_, hj, .inl rfl⟩
    · exact ⟨j, hj, .inr (ih hrest (Nat.le_of_succ_le_succ hle))⟩

theorem exists_dir_of_parent (h : fs.parent? i = some j) :
    ∃ entries dev, fs.IsDirectory i entries j dev := by
  rw [parent?] at h
  split at h
  · rename_i hget
    cases h
    exact ⟨_, _, _, hget, rfl, rfl⟩
  · cases h

theorem IsDirectory.parent_eq (h : fs.IsDirectory i entries j dev) : fs.parent? i = some j := by
  obtain ⟨⟨node⟩, hget, hnode, -⟩ := h
  subst hnode
  rw [parent?, hget]

namespace Adds

theorem parent_eq (h : base.Adds dir added fs) (hi : base.parent? i = some j) :
    fs.parent? i = some j := by
  obtain ⟨entries, dev, hdir⟩ := exists_dir_of_parent hi
  obtain ⟨n, hget, hnode, -⟩ := id hdir
  by_cases heq : i = dir
  · subst heq
    obtain ⟨entries', parent, dev', hbase, hfs⟩ := h.isDirectory
    rw [hbase.parent_eq] at hi
    cases hi
    exact hfs.parent_eq
  · exact (hdir.of_get_eq (h.touches.kept i (h.tidy.lt_next hget) (by simpa using heq))).parent_eq

theorem rooted {depth : Nat} (h : base.Adds dir added fs) (hr : base.Rooted depth i) :
    fs.Rooted depth i := by
  induction depth generalizing i with
  | zero => exact hr
  | succ depth ih =>
    obtain ⟨j, hj, hrest⟩ := hr
    exact ⟨j, h.parent_eq hj, hrest.imp_right ih⟩

theorem find?_entry (h : base.Adds dir added fs) (hnew : ∀ e ∈ added, base.next ≤ e.2)
    (hi : i < base.next) (j : Ino) (hj : j < base.next) :
    ((fs.entries? j).getD []).find? (·.2 = i) = ((base.entries? j).getD []).find? (·.2 = i) := by
  by_cases heq : j = dir
  · subst heq
    obtain ⟨entries, parent, dev, hbase, hfs⟩ := h.isDirectory
    have hnone : added.find? (·.2 = i) = none := by
      rw [List.find?_eq_none]
      intro e he hei
      exact absurd (hnew e he) (Nat.not_le.mpr (of_decide_eq_true hei ▸ hi))
    rw [hfs.entries_eq, hbase.entries_eq, Option.getD_some, Option.getD_some, List.find?_append,
      hnone, Option.or_none]
  · rw [entries?, entries?, h.touches.kept j hj (by simpa using heq)]

theorem pathOf_eq {depth depth' : Nat} (h : base.Adds dir added fs)
    (hnew : ∀ e ∈ added, base.next ≤ e.2) (hr : base.Rooted depth i) (hle : depth ≤ depth') :
    fs.pathOf depth' i = base.pathOf depth i := by
  induction depth generalizing i depth' with
  | zero => exact hr.elim
  | succ depth ih =>
    obtain ⟨depth', rfl⟩ := Nat.exists_eq_add_one_of_ne_zero (Nat.ne_zero_of_lt hle)
    obtain ⟨j, hj, hrest⟩ := hr
    rw [pathOf, pathOf, h.parent_eq hj, hj]
    dsimp only
    split
    · rfl
    · rename_i hne
      have hrest := hrest.resolve_left hne
      obtain ⟨-, -, n, hget, -⟩ := exists_dir_of_parent hj
      have hjlt : j < base.next := by
        cases depth with
        | zero => exact hrest.elim
        | succ depth =>
          obtain ⟨_, hj', -⟩ := hrest
          obtain ⟨-, -, m, hm, -⟩ := exists_dir_of_parent hj'
          exact h.tidy.lt_next hm
      rw [h.find?_entry hnew (h.tidy.lt_next hget) j hjlt]
      split
      · rw [ih hrest (Nat.le_of_succ_le_succ hle)]
      · rfl

end Adds

end MountSweep.Posix.FileSystem
