import MountSweep.Posix.FileSystem.Guarded
import MountSweep.Proofs.Files.Changes

namespace MountSweep.Posix

theorem onPaths_ok {α : Type} {paths : List Path} (h : ∀ p ∈ paths, 0 ∉ p) (refusal : SystemError)
    (a : α) : onPaths paths refusal (.ok a) = .ok a := by
  rw [onPaths, if_neg]
  simpa using h

theorem onPaths_error {α : Type} {paths : List Path} (h : ∀ p ∈ paths, 0 ∉ p)
    (refusal : SystemError) (e : Errno) :
    onPaths paths refusal (.error e : Except Errno α) = .error (.errno e) := by
  rw [onPaths, if_neg]
  simpa using h

namespace FileSystem

variable {fs fs' : FileSystem} {p q : Path} {dir k : Ino} {name other : Bytes} {n : Inode}
  {entries : List (Bytes × Ino)} {parent : Ino} {content data : Bytes} {links dev : Nat}
  {flags : OpenFlags} {touched : List Ino}

namespace Names

theorem stat_missing (h : fs.Names p dir name) (hc : fs.child? dir name = none) (follow : Bool) :
    fs.stat follow p = .error .noEntry := by
  rw [stat, h.lookup_missing hc]
  rfl

theorem freePlace_eq (h : fs.Names p dir name) (hc : fs.child? dir name = none) :
    fs.freePlace p = .ok (dir, name, false) := by
  rw [freePlace, h.place_eq]
  simp only [bind, Except.bind, hc]
  rfl

theorem freeFilePlace_eq (h : fs.Names p dir name) (hc : fs.child? dir name = none) :
    fs.freeFilePlace p = .ok (dir, name) := by
  rw [freeFilePlace, h.freePlace_eq hc]
  rfl

theorem mkdir_eq (h : fs.Names p dir name) (hc : fs.child? dir name = none) :
    fs.mkdir p = .ok (fs.make dir name (.dir [] dir) (masked 0o777)).2 := by
  rw [mkdir, h.freePlace_eq hc]
  rfl

theorem symlink_eq (h : fs.Names p dir name) (hc : fs.child? dir name = none) {target : Bytes}
    (ht : target ≠ []) :
    fs.symlink target p = .ok (fs.make dir name (.link target) 0o777).2 := by
  rw [symlink, h.freeFilePlace_eq hc, if_neg ht]
  rfl

theorem opening_missing (h : fs.Names p dir name) (hc : fs.child? dir name = none) :
    ∃ r, Route.ofPath p = .ok r ∧
      fs.opening maxLinks (fs.start r) r = .ok (.missing dir name) := by
  obtain ⟨absolute, parts, hroute, -⟩ := h.above
  have hplace := h.place_eq
  rw [place, hroute] at hplace
  simp only [bind, Except.bind] at hplace
  refine ⟨_, hroute, ?_⟩
  rw [opening.eq_def]
  simp only [hplace, hc]
  rfl

theorem openFile_missing (h : fs.Names p dir name) (hc : fs.child? dir name = none)
    (hcreate : flags.create) : fs.openFile flags p = .ok (fs.openNew flags dir name) := by
  rw [openFile, hcreate, Bool.true_and]
  cases flags.exclusive with
  | true =>
    rw [if_pos rfl, h.freePlace_eq hc]
    rfl
  | false =>
    obtain ⟨r, hroute, hopening⟩ := h.opening_missing hc
    rw [if_neg Bool.false_ne_true, if_pos rfl, hroute]
    simp only [bind, Except.bind, hopening]
    rfl

theorem lookup_entry (h : fs.Names p dir name) (hc : fs.child? dir name = some k) :
    fs.lookup false p = .ok k :=
  h.lookup_present hc fun hf ↦ absurd hf Bool.false_ne_true

theorem stat_present (h : fs.Names p dir name) (hc : fs.child? dir name = some k)
    (hk : fs.get? k = some n) : fs.stat false p = .ok (fs.statOf k n) := by
  rw [stat, h.lookup_entry hc]
  simp only [bind, Except.bind, hk]
  rfl

theorem lookup_of_ne_link (h : fs.Names p dir name) (hc : fs.child? dir name = some k)
    (hk : fs.get? k = some n) (hn : ∀ target, n.node ≠ .link target) (follow : Bool) :
    fs.lookup follow p = .ok k :=
  h.lookup_present hc fun _ m target hm ↦ by
    rw [hk] at hm
    cases hm
    exact hn target

theorem lookup_file (h : fs.Names p dir name) (hc : fs.child? dir name = some k)
    (hk : fs.get? k = some n) (hn : n.node = .file content) (follow : Bool) :
    fs.lookup follow p = .ok k :=
  h.lookup_of_ne_link hc hk (by simp [hn]) follow

theorem chmod_eq (h : fs.Names p dir name) (hc : fs.child? dir name = some k)
    (hk : fs.get? k = some n) (hn : ∀ target, n.node ≠ .link target) (mode : Nat) :
    fs.chmod p mode =
      .ok (fs.update k fun n ↦ { n with mode := mode &&& 0o7777, ctime := fs.now }) := by
  rw [chmod, h.lookup_of_ne_link hc hk hn]
  rfl

theorem utimens_eq (h : fs.Names p dir name) (hc : fs.child? dir name = some k)
    (hk : fs.get? k = some n) (hn : ∀ target, n.node ≠ .link target)
    (atime mtime : Option Stamp) :
    fs.utimens p atime mtime =
      .ok (fs.update k fun n ↦
        { n with atime := atime.getD fs.now, mtime := mtime.getD fs.now, ctime := fs.now }) := by
  rw [utimens, h.lookup_of_ne_link hc hk hn]
  rfl

theorem readlink_eq (h : fs.Names p dir name) (hc : fs.child? dir name = some k)
    (hk : fs.get? k = some n) {target : Bytes} (hn : n.node = .link target) :
    fs.readlink p = .ok target := by
  obtain ⟨node⟩ := n
  subst hn
  rw [readlink, h.lookup_entry hc]
  simp only [bind, Except.bind, hk]
  rfl

theorem rmdir_eq (h : fs.Names p dir name) (hc : fs.child? dir name = some k)
    (hk : fs.entries? k = some []) : fs.rmdir p = .ok (fs.detach dir name) := by
  rw [rmdir, h.place_eq]
  simp only [bind, Except.bind, entryAt, hc, hk]
  rfl

end Names

/-- An inode is a file with some contents, with so many names, on some device; its last change is
not in the future. -/
def IsFile (fs : FileSystem) (k : Ino) (content : Bytes) (links dev : Nat) : Prop :=
  ∃ n, fs.get? k = some n ∧ n.node = .file content ∧ n.links = links ∧ n.dev = dev ∧
    n.ctime ≤ fs.now

theorem isDir_of_file (hk : fs.get? k = some n) (hn : n.node = .file content) :
    fs.isDir k = false := by
  obtain ⟨node⟩ := n
  subst hn
  rw [isDir, entries?, hk]
  rfl

theorem ne_dir_of_file (hk : fs.get? k = some n) (hn : n.node = .file content)
    (hd : fs.isDir dir) : k ≠ dir := by
  rintro rfl
  exact Bool.false_ne_true ((isDir_of_file hk hn).symm.trans hd)

theorem isFile_setContent (hk : fs.get? k = some n) (hn : n.node = .file content)
    (f : Bytes → Bytes) : (fs.setContent k f).IsFile k (f content) n.links n.dev := by
  refine ⟨{ n with node := .file (f content), mtime := fs.now, ctime := fs.now }, ?_, rfl, rfl,
    rfl, (update_now fs k _).ge⟩
  rw [FileSystem.setContent, get?_update, if_pos rfl, hk, Option.map_some, hn]

theorem openExisting_file (hk : fs.get? k = some n) (hn : n.node = .file content) :
    fs.openExisting flags k =
      .ok ({ ino := k, append := flags.append },
        if flags.truncate then fs.setContent k fun _ ↦ [] else fs) := by
  rw [openExisting, isDir_of_file hk hn]
  rfl

theorem Names.openFile_file (h : fs.Names p dir name) (hc : fs.child? dir name = some k)
    (hk : fs.get? k = some n) (hn : n.node = .file content) (hflags : flags.exclusive = false) :
    fs.openFile flags p =
      .ok ({ ino := k, append := flags.append },
        if flags.truncate then fs.setContent k fun _ ↦ [] else fs) := by
  rw [openFile, hflags, Bool.and_false, if_neg Bool.false_ne_true]
  cases hcreate : flags.create with
  | true =>
    obtain ⟨absolute, parts, hroute, -⟩ := h.above
    have hplace := h.place_eq
    rw [place, hroute] at hplace
    simp only [bind, Except.bind] at hplace
    have hopening : fs.opening maxLinks (fs.start ⟨absolute, parts ++ [name], false⟩)
        ⟨absolute, parts ++ [name], false⟩ = .ok (.existing k) := by
      obtain ⟨node⟩ := n
      subst hn
      rw [opening.eq_def]
      simp only [hplace, hc, hk]
      rfl
    rw [if_pos rfl, hroute]
    simp only [bind, Except.bind, hopening]
    exact openExisting_file hk hn
  | false =>
    rw [if_neg Bool.false_ne_true, h.lookup_file hc hk hn]
    exact openExisting_file hk hn

theorem readToEnd_file (hk : fs.get? k = some n) (hn : n.node = .file content) :
    fs.readToEnd k 0 = .ok content := by
  rw [readToEnd, hk, Option.map_some, hn]
  rfl

theorem Names.contents_file (h : fs.Names p dir name) (hc : fs.child? dir name = some k)
    (hk : fs.get? k = some n) (hn : n.node = .file content) : fs.contents p = .ok content := by
  rw [contents, h.openFile_file hc hk hn rfl]
  simp only [bind, Except.bind]
  exact readToEnd_file hk hn

namespace IsFile

theorem node_eq (h : fs.IsFile k content links dev) :
    (fs.get? k).map Inode.node = some (.file content) := by
  obtain ⟨n, hk, hn, -⟩ := h
  rw [hk, Option.map_some, hn]

theorem dev_eq (h : fs.IsFile k content links dev) : (fs.get? k).map Inode.dev = some dev := by
  obtain ⟨n, hk, -, -, hdev, -⟩ := h
  rw [hk, Option.map_some, hdev]

theorem of_get (h : fs.IsFile k content links dev) (hk : fs.get? k = some n) :
    n.node = .file content ∧ n.links = links := by
  obtain ⟨m, hm, hn, hlinks, -⟩ := h
  rw [hk] at hm
  cases hm
  exact ⟨hn, hlinks⟩

theorem isDir_eq (h : fs.IsFile k content links dev) : fs.isDir k = false := by
  obtain ⟨n, hk, hn, -⟩ := h
  exact isDir_of_file hk hn

theorem entries?_eq (h : fs.IsFile k content links dev) : fs.entries? k = none :=
  Option.not_isSome_iff_eq_none.mp fun hsome ↦ Bool.false_ne_true (h.isDir_eq.symm.trans hsome)

theorem lookup_eq (h : fs.IsFile k content links dev) (hp : fs.Names p dir name)
    (hc : fs.child? dir name = some k) (follow : Bool) : fs.lookup follow p = .ok k := by
  obtain ⟨n, hk, hn, -⟩ := h
  exact hp.lookup_file hc hk hn follow

theorem lt_next (h : fs.IsFile k content links dev) (ht : fs.Tidy) : k < fs.next := by
  obtain ⟨n, hk, -⟩ := h
  exact ht.lt_next hk

theorem kept (h : fs.IsFile k content links dev) (ht : fs.Tidy) (hs : fs.Touches touched fs')
    (hk : k ∉ touched) : fs'.IsFile k content links dev := by
  have hlt := h.lt_next ht
  obtain ⟨n, hget, hn, hlinks, hdev, hle⟩ := h
  exact ⟨n, (hs.kept k hlt hk).trans hget, hn, hlinks, hdev, hle.trans hs.now_le⟩

theorem setContent (h : fs.IsFile k content links dev) (f : Bytes → Bytes) :
    (fs.setContent k f).IsFile k (f content) links dev := by
  obtain ⟨n, hk, hn, rfl, rfl, -⟩ := h
  exact isFile_setContent hk hn f

theorem relink (h : fs.IsFile k content links dev) (f : Nat → Nat) :
    (fs.relink k f).IsFile k content (f links) dev := by
  obtain ⟨n, hget, hn, hlinks, hdev, -⟩ := h
  refine ⟨{ n with links := f n.links, ctime := fs.now }, ?_, hn, hlinks ▸ rfl, hdev,
    (update_now fs k _).ge⟩
  rw [FileSystem.relink, get?_update, if_pos rfl, hget, Option.map_some]

theorem setMode (h : fs.IsFile k content links dev) (mode : Nat) :
    (fs.update k fun n ↦ if n.node.kind = .file then { n with mode } else n).IsFile k content links
      dev := by
  obtain ⟨n, hget, hn, hlinks, hdev, hle⟩ := h
  refine ⟨{ n with mode }, ?_, hn, hlinks, hdev, hle.trans_eq (update_now fs k _).symm⟩
  rw [get?_update, if_pos rfl, hget, Option.map_some, hn, Node.kind, if_pos rfl]

theorem readToEnd_eq (h : fs.IsFile k content links dev) : fs.readToEnd k 0 = .ok content := by
  obtain ⟨n, hk, hn, -⟩ := h
  exact readToEnd_file hk hn

theorem statOpen_size (h : fs.IsFile k content links dev) :
    (fs.statOpen k).map (·.size) = .ok content.length := by
  obtain ⟨n, hget, hn, -⟩ := h
  rw [statOpen, hget]
  simp only [Except.map, statOf, hn]

theorem stat_eq (h : fs.IsFile k content links dev) (hp : fs.Names p dir name)
    (hc : fs.child? dir name = some k) :
    ∃ s, fs.stat false p = .ok s ∧ s.kind = .file ∧ s.nlink = links ∧ s.size = content.length := by
  obtain ⟨n, hget, hn, hlinks, -⟩ := h
  refine ⟨_, hp.stat_present hc hget, ?_⟩
  simp only [statOf, hn, hlinks, Node.kind, and_self]

theorem truncateOpen_eq (h : fs.IsFile k content links dev) (length : Nat) :
    fs.truncateOpen k length = .ok (fs.setContent k (resize · length)) := by
  rw [truncateOpen, h.node_eq]

theorem truncate_eq (h : fs.IsFile k content links dev) (hp : fs.Names p dir name)
    (hc : fs.child? dir name = some k) (length : Nat) :
    fs.truncate p length = .ok (fs.setContent k (resize · length)) := by
  rw [truncate, h.lookup_eq hp hc]
  simp only [bind, Except.bind, h.isDir_eq, h.truncateOpen_eq]
  rfl

theorem unlink_eq (h : fs.IsFile k content links dev) (hp : fs.Names p dir name)
    (hc : fs.child? dir name = some k) :
    fs.unlink p = .ok ((fs.detach dir name).relink k (· - 1)) := by
  rw [unlink, hp.place_eq]
  simp only [bind, Except.bind, entryAt, hc, h.isDir_eq]
  rfl

theorem openFile_eq (h : fs.IsFile k content links dev) (hp : fs.Names p dir name)
    (hc : fs.child? dir name = some k) (hflags : flags.exclusive = false) :
    fs.openFile flags p =
      .ok ({ ino := k, append := flags.append },
        if flags.truncate then fs.setContent k fun _ ↦ [] else fs) := by
  obtain ⟨n, hk, hn, -⟩ := h
  exact hp.openFile_file hc hk hn hflags

theorem contents_eq (h : fs.IsFile k content links dev) (hp : fs.Names p dir name)
    (hc : fs.child? dir name = some k) : fs.contents p = .ok content := by
  obtain ⟨n, hk, hn, -⟩ := h
  exact hp.contents_file hc hk hn

theorem overwrite_nil {offset : Nat} (h : offset ≤ content.length) :
    overwrite content offset [] = content := by
  rw [overwrite, Nat.sub_eq_zero_of_le h]
  simp

theorem write_eq (handle : Handle) (offset : Nat) (h : fs.IsFile handle.ino content links dev)
    (ht : fs.Tidy) (hoffset : (if handle.append then content.length else handle.offset) = offset)
    (hdata : data ≠ [] ∨ offset ≤ content.length) :
    ∃ fs' next, fs.write handle data = .ok ({ handle with offset := next }, fs') ∧
      (handle.append = false → next = offset + data.length) ∧ fs.Touches [handle.ino] fs' ∧
      fs'.IsFile handle.ino (overwrite content offset data) links dev := by
  by_cases hnil : data = []
  · subst hnil
    have hle := hdata.resolve_left fun hne ↦ hne rfl
    refine ⟨fs, handle.offset, by rw [write, if_pos rfl], fun happend ↦ ?_, .refl ht, ?_⟩
    · rwa [happend, if_neg Bool.false_ne_true] at hoffset
    · rwa [overwrite_nil hle]
  · refine ⟨fs.setContent handle.ino (overwrite · offset data), offset + data.length, ?_,
      fun _ ↦ rfl, update_touches_self ht _ _, h.setContent _⟩
    rw [write, if_neg hnil, h.node_eq]
    simp only [hoffset]

theorem overwrite_zero_nil (data : Bytes) : overwrite [] 0 data = data := by simp [overwrite]

theorem write_all (h : fs.IsFile k [] links dev) (ht : fs.Tidy) (data : Bytes) :
    ∃ fs' handle', fs.write { ino := k } data = .ok (handle', fs') ∧ fs.Touches [k] fs' ∧
      fs'.IsFile k data links dev := by
  have hdata : data ≠ [] ∨ 0 ≤ ([] : Bytes).length := .inr (Nat.zero_le _)
  obtain ⟨fs', next, hwrite, -, hs, hk⟩ := h.write_eq { ino := k } 0 ht rfl hdata
  rw [overwrite_zero_nil] at hk
  exact ⟨fs', _, hwrite, hs, hk⟩

end IsFile

def devOf (fs : FileSystem) (dir : Ino) : Nat := ((fs.get? dir).map Inode.dev).getD 1

/-- A path ends at an entry that a directory does not have. -/
structure Vacant (fs : FileSystem) (p : Path) (dir : Ino) (name : Bytes) : Prop where
  names : fs.Names p dir name
  child?_eq : fs.child? dir name = none

theorem IsDirectory.dev_eq (h : fs.IsDirectory dir entries parent dev) :
    (fs.get? dir).map Inode.dev = some dev := by
  obtain ⟨n, hget, -, hdev⟩ := h
  rw [hget, Option.map_some, hdev]

variable {base : FileSystem} {added : List (Bytes × Ino)} {node : Node} {mode : Nat}

theorem make_touches (h : fs.Tidy) : fs.Touches [dir] (fs.make dir name node mode).2 :=
  have ha := allocate_touches h _ [dir]
  ha.trans (update_touches_self ha.tidy dir _) fun _ hi _ ↦ hi

theorem get?_make (hdir : dir ≠ fs.next) :
    (fs.make dir name node mode).2.get? fs.next = some (fs.newInode dir node mode) := by
  rw [make_eq, attach, editEntries, get?_update, if_neg hdir.symm, get?_allocate, if_pos rfl]

namespace Adds

theorem names (h : base.Adds dir added fs) (hp : base.Vacant p dir name) : fs.Names p dir name :=
  h.grows.names hp.names

theorem dev_eq (h : base.Adds dir added fs) :
    (fs.get? dir).map Inode.dev = some (base.devOf dir) := by
  obtain ⟨entries, parent, dev, hbase, hfs⟩ := h.isDirectory
  rw [hfs.dev_eq, devOf, hbase.dev_eq, Option.getD_some]

theorem get?_make (h : base.Adds dir added fs) (name : Bytes) (node : Node) (mode : Nat) :
    (fs.make dir name node mode).2.get? fs.next = some (fs.newInode dir node mode) :=
  FileSystem.get?_make (h.dir_lt.trans_le h.touches.next_le).ne

end Adds

/-- Entries have been added to a directory, some of which may be those of a new file. -/
structure AddsFile (base : FileSystem) (dir : Ino) (added : List (Bytes × Ino)) (k : Ino)
    (content : Bytes) (links : Nat) (fs : FileSystem) : Prop where
  adds : base.Adds dir added fs
  isFile : fs.IsFile k content links (base.devOf dir)
  next_le : base.next ≤ k

theorem Adds.make_file (h : base.Adds dir added fs) (name content : Bytes) (mode : Nat) :
    base.AddsFile dir (added ++ [(name, fs.next)]) fs.next content 1
      (fs.make dir name (.file content) mode).2 where
  adds := h.make name _ mode
  isFile := by
    refine ⟨_, h.get?_make name _ mode, rfl, rfl, ?_, ?_⟩
    · rw [newInode, h.dev_eq, Option.getD_some]
    · exact (make_touches h.touches.tidy).now_le
  next_le := h.touches.next_le

namespace AddsFile

theorem child?_eq (h : base.AddsFile dir added k content links fs) (hp : base.Vacant p dir name)
    (ha : added.lookup name = some k) : fs.child? dir name = some k :=
  (h.adds.child?_eq hp.child?_eq).trans ha

theorem of_touches (h : base.AddsFile dir added k content links fs) (hs : fs.Touches [k] fs')
    {content' : Bytes} {links' : Nat} (hk : fs'.IsFile k content' links' (base.devOf dir)) :
    base.AddsFile dir added k content' links' fs' :=
  ⟨h.adds.of_touches hs fun _ hi ↦ List.mem_singleton.mp hi ▸ h.next_le, hk, h.next_le⟩

theorem elapse (h : base.AddsFile dir added k content links fs) :
    base.AddsFile dir added k content links fs.elapse :=
  have ht := h.adds.touches.tidy
  h.of_touches (elapse_touches ht [k]) (h.isFile.kept ht (elapse_touches ht []) List.not_mem_nil)

theorem setContent (h : base.AddsFile dir added k content links fs) (f : Bytes → Bytes) :
    base.AddsFile dir added k (f content) links (fs.setContent k f) :=
  h.of_touches (update_touches_self h.adds.touches.tidy k _) (h.isFile.setContent f)

theorem setMode (h : base.AddsFile dir added k content links fs) (mode : Nat) :
    base.AddsFile dir added k content links
      (fs.update k fun n ↦ if n.node.kind = .file then { n with mode } else n) :=
  h.of_touches (update_touches_self h.adds.touches.tidy k _) (h.isFile.setMode mode)

theorem write_eq (handle : Handle) (offset : Nat)
    (h : base.AddsFile dir added handle.ino content links fs)
    (hoffset : (if handle.append then content.length else handle.offset) = offset)
    (hdata : data ≠ [] ∨ offset ≤ content.length) :
    ∃ fs' next, fs.write handle data = .ok ({ handle with offset := next }, fs') ∧
      (handle.append = false → next = offset + data.length) ∧
      base.AddsFile dir added handle.ino (overwrite content offset data) links fs' := by
  obtain ⟨fs', next, hwrite, hnext, hs, hk⟩ :=
    h.isFile.write_eq handle offset h.adds.touches.tidy hoffset hdata
  exact ⟨fs', next, hwrite, hnext, h.of_touches hs hk⟩

theorem write_all (h : base.AddsFile dir added k [] links fs) (data : Bytes) :
    ∃ fs' handle', fs.write { ino := k } data = .ok (handle', fs') ∧
      base.AddsFile dir added k data links fs' := by
  obtain ⟨fs', handle', hwrite, hs, hk⟩ := h.isFile.write_all h.adds.touches.tidy data
  exact ⟨fs', handle', hwrite, h.of_touches hs hk⟩

theorem detach (h : base.AddsFile dir added k content links fs)
    (hbase : base.child? dir name = none) :
    base.AddsFile dir (added.filter (·.1 ≠ name)) k content links (fs.detach dir name) where
  adds := h.adds.detach hbase
  isFile := h.isFile.kept h.adds.touches.tidy (update_touches_self h.adds.touches.tidy dir _)
    (by simpa using (h.adds.dir_lt.trans_le h.next_le).ne')
  next_le := h.next_le

theorem attach (h : base.AddsFile dir added k content links fs) (name : Bytes) :
    base.AddsFile dir (added ++ [(name, k)]) k content links (fs.attach dir name k) where
  adds := h.adds.attach name k
  isFile := h.isFile.kept h.adds.touches.tidy (update_touches_self h.adds.touches.tidy dir _)
    (by simpa using (h.adds.dir_lt.trans_le h.next_le).ne')
  next_le := h.next_le

theorem relink (h : base.AddsFile dir added k content links fs) (f : Nat → Nat) :
    base.AddsFile dir added k content (f links) (fs.relink k f) :=
  h.of_touches (update_touches_self h.adds.touches.tidy k _) (h.isFile.relink f)

theorem unlink_eq (h : base.AddsFile dir added k content links fs) (hp : base.Vacant p dir name)
    (ha : added.lookup name = some k) :
    ∃ fs', fs.unlink p = .ok fs' ∧
      base.AddsFile dir (added.filter (·.1 ≠ name)) k content (links - 1) fs' :=
  ⟨_, h.isFile.unlink_eq (h.adds.names hp) (h.child?_eq hp ha),
    (h.detach hp.child?_eq).relink (· - 1)⟩

theorem link_eq (h : base.AddsFile dir added k content links fs) (hp : base.Vacant p dir name)
    (ha : added.lookup name = some k) (hq : base.Vacant q dir other)
    (hother : added.lookup other = none) :
    ∃ fs', fs.link p q = .ok fs' ∧
      base.AddsFile dir (added ++ [(other, k)]) k content (links + 1) fs' := by
  refine ⟨(fs.relink k (· + 1)).attach dir other k, ?_, (h.relink _).attach other⟩
  have hfree := (h.adds.names hq).freeFilePlace_eq ((h.adds.child?_eq hq.child?_eq).trans hother)
  rw [link, (h.adds.names hp).lookup_entry (h.child?_eq hp ha), hfree]
  simp only [bind, Except.bind, h.isFile.isDir_eq, h.isFile.dev_eq, h.adds.dev_eq]
  rw [if_neg Bool.false_ne_true, if_neg (not_not_intro rfl)]
  rfl

theorem rename_eq (h : base.AddsFile dir added k content links fs) (hp : base.Vacant p dir name)
    (ha : added.lookup name = some k) (hq : base.Vacant q dir other)
    (hother : added.lookup other = none) (hn : fs.get? k = some n) :
    ∃ fs', fs.rename p q = .ok fs' ∧ fs'.get? k = some { n with ctime := fs.now } ∧
      base.AddsFile dir (added.filter (·.1 ≠ name) ++ [(other, k)]) k content links fs' := by
  have hne : k ≠ dir := (h.adds.dir_lt.trans_le h.next_le).ne'
  have hfile : n.node = .file content := by simpa [hn] using h.isFile.node_eq
  have hmoved := ((h.detach hp.child?_eq).attach other).relink id
  have hget : (((fs.detach dir name).attach dir other k).relink k id).get? k =
      some { n with ctime := fs.now } := by
    simp [FileSystem.relink, FileSystem.attach, FileSystem.detach, editEntries, hne, hn]
  have hsame : (fs.move k dir name dir other none).get? k = some { n with ctime := fs.now } := by
    rw [move, get?_update, if_pos rfl, hget, Option.map_some]
    simp only [hfile]
  refine ⟨fs.move k dir name dir other none, ?_, hsame, ?_⟩
  · have hoccupant := (h.adds.child?_eq hq.child?_eq).trans hother
    rw [rename, (h.adds.names hp).place_eq, (h.adds.names hq).place_eq]
    simp only [bind, Except.bind, entryAt, h.child?_eq hp ha, hoccupant, h.isFile.entries?_eq]
    simp only [ne_eq, not_true_eq_false, if_false, Option.isNone_none, Option.isSome_none,
      Bool.or_self, Bool.and_false, Bool.false_and, Bool.false_eq_true]
    rfl
  · refine hmoved.of_touches (update_touches_self hmoved.adds.touches.tidy k _) ?_
    obtain ⟨m, hm, hcontent, hlinks, hdev, hle⟩ := hmoved.isFile
    rw [hget] at hm
    cases hm
    exact ⟨_, hsame, hcontent, hlinks, hdev, hle.trans_eq (update_now _ k _).symm⟩

theorem save_eq (h : base.AddsFile dir added k content links fs) (hp : base.Vacant p dir name)
    (ha : added.lookup name = some k) (data : Bytes) :
    ∃ fs', fs.save p data = .ok fs' ∧ base.AddsFile dir added k data links fs' := by
  obtain ⟨fs', handle', hwrite, h'⟩ := (h.setContent fun _ ↦ []).write_all data
  refine ⟨fs', ?_, h'⟩
  rw [save, h.isFile.openFile_eq (h.adds.names hp) (h.child?_eq hp ha) rfl]
  simp only [bind, Except.bind, if_true, hwrite]
  rfl

end AddsFile

theorem openNew_eq (fs : FileSystem) (flags : OpenFlags) (dir : Ino) (name : Bytes) :
    fs.openNew flags dir name = ({ ino := fs.next, append := flags.append },
      (fs.make dir name (.file []) (masked flags.mode)).2) := rfl

theorem contents_cases (h : fs.contents p = .ok data) :
    ∃ j n, fs.lookup true p = .ok j ∧ fs.get? j = some n ∧
      (∀ entries parent, n.node ≠ .dir entries parent) ∧ fs.readToEnd j 0 = .ok data := by
  rw [contents, openFile] at h
  cases hlookup : fs.lookup true p with
  | error e =>
    rw [hlookup] at h
    cases h
  | ok j =>
    rw [hlookup] at h
    simp only [Bool.and_false, Bool.false_eq_true, if_false, bind, Except.bind, openExisting,
      Bool.or_self] at h
    have hread := h
    rw [readToEnd] at h
    cases hj : fs.get? j with
    | none =>
      rw [hj] at h
      cases h
    | some n =>
      refine ⟨j, n, rfl, hj, fun entries parent hdir ↦ ?_, hread⟩
      rw [hj, Option.map_some, hdir] at h
      cases h

theorem contents_of_lookup {j : Ino} (h : fs.lookup true p = .ok j) :
    fs.contents p = fs.readToEnd j 0 := by
  rw [contents, openFile, h]
  simp only [Bool.and_false, Bool.false_eq_true, if_false, bind, Except.bind, openExisting,
    Bool.or_self]

theorem Grows.contents_eq (hg : fs.Grows fs') (h : fs.contents p = .ok data) :
    fs'.contents p = .ok data ∧ ∃ s, fs'.stat true p = .ok s := by
  obtain ⟨j, n, hlookup, hj, hdir, hread⟩ := contents_cases h
  obtain ⟨n', hj', -⟩ := hg.extends_of_get j n hj
  have hlookup' : fs'.lookup true p = .ok j := hg.lookup_eq hlookup (by rw [hj]; rfl)
  have hnode := hg.kept j n n' hj hdir hj'
  refine ⟨?_, fs'.statOf j n', ?_⟩
  · rw [contents_of_lookup hlookup', ← hread, readToEnd, readToEnd, hj, hj', Option.map_some,
      Option.map_some, hnode]
  · rw [stat, hlookup']
    simp only [bind, Except.bind, hj']
    rfl

namespace Adds

theorem openFile_eq (h : base.Adds dir added fs) (hp : base.Vacant p dir name)
    (ha : added.lookup name = none) (hcreate : flags.create) :
    fs.openFile flags p = .ok (fs.openNew flags dir name) :=
  (h.names hp).openFile_missing ((h.child?_eq hp.child?_eq).trans ha) hcreate

theorem save_eq (h : base.Adds dir added fs) (hp : base.Vacant p dir name)
    (ha : added.lookup name = none) (data : Bytes) :
    ∃ fs', fs.save p data = .ok fs' ∧
      base.AddsFile dir (added ++ [(name, fs.next)]) fs.next data 1 fs' := by
  obtain ⟨fs', handle', hwrite, h'⟩ := (h.make_file name [] (masked 0o666)).write_all data
  refine ⟨fs', ?_, h'⟩
  rw [save, h.openFile_eq hp ha rfl, openNew_eq]
  simp only [bind, Except.bind, hwrite]
  rfl

end Adds

end FileSystem

end MountSweep.Posix
