import MountSweep.Proofs.Files.EntryNames
import MountSweep.Proofs.Files.Temporary
import MountSweep.Proofs.Sweep.Registry
import MountSweep.Scenario.Contents
import MountSweep.Scenario.Entries
import MountSweep.Scenario.Metadata

namespace MountSweep.Scenario.Check

open Posix FileSystem

variable {α β : Type} {c : Check α} {f : α → Check β} {a : α} {b : β} {fs fs' : FileSystem}
  {P : β → FileSystem → Prop} {R : α → FileSystem → Prop}

def Looks (c : Check α) (fs : FileSystem) (a : α) : Prop :=
  ∀ w : Workspace, w.files = fs → c.run w = (.ok a, w)

/-- A check that works on some files passes, and something holds of its answer and of the files that
it leaves. It leaves all else as it is. -/
def Passes (c : Check α) (fs : FileSystem) (R : α → FileSystem → Prop) : Prop :=
  ∀ w : Workspace, w.files = fs →
    ∃ a fs', c.run w = (.ok a, { w with files := fs' }) ∧ R a fs'

theorem Looks.pure (fs : FileSystem) (a : α) : Looks (pure a) fs a := fun _ _ ↦ rfl

theorem Looks.bind (hc : Looks c fs a) (hf : Looks (f a) fs b) : Looks (c >>= f) fs b := by
  intro w hw
  rw [run_bind, hc w hw]
  exact hf w hw

theorem Looks.then (hc : Looks c fs a) (hf : Passes (f a) fs P) : Passes (c >>= f) fs P := by
  intro w hw
  rw [run_bind, hc w hw]
  exact hf w hw

theorem Looks.passes (hc : Looks c fs a) (ha : R a fs) : Passes c fs R := by
  rintro w rfl
  exact ⟨a, w.files, hc w rfl, ha⟩

theorem Passes.bind (hc : Passes c fs R) (hf : ∀ a fs', R a fs' → Passes (f a) fs' P) :
    Passes (c >>= f) fs P := by
  intro w hw
  obtain ⟨a, fs', hrun, ha⟩ := hc w hw
  rw [run_bind, hrun]
  exact hf a fs' ha _ rfl

theorem Passes.mono {R' : α → FileSystem → Prop} (hc : Passes c fs R)
    (h : ∀ a fs', R a fs' → R' a fs') : Passes c fs R' := by
  intro w hw
  obtain ⟨a, fs', hrun, ha⟩ := hc w hw
  exact ⟨a, fs', hrun, h a fs' ha⟩

theorem Passes.and {R' : α → FileSystem → Prop} (hc : Passes c fs R) (hc' : Passes c fs R') :
    Passes c fs fun a fs' ↦ R a fs' ∧ R' a fs' := by
  intro w hw
  obtain ⟨a, fs₁, hrun, ha⟩ := hc w hw
  obtain ⟨a', fs₂, hrun', ha'⟩ := hc' w hw
  rw [hrun] at hrun'
  cases hrun'
  exact ⟨a, fs₁, hrun, ha, ha'⟩

theorem Passes.tryCatch (hc : Passes c fs R) (f : ScenarioFailure → Check α) :
    Passes (tryCatch c f) fs R := by
  intro w hw
  obtain ⟨a, fs', hrun, ha⟩ := hc w hw
  refine ⟨a, fs', ?_, ha⟩
  rw [run_tryCatch, hrun]

variable {call : String} {p q : Path}

theorem run_get_bind (f : Workspace → Check α) (w : Workspace) :
    (get >>= f).run w = (f w).run w := rfl

theorem run_modify (g : Workspace → Workspace) (w : Workspace) :
    Check.run (modify g) w = (.ok ⟨⟩, g w) := rfl

theorem run_modify_bind (g : Workspace → Workspace) (f : PUnit → Check α) (w : Workspace) :
    (modify g >>= f).run w = (f ⟨⟩).run (g w) := rfl

theorem inspect_looks {g : FileSystem → Except SystemError α} (h : g fs = .ok a) :
    Looks (inspect call g) fs a := by
  rintro w rfl
  rw [inspect, run_get_bind, h]
  rfl

theorem operate_passes {g : FileSystem → Except SystemError (α × FileSystem)}
    (h : g fs.elapse = .ok (a, fs')) (ha : R a fs') : Passes (operate call g) fs R := by
  rintro w rfl
  refine ⟨a, fs', ?_, ha⟩
  rw [operate, run_modify_bind, run_get_bind, h]
  rfl

theorem query_looks {g : FileSystem → Except Errno α} (hp : 0 ∉ p) (h : g fs = .ok a) :
    Looks (query call p g) fs a :=
  inspect_looks (by rw [h, onPaths_ok (by simpa using hp)])

theorem change_passes {g : FileSystem → Except Errno FileSystem} {R : Unit → FileSystem → Prop}
    (hp : 0 ∉ p) (h : g fs.elapse = .ok fs') (hR : R () fs') : Passes (change call p g) fs R :=
  operate_passes (by rw [h, onPaths_ok (by simpa using hp)]; rfl) hR

theorem changeBare_passes {g : FileSystem → Except Errno FileSystem}
    {R : Unit → FileSystem → Prop} (hp : 0 ∉ p) (h : g fs.elapse = .ok fs') (hR : R () fs') :
    Passes (changeBare call p g) fs R :=
  operate_passes (by rw [h, onPaths_ok (by simpa using hp)]; rfl) hR

theorem expectEq_looks [DecidableEq α] {shown : α → String} {x y : α} (h : x = y) :
    Looks (expectEq shown call x y) fs () := by
  rw [expectEq, if_pos h]
  exact .pure fs ()

theorem expect_looks {expected : String} {condition : Bool} (h : condition) :
    Looks (expect call expected condition) fs () := by
  rw [expect, if_pos h]
  exact .pure fs ()

theorem nanos_timespec (ns : Int) : nanos (timespec ns).1 (timespec ns).2 = ns :=
  Int.ediv_mul_add_emod ns _

theorem statOf_dir {i : Inode} {parent : Ino} (hi : i.node = .dir [] parent) :
    (fs.statOf k i).kind = .dir ∧ isBareLinkCount (fs.statOf k i).nlink := by
  simp only [statOf, hi, Node.kind, List.countP_nil, true_and]
  split <;> rfl

theorem assertSame_looks {what : String} {before after : Stat} {attributes : List Attribute}
    (h : ∀ a ∈ attributes, a.value before = a.value after) :
    Looks (assertSame what before after attributes) fs () := by
  rw [assertSame]
  induction attributes with
  | nil => exact .pure fs ()
  | cons a attributes ih =>
    rw [List.forall_mem_cons] at h
    exact (expectEq_looks h.1).bind (ih h.2)

theorem waitForCache_looks {ctx : Context} (h : ctx.cacheTimeout = 0) (margin : Nat) :
    Looks (waitForCache ctx margin) fs () := by
  rw [waitForCache]
  simp only [h, if_true]
  exact .pure fs ()

section

variable {base : FileSystem} {dir k : Ino} {added : List (Bytes × Ino)} {name : String}
  {content data : Bytes} {links room : Nat} {n : Inode} {nb : Bytes}

theorem entries_looks (h : fs.Leads p room dir) {es : List (Bytes × Ino)}
    (hes : fs.entries? dir = some es) : Looks (entries p) fs (es.map (·.1)) := by
  refine query_looks h.zero_notMem ?_
  rw [FileSystem.readdir, h.lookup_eq]
  simp only [Bind.bind, Except.bind, hes]
  rfl

theorem contains_eq_isSome_lookup (es : List (Bytes × Ino)) (nb : Bytes) :
    (es.map (·.1)).contains nb = (es.lookup nb).isSome := by
  induction es with
  | nil => rfl
  | cons e es ih =>
    obtain ⟨key, i⟩ := e
    rw [List.map_cons, List.contains_cons, List.lookup_cons, ih]
    cases nb == key <;> rfl

theorem isListed_looks (h : fs.Leads p room dir) :
    Looks (isListed name p) fs (fs.child? dir (Bytes.ofString name)).isSome := by
  obtain ⟨es, hes⟩ := exists_entries_of_isDir h.isDir
  rw [child?_eq_lookup hes, ← contains_eq_isSome_lookup]
  exact (entries_looks h hes).bind (.pure fs _)

theorem assertListed_looks (h : fs.Leads p room dir)
    (hc : fs.child? dir (Bytes.ofString name) = some k) : Looks (assertListed name p) fs () :=
  (isListed_looks h).bind (expectEq_looks (by rw [hc]; rfl))

theorem assertNotListed_looks (h : fs.Leads p room dir)
    (hc : fs.child? dir (Bytes.ofString name) = none) : Looks (assertNotListed name p) fs () :=
  (isListed_looks h).bind (expectEq_looks (by rw [hc]; rfl))

theorem assertNotFound_looks (h : fs.Names p dir nb) (hc : fs.child? dir nb = none) :
    Looks (assertNotFound p) fs () := by
  rintro w rfl
  rw [assertNotFound, run_get_bind, h.stat_missing hc,
    onPaths_error (by simpa using h.zero_notMem)]
  rfl

theorem lstat_looks (h : fs.Names p dir nb) (hc : fs.child? dir nb = some k)
    (hk : fs.get? k = some n) : Looks (lstat p) fs (fs.statOf k n) :=
  query_looks h.zero_notMem (h.stat_present hc hk)

theorem contents_looks (hp : 0 ∉ p) (h : fs.contents p = .ok data) : Looks (contents p) fs data :=
  query_looks hp h

theorem assertContent_looks (hp : 0 ∉ p) (h : fs.contents p = .ok data) :
    Looks (assertContent p data) fs () := by
  refine (contents_looks hp h).bind ?_
  rw [if_pos rfl]
  exact .pure fs ()

end

end MountSweep.Scenario.Check

namespace MountSweep.Posix.FileSystem

open Scenario Scenario.Check

variable {base fs fs' : FileSystem} {dir k : Ino} {added : List (Bytes × Ino)} {name : String}
  {content data nb nb' : Bytes} {links room : Nat} {n : Inode} {p q : Path}

namespace Adds

theorem notFound (h : base.Adds dir added fs) (hp : base.Vacant p dir nb)
    (ha : added.lookup nb = none) : Looks (assertNotFound p) fs () :=
  assertNotFound_looks (h.names hp) ((h.child?_eq hp.child?_eq).trans ha)

theorem listed (h : base.Adds dir added fs) (hl : base.Leads p room dir)
    (hc : base.child? dir (Bytes.ofString name) = none)
    (ha : added.lookup (Bytes.ofString name) = some k) : Looks (assertListed name p) fs () :=
  assertListed_looks (h.grows.leads hl) ((h.child?_eq hc).trans ha)

theorem notListed (h : base.Adds dir added fs) (hl : base.Leads p room dir)
    (hc : base.child? dir (Bytes.ofString name) = none)
    (ha : added.lookup (Bytes.ofString name) = none) : Looks (assertNotListed name p) fs () :=
  assertNotListed_looks (h.grows.leads hl) ((h.child?_eq hc).trans ha)

theorem lstat_looks (h : base.Adds dir added fs) (hp : base.Vacant p dir nb)
    (ha : added.lookup nb = some k) (hk : fs.get? k = some n) :
    Looks (lstat p) fs (fs.statOf k n) :=
  Check.lstat_looks (h.names hp) ((h.child?_eq hp.child?_eq).trans ha) hk

theorem mkdir_passes (h : base.Adds dir added fs) (hp : base.Vacant p dir nb)
    (ha : added.lookup nb = none) :
    Passes (Check.mkdir p) fs fun _ fs' ↦ ∃ k n, base.Adds dir (added ++ [(nb, k)]) fs' ∧
      base.next ≤ k ∧ fs.Touches [dir] fs' ∧ fs'.get? k = some n ∧ n.node = .dir [] dir := by
  have h' := h.elapse
  have htidy := h.touches.tidy
  refine change_passes hp.names.zero_notMem
    ((h'.names hp).mkdir_eq ((h'.child?_eq hp.child?_eq).trans ha)) ?_
  refine ⟨fs.elapse.next, _, h'.make nb _ _, h'.touches.next_le, ?_, h'.get?_make nb _ _, rfl⟩
  exact (elapse_touches htidy [dir]).trans (make_touches h'.touches.tidy) fun _ hi _ ↦ hi

theorem symlink_passes (h : base.Adds dir added fs) (hp : base.Vacant p dir nb)
    (ha : added.lookup nb = none) {target : Bytes} (ht : target ≠ []) {call : String} :
    Passes (change call p fun fs ↦ fs.symlink target p) fs fun _ fs' ↦
      ∃ k n, base.Adds dir (added ++ [(nb, k)]) fs' ∧ base.next ≤ k ∧ fs'.get? k = some n ∧
        n.node = .link target ∧ n.links = 1 := by
  have h' := h.elapse
  refine change_passes hp.names.zero_notMem
    ((h'.names hp).symlink_eq ((h'.child?_eq hp.child?_eq).trans ha) ht) ?_
  exact ⟨fs.elapse.next, _, h'.make nb _ _, h'.touches.next_le, h'.get?_make nb _ _, rfl, rfl⟩

theorem rmdir_passes (h : base.Adds dir added fs) (hp : base.Vacant p dir nb)
    (ha : added.lookup nb = some k) (hk : fs.entries? k = some []) :
    Passes (Check.rmdir p) fs fun _ fs' ↦ base.Adds dir (added.filter (·.1 ≠ nb)) fs' := by
  have h' := h.elapse
  have hk' : fs.elapse.entries? k = some [] := by rwa [entries?, get?_elapse]
  exact change_passes hp.names.zero_notMem
    ((h'.names hp).rmdir_eq ((h'.child?_eq hp.child?_eq).trans ha) hk') (h'.detach hp.child?_eq)

theorem chmod_passes (h : base.Adds dir added fs) (hp : base.Vacant p dir nb)
    (ha : added.lookup nb = some k) (hk : fs.get? k = some n) (hle : base.next ≤ k)
    (hn : ∀ target, n.node ≠ .link target) (mode : Nat) {call : String} :
    Passes (change call p fun fs ↦ fs.chmod p mode) fs fun _ fs' ↦ base.Adds dir added fs' ∧
      ∃ now, fs'.get? k = some { n with mode := mode &&& 0o7777, ctime := now } := by
  have h' := h.elapse
  have hk' := (get?_elapse fs k).trans hk
  refine change_passes hp.names.zero_notMem
    ((h'.names hp).chmod_eq ((h'.child?_eq hp.child?_eq).trans ha) hk' hn mode) ?_
  refine ⟨h'.update hle _, fs.elapse.now, ?_⟩
  rw [get?_update, if_pos rfl, hk', Option.map_some]

theorem utimens_passes (h : base.Adds dir added fs) (hp : base.Vacant p dir nb)
    (ha : added.lookup nb = some k) (hk : fs.get? k = some n) (hle : base.next ≤ k)
    (hn : ∀ target, n.node ≠ .link target) (atime mtime : Option Int) {call : String} :
    Passes (Check.utimens call p atime mtime) fs fun _ fs' ↦ base.Adds dir added fs' ∧
      ∃ now, fs.now ≤ now ∧ fs'.get? k = some
        { n with atime := atime.getD now, mtime := mtime.getD now, ctime := now } := by
  have h' := h.elapse
  have hk' := (get?_elapse fs k).trans hk
  have hstamp : (fun ns ↦ nanos (timespec ns).1 (timespec ns).2) = id := funext nanos_timespec
  have hnow := (elapse_touches h.touches.tidy []).now_le
  rw [Check.utimens]
  simp only [hstamp, Option.map_id_fun, id]
  refine changeBare_passes hp.names.zero_notMem
    ((h'.names hp).utimens_eq ((h'.child?_eq hp.child?_eq).trans ha) hk' hn atime mtime) ?_
  refine ⟨h'.update hle _, fs.elapse.now, hnow, ?_⟩
  rw [get?_update, if_pos rfl, hk', Option.map_some]

theorem openFile_passes (h : base.Adds dir added fs) (hp : base.Vacant p dir nb)
    (ha : added.lookup nb = none) {flags : OpenFlags} (hcreate : flags.create) {call : String} :
    Passes (Check.openFile call p flags) fs fun handle fs' ↦ ∃ k n,
      handle = { ino := k, append := flags.append } ∧
        base.AddsFile dir (added ++ [(nb, k)]) k [] 1 fs' ∧ fs'.get? k = some n ∧
        n.uid = base.uid ∧ n.gid = base.gid := by
  have h' := h.elapse
  have hopen : onPaths [p] zeroByte (fs.elapse.openFile flags p) =
      .ok (fs.elapse.openNew flags dir nb) := by
    rw [h'.openFile_eq hp ha hcreate, onPaths_ok (by simpa using hp.names.zero_notMem)]
  exact operate_passes hopen ⟨fs.elapse.next, _, rfl, h'.make_file nb [] _, h'.get?_make nb _ _,
    h'.touches.uid_eq, h'.touches.gid_eq⟩

theorem createEmpty_passes (h : base.Adds dir added fs) (hp : base.Vacant p dir nb)
    (ha : added.lookup nb = none) :
    Passes (createEmpty p) fs fun _ fs' ↦ ∃ k n,
      base.AddsFile dir (added ++ [(nb, k)]) k [] 1 fs' ∧ fs'.get? k = some n ∧
        n.uid = base.uid ∧ n.gid = base.gid := by
  refine (h.openFile_passes hp ha rfl).bind ?_
  rintro _ fs' ⟨k, n, -, h'⟩
  exact (Looks.pure fs' ()).passes ⟨k, n, h'⟩

theorem save_passes (h : base.Adds dir added fs) (hp : base.Vacant p dir nb)
    (ha : added.lookup nb = none) (data : Bytes) :
    Passes (Check.save p data) fs fun _ fs' ↦
      ∃ k, base.AddsFile dir (added ++ [(nb, k)]) k data 1 fs' := by
  obtain ⟨fs', hsave, h'⟩ := h.elapse.save_eq hp ha data
  exact change_passes hp.names.zero_notMem hsave ⟨_, h'⟩

theorem copy_passes (h : base.Adds dir added fs) (hp : base.Vacant p dir nb)
    (ha : added.lookup nb = none) (hq : 0 ∉ q) (hdata : base.contents q = .ok data) :
    Passes (copy q p) fs fun _ fs' ↦ ∃ k,
      base.AddsFile dir (added ++ [(nb, k)]) k data 1 fs' := by
  have h' := h.elapse
  obtain ⟨hcontents, s, hs⟩ := h'.grows.contents_eq hdata
  have hmake := (h'.make_file nb [] (masked s.mode)).setMode s.mode
  obtain ⟨fs', handle, hwrite, h''⟩ := hmake.write_all data
  have hzero : ∀ r ∈ [q, p], 0 ∉ r := by simp [hq, hp.names.zero_notMem]
  let flags : OpenFlags := { write := true, create := true, truncate := true, mode := s.mode }
  have hopen : fs.elapse.openFile flags p = .ok (fs.elapse.openNew flags dir nb) :=
    h'.openFile_eq hp ha rfl
  refine operate_passes (a := ()) ?_ ⟨fs.elapse.next, h''⟩
  rw [hcontents, hs]
  simp only [Bind.bind, Except.bind, flags, hopen, openNew_eq, hwrite]
  exact congrArg (Except.map _) (onPaths_ok hzero zeroByte fs')

end Adds

namespace AddsFile

theorem content_looks (h : base.AddsFile dir added k content links fs) (hp : base.Vacant p dir nb)
    (ha : added.lookup nb = some k) : Looks (assertContent p content) fs () :=
  assertContent_looks hp.names.zero_notMem
    (h.isFile.contents_eq (h.adds.names hp) (h.child?_eq hp ha))

theorem stat_looks (h : base.AddsFile dir added k content links fs) (hp : base.Vacant p dir nb)
    (ha : added.lookup nb = some k) :
    ∃ s, Looks (lstat p) fs s ∧ s.kind = .file ∧ s.nlink = links ∧ s.size = content.length := by
  obtain ⟨s, hs, hrest⟩ := h.isFile.stat_eq (h.adds.names hp) (h.child?_eq hp ha)
  exact ⟨s, query_looks hp.names.zero_notMem hs, hrest⟩

theorem save_passes (h : base.AddsFile dir added k content links fs) (hp : base.Vacant p dir nb)
    (ha : added.lookup nb = some k) (data : Bytes) :
    Passes (Check.save p data) fs fun _ fs' ↦ base.AddsFile dir added k data links fs' := by
  obtain ⟨fs', hsave, h'⟩ := h.elapse.save_eq hp ha data
  exact change_passes hp.names.zero_notMem hsave h'

theorem unlink_passes (h : base.AddsFile dir added k content links fs)
    (hp : base.Vacant p dir nb) (ha : added.lookup nb = some k) :
    Passes (Check.unlink p) fs fun _ fs' ↦
      base.AddsFile dir (added.filter (·.1 ≠ nb)) k content (links - 1) fs' := by
  obtain ⟨fs', hunlink, h'⟩ := h.elapse.unlink_eq hp ha
  exact change_passes hp.names.zero_notMem hunlink h'

theorem truncate_passes (h : base.AddsFile dir added k content links fs)
    (hp : base.Vacant p dir nb) (ha : added.lookup nb = some k) (length : Nat) {call : String} :
    Passes (changeBare call p fun fs ↦ fs.truncate p length) fs fun _ fs' ↦
      base.AddsFile dir added k (resize content length) links fs' := by
  have h' := h.elapse
  exact changeBare_passes hp.names.zero_notMem
    (h'.isFile.truncate_eq (h'.adds.names hp) (h'.child?_eq hp ha) length)
    (h'.setContent (resize · length))

theorem link_passes (h : base.AddsFile dir added k content links fs)
    (hp : base.Vacant p dir nb) (ha : added.lookup nb = some k) (hq : base.Vacant q dir nb')
    (hb : added.lookup nb' = none) {call : String} :
    Passes (operate call fun fs ↦ (onPaths [p, q] zeroByte (fs.link p q)).map ((), ·)) fs
      fun _ fs' ↦ base.AddsFile dir (added ++ [(nb', k)]) k content (links + 1) fs' := by
  obtain ⟨fs', hlink, h'⟩ := h.elapse.link_eq hp ha hq hb
  have hzero : ∀ r ∈ [p, q], 0 ∉ r := by simp [hp.names.zero_notMem, hq.names.zero_notMem]
  exact operate_passes (by rw [hlink, onPaths_ok hzero]; rfl) h'

theorem rename_passes (h : base.AddsFile dir added k content links fs)
    (hp : base.Vacant p dir nb) (ha : added.lookup nb = some k) (hq : base.Vacant q dir nb')
    (hb : added.lookup nb' = none) (hn : fs.get? k = some n) {call : String} :
    Passes (operate call fun fs ↦ (onPaths [p, q] zeroByte (fs.rename p q)).map ((), ·)) fs
      fun _ fs' ↦ ∃ now, fs.now ≤ now ∧ fs'.get? k = some { n with ctime := now } ∧
        base.AddsFile dir (added.filter (·.1 ≠ nb) ++ [(nb', k)]) k content links fs' := by
  obtain ⟨fs', hrename, hget, h'⟩ :=
    h.elapse.rename_eq hp ha hq hb ((get?_elapse fs k).trans hn)
  have hzero : ∀ r ∈ [p, q], 0 ∉ r := by simp [hp.names.zero_notMem, hq.names.zero_notMem]
  have hnow := (elapse_touches h.adds.touches.tidy []).now_le
  exact operate_passes (by rw [hrename, onPaths_ok hzero]; rfl) ⟨_, hnow, hget, h'⟩

theorem write_passes (handle : Handle) (offset : Nat)
    (h : base.AddsFile dir added handle.ino content links fs)
    (hoffset : (if handle.append then content.length else handle.offset) = offset)
    (hdata : data ≠ [] ∨ offset ≤ content.length) {call : String} :
    Passes (Check.write call handle data) fs fun handle' fs' ↦
      (∃ next, handle' = { handle with offset := next } ∧
        (handle.append = false → next = offset + data.length)) ∧
      base.AddsFile dir added handle.ino (overwrite content offset data) links fs' := by
  obtain ⟨fs', next, hwrite, hnext, h'⟩ := h.elapse.write_eq handle offset hoffset hdata
  exact operate_passes (by rw [hwrite, onPaths_ok (by simp)]) ⟨⟨next, rfl, hnext⟩, h'⟩

theorem readOpen_looks (h : base.AddsFile dir added k content links fs) {handle : Handle}
    (hk : handle.ino = k) {call : String} : Looks (readOpen call handle) fs content :=
  inspect_looks (by rw [hk, h.isFile.readToEnd_eq, onPaths_ok (by simp)])

theorem sizeOpen_looks (h : base.AddsFile dir added k content links fs) {handle : Handle}
    (hk : handle.ino = k) {call : String} : Looks (sizeOpen call handle) fs content.length :=
  inspect_looks (by rw [hk, h.isFile.statOpen_size, onPaths_ok (by simp)])

theorem truncateOpen_passes (h : base.AddsFile dir added k content links fs) {handle : Handle}
    (hk : handle.ino = k) (length : Nat) {call : String} :
    Passes (Check.truncateOpen call handle length) fs fun _ fs' ↦
      base.AddsFile dir added k (resize content length) links fs' := by
  have h' := h.elapse
  refine operate_passes (a := ()) ?_ (h'.setContent (resize · length))
  rw [hk, h'.isFile.truncateOpen_eq, onPaths_ok (by simp)]
  rfl

theorem openFile_passes (h : base.AddsFile dir added k content links fs)
    (hp : base.Vacant p dir nb) (ha : added.lookup nb = some k) {flags : OpenFlags}
    (hexclusive : flags.exclusive = false) (htruncate : flags.truncate = false) {call : String} :
    Passes (Check.openFile call p flags) fs fun handle fs' ↦
      handle = { ino := k, append := flags.append } ∧
        base.AddsFile dir added k content links fs' := by
  have h' := h.elapse
  refine operate_passes ?_ ⟨rfl, h'⟩
  rw [h'.isFile.openFile_eq (h'.adds.names hp) (h'.child?_eq hp ha) hexclusive, htruncate,
    onPaths_ok (by simpa using hp.names.zero_notMem)]
  rfl

theorem openAndWrite_passes (h : base.AddsFile dir added k content links fs)
    (hp : base.Vacant p dir nb) (ha : added.lookup nb = some k) {flags : OpenFlags}
    (hexclusive : flags.exclusive = false) (htruncate : flags.truncate = false)
    (offset : Nat) (hoffset : (if flags.append then content.length else 0) = offset)
    (hdata : data ≠ []) {call : String} :
    Passes (change call p (openAndWrite flags p data)) fs fun _ fs' ↦
      base.AddsFile dir added k (overwrite content offset data) links fs' := by
  have h' := h.elapse
  obtain ⟨fs', next, hwrite, -, h''⟩ :=
    h'.write_eq { ino := k, append := flags.append } offset hoffset (.inl hdata)
  refine change_passes hp.names.zero_notMem ?_ h''
  rw [openAndWrite, h'.isFile.openFile_eq (h'.adds.names hp) (h'.child?_eq hp ha) hexclusive,
    htruncate]
  simp only [Bind.bind, Except.bind, Bool.false_eq_true, if_false, hwrite]
  rfl

theorem writeAt_passes (h : base.AddsFile dir added k content links fs)
    (hp : base.Vacant p dir nb) (ha : added.lookup nb = some k) (offset : Nat)
    (hdata : data ≠ []) :
    Passes (writeAt p offset data) fs fun _ fs' ↦
      base.AddsFile dir added k (overwrite content offset data) links fs' := by
  refine (h.openFile_passes hp ha rfl rfl).bind ?_
  rintro _ fs₁ ⟨rfl, h₁⟩
  refine (h₁.write_passes { ino := k, offset } offset rfl (.inl hdata)).bind ?_
  rintro _ fs₂ ⟨-, h₂⟩
  exact (Looks.pure fs₂ ()).passes h₂

theorem removeTemporary_passes (h : base.AddsFile dir added k content links fs)
    (hp : base.Vacant p dir nb) (ha : added.lookup nb = some k) :
    Passes (removeTemporary p) fs fun _ fs' ↦ base.Adds dir (added.filter (·.1 ≠ nb)) fs' := by
  obtain ⟨fs', hunlink, h'⟩ := h.unlink_eq hp ha
  rintro w rfl
  refine ⟨(), fs', ?_, h'.adds⟩
  rw [removeTemporary, run_modify, hunlink]

end AddsFile

theorem absolute_elapse (fs : FileSystem) (p : Path) : fs.elapse.absolute p = fs.absolute p := by
  have hpath : ∀ depth i, fs.elapse.pathOf depth i = fs.pathOf depth i := by
    intro depth i
    induction depth generalizing i with
    | zero => rfl
    | succ depth ih => simp only [pathOf, parent?, entries?, get?_elapse, ih]
  have hsame : fs.elapse.inodes = fs.inodes ∧ fs.elapse.cwd = fs.cwd := by
    rw [elapse]
    split <;> exact ⟨rfl, rfl⟩
  rw [absolute, absolute, directoryPath, directoryPath, hpath, hsame.1, hsame.2]

theorem makeTemporary_passes (ht : base.Tidy) (hl : base.Leads q room dir)
    (habsolute : base.Leads (base.absolute q) 1 dir)
    (hfree : ∃ n, base.child? dir (temporaryName temporaryStem n) = none) :
    Passes (makeTemporary q) base fun made fs' ↦ ∃ nb k, base.Vacant made.1 dir nb ∧
      made.2 = { ino := k } ∧ base.AddsFile dir [(nb, k)] k [] 1 fs' := by
  have h := (Adds.refl ht hl.isDir).elapse
  obtain ⟨es, hes⟩ := exists_entries_of_isDir hl.isDir
  have hes' : base.elapse.entries? dir = some es := by rwa [entries?, get?_elapse]
  have hchild (nb : Bytes) : base.child? dir nb = none ↔ nb ∉ es.map (·.1) := by
    rw [child?_eq_lookup hes, ← Option.not_isSome_iff_eq_none, ← contains_eq_isSome_lookup,
      List.contains_iff_mem]
  simp only [hchild] at hfree
  obtain ⟨hnew, n, hname⟩ := freeTemporaryName_spec hfree
  have hreaddir : base.elapse.readdir q = .ok (es.map (·.1)) := by
    rw [readdir, (h.grows.leads hl).lookup_eq]
    simp only [Bind.bind, Except.bind, hes']
    rfl
  have hpath : base.elapse.freePath q temporaryStem =
      (base.absolute q).join (freeTemporaryName temporaryStem (es.map (·.1))) := by
    rw [freePath, hreaddir, absolute_elapse]
    rfl
  generalize freeTemporaryName temporaryStem (es.map (·.1)) = found at hnew hname hpath
  generalize hp : (base.absolute q).join found = path at hpath
  have hvacant : base.Vacant path dir found :=
    ⟨hp ▸ habsolute.names (hname ▸ isName_temporaryName n), (hchild found).mpr hnew⟩
  let flags : OpenFlags := { write := true, create := true, exclusive := true, mode := 0o600 }
  have hopen : base.elapse.openTemporary q = .ok ((path, { ino := base.elapse.next }),
      (base.elapse.make dir found (.file []) (masked 0o600)).2) := by
    have hfile : base.elapse.openFile flags path = _ := h.openFile_eq hvacant rfl rfl
    rw [temporaryStem] at hpath
    simp only [openTemporary, hpath]
    rw [hfile, onTemporary, onPaths_ok (by simpa using hvacant.names.zero_notMem)]
    rfl
  exact operate_passes hopen ⟨found, _, hvacant, rfl, h.make_file found [] _⟩

end MountSweep.Posix.FileSystem
