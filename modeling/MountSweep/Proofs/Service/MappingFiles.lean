import MountSweep.Posix.FileSystem.Fresh
import MountSweep.Proofs.Files.Saving
import MountSweep.Proofs.Service.PathArguments

namespace MountSweep

open Posix FileSystem Time

namespace NameMapMode

def UsesFiles (mode : NameMapMode) : Prop := mode = .file ∨ mode = .fileEmpty

instance (mode : NameMapMode) : Decidable mode.UsesFiles :=
  inferInstanceAs (Decidable (_ ∨ _))

/-- What the user and the group mapping file hold after a start, if they are there; `held` is what
they held before. -/
def leave (held : Option Bytes × Option Bytes) (mode : NameMapMode) :
    Option Bytes × Option Bytes :=
  if mode.UsesFiles then (some mode.mappingContents.1, some mode.mappingContents.2) else held

variable {mode : NameMapMode} {modes before after : List NameMapMode}
  {held : Option Bytes × Option Bytes}

theorem not_usesFiles_iff : ¬ mode.UsesFiles ↔ mode = .none ∨ mode = .user := by
  cases mode <;> decide

theorem foldl_leave_of_not (h : ∀ m ∈ modes, ¬ m.UsesFiles) : modes.foldl leave held = held := by
  induction modes with
  | nil => rfl
  | cons mode modes ih =>
    obtain ⟨hmode, hmodes⟩ := List.forall_mem_cons.mp h
    rw [List.foldl_cons, leave, if_neg hmode]
    exact ih hmodes

theorem foldl_leave_last (hmode : mode.UsesFiles) (hafter : ∀ m ∈ after, ¬ m.UsesFiles) :
    (before ++ mode :: after).foldl leave held =
      (some mode.mappingContents.1, some mode.mappingContents.2) := by
  rw [List.foldl_append, List.foldl_cons, foldl_leave_of_not hafter, leave, if_pos hmode]

end NameMapMode

variable {fs fs' : FileSystem} {conf : Path} {dir : Ino} {held : Option Bytes × Option Bytes}
  {mode : NameMapMode}

/-- The names of the two mapping files, as they stand in a directory. -/
def mappingNames : List Bytes :=
  [Bytes.ofString NameMapMode.userFile, Bytes.ofString NameMapMode.groupFile]

/-- Both mapping files can be written in a directory: each is missing or a file that has no other
name there. `held` is what they hold. -/
structure Mappable (fs : FileSystem) (conf : Path) (dir : Ino)
    (held : Option Bytes × Option Bytes) : Prop where
  tidy : fs.Tidy
  bounded : fs.Bounded dir
  userNames : fs.Names (conf.joinName NameMapMode.userFile) dir
    (Bytes.ofString NameMapMode.userFile)
  groupNames : fs.Names (conf.joinName NameMapMode.groupFile) dir
    (Bytes.ofString NameMapMode.groupFile)
  user : fs.Holds dir (Bytes.ofString NameMapMode.userFile) held.1
  group : fs.Holds dir (Bytes.ofString NameMapMode.groupFile) held.2

namespace Mappable

theorem write (h : Mappable fs conf dir held) (mode : NameMapMode) :
    ∃ fs', mode.writeMappingFiles conf fs = (.ok (), fs') ∧
      Mappable fs' conf dir (mode.leave held) ∧ fs.Rewrites dir mappingNames fs' ∧
      (¬ mode.UsesFiles → fs' = fs) := by
  by_cases hmode : mode.UsesFiles
  · have hne : Bytes.ofString NameMapMode.userFile ≠ Bytes.ofString NameMapMode.groupFile := by
      decide
    obtain ⟨fs₁, hstore₁, hr₁, huser₁⟩ :=
      exists_rewrites h.tidy h.bounded h.userNames h.user mode.mappingContents.1
    have ht₁ := hr₁.touches.tidy
    have hgroup₁ := hr₁.holds h.tidy (by simpa using hne.symm) h.group
    obtain ⟨fs₂, hstore₂, hr₂, hgroup₂⟩ := exists_rewrites ht₁ (hr₁.bounded h.bounded)
      (hr₁.leadsOn.names h.groupNames) hgroup₁ mode.mappingContents.2
    have huser₂ := hr₂.holds ht₁ (by simpa using hne) huser₁
    have hr : fs.Rewrites dir mappingNames fs₂ := hr₁.trans hr₂
    refine ⟨fs₂, ?_, ?_, hr, fun hno ↦ absurd hmode hno⟩
    · have hfiles : mode.mappingFiles conf =
          some (conf.joinName NameMapMode.userFile, conf.joinName NameMapMode.groupFile) := by
        rcases hmode with rfl | rfl <;> rfl
      simp only [NameMapMode.writeMappingFiles, hfiles, hstore₁, hstore₂]
    · rw [NameMapMode.leave, if_pos hmode]
      exact ⟨hr.touches.tidy, hr.bounded h.bounded, hr.leadsOn.names h.userNames,
        hr.leadsOn.names h.groupNames, huser₂, hgroup₂⟩
  · refine ⟨fs, ?_, ?_, .refl h.tidy h.userNames.isDir, fun _ ↦ rfl⟩
    · rcases NameMapMode.not_usesFiles_iff.mp hmode with rfl | rfl <;> rfl
    · rwa [NameMapMode.leave, if_neg hmode]

theorem contents_eq {user group : Bytes} (h : Mappable fs conf dir (some user, some group)) :
    fs.contentOf (conf.joinName NameMapMode.userFile) = .ok user ∧
      fs.contentOf (conf.joinName NameMapMode.groupFile) = .ok group :=
  ⟨h.user.contentOf_eq h.userNames, h.group.contentOf_eq h.groupNames⟩

end Mappable

theorem ServiceOptions.Holds.optionName_ne {o : ServiceOptions} {xs : List Setting}
    (ho : o.Holds xs) (hmode : ¬ o.nameMap.UsesFiles) {opt : String}
    (hopt : opt ∈ xs.flatMap (·.options conf)) :
    optionName opt ≠ "unamefile" ∧ optionName opt ≠ "gnamefile" := by
  have hne (name : String) (howner : Setting.owner name = some Axis.nameMap)
      (hname : name ∉ (Setting.nameMap o.nameMap).optionNames) : optionName opt ≠ name := by
    rintro rfl
    obtain ⟨x, hx, hopt⟩ := List.mem_flatMap.mp hopt
    have haxis := (Setting.owner_of_mem_options hopt).symm.trans howner
    obtain rfl : x = .nameMap o.nameMap :=
      Setting.eq_of_mem_settings (ho.made x hx) (by simp [settings]) (Option.some.inj haxis)
    refine hname ?_
    rw [← Setting.map_optionName_options conf]
    exact List.mem_map_of_mem hopt
  have hnames : "unamefile" ∉ (Setting.nameMap o.nameMap).optionNames ∧
      "gnamefile" ∉ (Setting.nameMap o.nameMap).optionNames := by
    rcases NameMapMode.not_usesFiles_iff.mp hmode with hmode | hmode <;>
      simp [hmode, Setting.optionNames]
  exact ⟨hne _ rfl hnames.1, hne _ rfl hnames.2⟩

/-- The files that a service finds when it is spawned: `opts` are its options, and `fs` are the
files before its start. -/
structure FindsMappings (mode : NameMapMode) (conf : Path) (dir : Ino) (opts : List String)
    (fs fs' : FileSystem) : Prop where
  named : mode.UsesFiles →
    NamesFile opts "unamefile=" (conf.joinName "unamefile.txt") ∧
      NamesFile opts "gnamefile=" (conf.joinName "gnamefile.txt")
  file : mode = .file →
    fs'.contentOf (conf.joinName "unamefile.txt") = .ok (Bytes.ofString "foo_user:root\n") ∧
      fs'.contentOf (conf.joinName "gnamefile.txt") = .ok (Bytes.ofString "bar_group:root\n")
  fileEmpty : mode = .fileEmpty →
    fs'.contentOf (conf.joinName "unamefile.txt") = .ok [] ∧
      fs'.contentOf (conf.joinName "gnamefile.txt") = .ok []
  unused : mode = .none ∨ mode = .user →
    fs' = fs ∧ ∀ opt ∈ opts, optionName opt ≠ "unamefile" ∧ optionName opt ≠ "gnamefile"
  entries : ∃ entries added, fs.entries? dir = some entries ∧
    fs'.entries? dir = some (entries ++ added) ∧ ∀ e ∈ added, e.1 ∈ mappingNames
  others (name : Bytes) : name ∉ mappingNames → fs'.child? dir name = fs.child? dir name ∧
    ∀ k, fs.child? dir name = some k → k ≠ dir → fs'.get? k = fs.get? k
  elsewhere (k : Ino) : (fs.get? k).isSome → k ≠ dir →
    (∀ name ∈ mappingNames, fs.child? dir name ≠ some k) → fs'.get? k = fs.get? k

/-- An entry with the inode of one of the mapping files is that of the mapping file. -/
theorem Mappable.mem_mappingNames (h : Mappable fs conf dir held) {name other : Bytes} {k : Ino}
    (hname : name ∈ mappingNames) (hc : fs.child? dir name = some k)
    (hother : fs.child? dir other = some k) : other ∈ mappingNames := by
  rw [mappingNames, List.mem_cons, List.mem_singleton] at hname
  rcases hname with rfl | rfl
  · exact h.user.name_eq hc hother ▸ List.mem_cons_self
  · exact h.group.name_eq hc hother ▸ List.mem_cons_of_mem _ List.mem_cons_self

theorem exists_findsMappings {v : Variant} {o : ServiceOptions}
    (hd : (v.entries.map Prod.fst).Nodup) (ho : v.options = .ok o) (l : ServiceLauncher)
    (dirs : ServiceDirs) (htext : Bytes.IsText dirs.conf)
    (h : Mappable fs dirs.conf dir held) :
    ∃ opts fs', l.commandLine v dirs = .ok (l.service.wrapper ++
        [l.service.binary.display, "-f", l.service.host ++ ":" ++ dirs.src.display,
          dirs.mnt.display] ++ opts.flatMap Axis.option ++ ServiceLauncher.baselineOptions) ∧
      o.nameMap.writeMappingFiles dirs.conf fs = (.ok (), fs') ∧
      Mappable fs' dirs.conf dir (o.nameMap.leave held) ∧
      FindsMappings o.nameMap dirs.conf dir opts fs fs' := by
  obtain ⟨xs, hxs, hholds, hagrees⟩ := Variant.exists_settings hd ho
  have hagrees := hagrees dirs.conf
  obtain ⟨fs', hwrite, hafter, hr, hsame⟩ := h.write o.nameMap
  refine ⟨_, fs', ServiceLauncher.commandLine_eq_settings l dirs hxs, hwrite, hafter, ?_⟩
  constructor
  case named =>
    intro hmode
    exact ⟨(namesFile_iff hagrees.once (hagrees.userFile.mpr hmode) (by simp [optionName])).mpr
        ((isText_userFile _).mpr htext),
      (namesFile_iff hagrees.once (hagrees.groupFile.mpr hmode) (by simp [optionName])).mpr
        ((isText_groupFile _).mpr htext)⟩
  case file =>
    intro hmode
    rw [hmode] at hafter
    exact hafter.contents_eq
  case fileEmpty =>
    intro hmode
    rw [hmode] at hafter
    exact hafter.contents_eq
  case unused =>
    intro hmode
    have hno := NameMapMode.not_usesFiles_iff.mpr hmode
    exact ⟨hsame hno, fun opt hopt ↦ hholds.optionName_ne hno hopt⟩
  case entries =>
    obtain ⟨entries, added, hbefore, hafter, hadded⟩ := hr.entries
    exact ⟨entries, added, hbefore, hafter, fun e he ↦ (hadded e he).1⟩
  case others =>
    intro name hname
    refine ⟨hr.child?_of_notMem hname, fun k hk hne ↦ ?_⟩
    exact hr.get?_eq (h.bounded name k hk) hne fun other hmem hother ↦
      hname (h.mem_mappingNames hmem hother hk)
  case elsewhere =>
    intro k hk hne hother
    obtain ⟨n, hn⟩ := Option.isSome_iff_exists.mp hk
    exact hr.get?_eq (h.tidy.lt_next hn) hne hother

variable {σ τ : Type} {host : ServiceHost σ} {l : ServiceLauncher} {v : Variant}
  {dirs : ServiceDirs} {o : ServiceOptions} {s s' : σ}

namespace ServiceLauncher

/-- What is left of a start once the machine has been asked for the process. -/
def afterSpawn (host : ServiceHost σ) (l : ServiceLauncher) (o : ServiceOptions)
    (dirs : ServiceDirs) (program : String) :
    Except SystemError Pid → Act σ (Except Error ServiceHandle)
  | .error e => return .error (.setup (.spawn program e))
  | .ok pid => do
    let h : ServiceHandle :=
      { pid, src := dirs.src, mnt := dirs.mnt, cacheTimeout := o.cacheTimeout
        unmountCommand := l.service.unmountCommand, timeouts := l.timeouts }
    match ← h.settle host with
    | (.error e, _) => return .error (.setup e)
    | (.ok (), h) => return .ok h

theorem afterSpawn_alike {host' : ServiceHost τ} {R : σ → τ → Prop} (hR : host.Tracks host' R)
    (l : ServiceLauncher) (o : ServiceOptions) (dirs : ServiceDirs) (program : String)
    (r : Except SystemError Pid) :
    Act.Alike R Eq (l.afterSpawn host o dirs program r) (l.afterSpawn host' o dirs program r) := by
  cases r with
  | error e => exact .pure rfl
  | ok pid =>
    refine (ServiceHandle.settle_alike hR _).bind_eq fun x ↦ ?_
    obtain ⟨e | u, h⟩ := x <;> exact .pure rfl

theorem start_run {program : String} {args : List String} (ho : v.options = .ok o)
    (hline : l.commandLine v dirs = .ok (program :: args))
    (hwrite : o.nameMap.writeMappingFiles dirs.conf (host.files s) = (.ok (), fs')) :
    (l.start host v dirs).run s =
      (Act.ask (host.spawn (l.command program args) .captured) >>=
        l.afterSpawn host o dirs program).run (host.setFiles fs' s) := by
  simp only [start, launch, ho, hline, prepare, Act.run_bind, Act.run_ask, hwrite]
  rcases host.spawn (l.command program args) .captured (host.setFiles fs' s) with ⟨e | pid, s₁⟩ <;>
    rfl

end ServiceLauncher

namespace ServiceHost

/-- The machine with a list of the processes that it has been asked for, each with the files that
were there then. -/
def watched (host : ServiceHost σ) : ServiceHost (σ × List (Command × FileSystem)) where
  now s := host.now s.1
  sleep d s := (host.sleep d s.1, s.2)
  files s := host.files s.1
  setFiles files s := (host.setFiles files s.1, s.2)
  isMounted p s := ((host.isMounted p s.1).1, (host.isMounted p s.1).2, s.2)
  spawn c k s :=
    ((host.spawn c k s.1).1, (host.spawn c k s.1).2, s.2 ++ [(c, host.files s.1)])
  poll pid s := ((host.poll pid s.1).1, (host.poll pid s.1).2, s.2)
  await pid l s := ((host.await pid l s.1).1, (host.await pid l s.1).2, s.2)
  signal pid g s := (host.signal pid g s.1, s.2)
  execute c k s := ((host.execute c k s.1).1, (host.execute c k s.1).2, s.2)

theorem watched_tracks (host : ServiceHost σ) (log : List (Command × FileSystem)) :
    host.watched.Tracks host fun p s ↦ p = (s, log) := by
  constructor <;> intros <;> subst_vars <;> simp [watched]

end ServiceHost

theorem ServiceLauncher.start_watched {program : String} {args : List String}
    (hfiles : ∀ fs s, host.files (host.setFiles fs s) = fs) (ho : v.options = .ok o)
    (hline : l.commandLine v dirs = .ok (program :: args))
    (hwrite : o.nameMap.writeMappingFiles dirs.conf (host.files s) = (.ok (), fs'))
    (log : List (Command × FileSystem)) :
    (l.start host.watched v dirs).run (s, log) =
      (((l.start host v dirs).run s).1, ((l.start host v dirs).run s).2,
        log ++ [(l.command program args, fs')]) := by
  have hwatched : (l.start host.watched v dirs).run (s, log) =
      (Act.ask (host.watched.spawn (l.command program args) .captured) >>=
        l.afterSpawn host.watched o dirs program).run (host.setFiles fs' s, log) :=
    start_run ho hline hwrite
  rw [hwatched, start_run ho hline hwrite, Act.run_bind, Act.run_bind, Act.run_ask, Act.run_ask]
  dsimp only [ServiceHost.watched]
  rw [hfiles]
  -- what follows the spawn leaves the list as it is
  obtain ⟨hanswer, hstate⟩ := l.afterSpawn_alike
    (host.watched_tracks (log ++ [(l.command program args, fs')])) o dirs program
    (host.spawn (l.command program args) .captured (host.setFiles fs' s)).1 _ _ rfl
  exact Prod.ext hanswer.eq hstate

namespace ServiceHost

/-- What happens on the machine leaves the mapping files as they are, and they can still be
written. -/
def Keeps (host : ServiceHost σ) (conf : Path) (dir : Ino) (s s' : σ) : Prop :=
  ∀ held, Mappable (host.files s) conf dir held → Mappable (host.files s') conf dir held

/-- Nothing that a service asks of the machine touches the mapping files, apart from their being
written. -/
structure Spares (host : ServiceHost σ) (conf : Path) (dir : Ino) : Prop where
  slept (d : Span) (s : σ) : host.Keeps conf dir s (host.sleep d s)
  probed (p : Path) (s : σ) : host.Keeps conf dir s (host.isMounted p s).2
  spawned (c : Command) (k : Sink) (s : σ) : host.Keeps conf dir s (host.spawn c k s).2
  polled (pid : Pid) (s : σ) : host.Keeps conf dir s (host.poll pid s).2
  awaited (pid : Pid) (limit : Option Span) (s : σ) :
    host.Keeps conf dir s (host.await pid limit s).2
  signalled (pid : Pid) (g : Signal) (s : σ) : host.Keeps conf dir s (host.signal pid g s)
  executed (c : Command) (k : Sink) (s : σ) : host.Keeps conf dir s (host.execute c k s).2

theorem Spares.tracks (h : host.Spares conf dir) (held : Option Bytes × Option Bytes) :
    host.Tracks host fun s t ↦ s = t ∧ Mappable (host.files s) conf dir held where
  now := fun ⟨hst, _⟩ ↦ congrArg _ hst
  slept d := fun ⟨hst, hs⟩ ↦ ⟨congrArg _ hst, h.slept d _ held hs⟩
  signalled pid g := fun ⟨hst, hs⟩ ↦ ⟨congrArg _ hst, h.signalled pid g _ held hs⟩
  probed p := fun ⟨hst, hs⟩ ↦ hst ▸ ⟨rfl, rfl, h.probed p _ held hs⟩
  polled pid := fun ⟨hst, hs⟩ ↦ hst ▸ ⟨rfl, rfl, h.polled pid _ held hs⟩
  awaited pid limit := fun ⟨hst, hs⟩ ↦ hst ▸ ⟨rfl, rfl, h.awaited pid limit _ held hs⟩
  executed c k := fun ⟨hst, hs⟩ ↦ hst ▸ ⟨rfl, rfl, h.executed c k _ held hs⟩

/-- Services with directories of their own but one directory for mapping files are started one after
another, in these modes. What else happens in between keeps the mapping files. -/
inductive Starts (host : ServiceHost σ) (conf : Path) (dir : Ino) :
    σ → List NameMapMode → σ → Prop
  | nil (s : σ) : Starts host conf dir s [] s
  | start {s s' : σ} {modes : List NameMapMode} (l : ServiceLauncher) (v : Variant)
      (dirs : ServiceDirs) (o : ServiceOptions) (hconf : dirs.conf = conf)
      (ho : v.options = .ok o)
      (h : Starts host conf dir ((l.start host v dirs).run s).2 modes s') :
      Starts host conf dir s (o.nameMap :: modes) s'
  | other {s s₁ s' : σ} {modes : List NameMapMode} (hkeep : host.Keeps conf dir s s₁)
      (h : Starts host conf dir s₁ modes s') : Starts host conf dir s modes s'

end ServiceHost

theorem ServiceLauncher.start_mappable (hfiles : ∀ fs s, host.files (host.setFiles fs s) = fs)
    (hspares : host.Spares dirs.conf dir) (ho : v.options = .ok o)
    (hs : Mappable (host.files s) dirs.conf dir held) (l : ServiceLauncher) :
    Mappable (host.files ((l.start host v dirs).run s).2) dirs.conf dir
      (o.nameMap.leave held) := by
  have hsettings := ho
  rw [Variant.options_eq_settings] at hsettings
  obtain ⟨xs, hxs, -⟩ := map_eq_ok_iff.mp hsettings
  obtain ⟨program, args, hline⟩ := commandLine_of_settings l dirs hxs
  obtain ⟨fs', hwrite, hwritten, -⟩ := hs.write o.nameMap
  rw [start_run ho hline hwrite, Act.run_bind, Act.run_ask]
  have hspawned := hspares.spawned (l.command program args) .captured (host.setFiles fs' s) _
    ((hfiles fs' s).symm ▸ hwritten)
  exact (l.afterSpawn_alike (hspares.tracks _) o dirs program _ _ _ ⟨rfl, hspawned⟩).2.2

theorem ServiceHost.Starts.mappable {modes : List NameMapMode}
    (h : host.Starts conf dir s modes s') (hfiles : ∀ fs s, host.files (host.setFiles fs s) = fs)
    (hspares : host.Spares conf dir) (hs : Mappable (host.files s) conf dir held) :
    Mappable (host.files s') conf dir (modes.foldl NameMapMode.leave held) := by
  induction h generalizing held with
  | nil s => exact hs
  | start l v dirs o hconf ho h ih =>
    subst hconf
    exact ih (l.start_mappable hfiles hspares ho hs)
  | other hkeep h ih => exact ih (hkeep held hs)

/-- A service is spawned with files that match its command line, whatever the mapping files held:
they hold what its mode asks for and nothing that an earlier service left, and no other entry of
their directory is changed. However many services are started there, the mapping files hold what the
last mode that uses them asks for. -/
theorem mapping_files_match_options {v : Variant} {o : ServiceOptions}
    (hd : (v.entries.map Prod.fst).Nodup) (ho : v.options = .ok o) (l : ServiceLauncher)
    (dirs : ServiceDirs) (htext : Bytes.IsText dirs.conf) {host : ServiceHost σ}
    (hfiles : ∀ fs s, host.files (host.setFiles fs s) = fs) {dir : Ino} {s : σ}
    {held : Option Bytes × Option Bytes} (hs : Mappable (host.files s) dirs.conf dir held) :
    (∃ program args opts fs', l.commandLine v dirs = .ok (program :: args) ∧
      program :: args = l.service.wrapper ++
        [l.service.binary.display, "-f", l.service.host ++ ":" ++ dirs.src.display,
          dirs.mnt.display] ++ opts.flatMap Axis.option ++ ServiceLauncher.baselineOptions ∧
      (∀ log, (l.start host.watched v dirs).run (s, log) =
        (((l.start host v dirs).run s).1, ((l.start host v dirs).run s).2,
          log ++ [(l.command program args, fs')])) ∧
      FindsMappings o.nameMap dirs.conf dir opts (host.files s) fs') ∧
    (host.Spares dirs.conf dir → ∀ modes s', host.Starts dirs.conf dir s modes s' →
      (∀ before mode after, modes = before ++ mode :: after → mode.UsesFiles →
        (∀ m ∈ after, ¬ m.UsesFiles) →
          (host.files s').contentOf (dirs.conf.joinName "unamefile.txt") =
              .ok mode.mappingContents.1 ∧
            (host.files s').contentOf (dirs.conf.joinName "gnamefile.txt") =
              .ok mode.mappingContents.2) ∧
      ((∀ m ∈ modes, ¬ m.UsesFiles) → Mappable (host.files s') dirs.conf dir held)) := by
  constructor
  · obtain ⟨opts, fs', hline, hwrite, -, hfinds⟩ := exists_findsMappings hd ho l dirs htext hs
    rcases hargs : l.commandLine v dirs with e | _ | ⟨program, args⟩
    · cases hargs.symm.trans hline
    · have hempty := Except.ok.inj (hargs.symm.trans hline)
      simp at hempty
    · exact ⟨program, args, opts, fs', rfl, Except.ok.inj (hargs.symm.trans hline),
        ServiceLauncher.start_watched hfiles ho hargs hwrite, hfinds⟩
  · intro hspares modes s' hstarts
    have hafter := hstarts.mappable hfiles hspares hs
    constructor
    · rintro before mode after rfl hmode hnone
      rw [NameMapMode.foldl_leave_last hmode hnone] at hafter
      exact hafter.contents_eq
    · intro hnone
      rwa [NameMapMode.foldl_leave_of_not hnone] at hafter

/-- Files with a directory in which one mapping file is left, with more than is going to be written,
and some notes. -/
def leftoverFiles : FileSystem where
  inodes := [
    (FileSystem.root, freshDir FileSystem.root [("conf", 2)] 1),
    (2, freshDir FileSystem.root [("unamefile.txt", 3), ("notes.txt", 4)] 1),
    (3, { node := .file (Bytes.ofString "somebody_with_a_long_name:root\n"), mode := 0o644 }),
    (4, { node := .file (Bytes.ofString "notes"), mode := 0o644 })]
  next := 5
  cwd := FileSystem.root

theorem leftoverFiles_mappable : Mappable leftoverFiles (Bytes.ofString "/conf") 2
    (some (Bytes.ofString "somebody_with_a_long_name:root\n"), none) := by
  have hentries : leftoverFiles.entries? 2 =
      some [(Bytes.ofString "unamefile.txt", 3), (Bytes.ofString "notes.txt", 4)] := rfl
  let conf : Path := Bytes.ofString "/conf"
  have hnames {name : Bytes} (hn : IsName name) (hle : (conf.join name).length ≤ maxPath) :
      leftoverFiles.Names (conf.join name) 2 name :=
    names_of_lookup (by decide) (by decide +kernel) (by decide +kernel) hn hle
  refine ⟨tidy_of_forall_lt (by decide +kernel), fun name k hc ↦ ?_, hnames ?_ (by decide),
    hnames ?_ (by decide), ?_, ?_⟩
  · have hmem := mem_of_child? hentries hc
    simp only [List.mem_cons, Prod.mk.injEq, List.not_mem_nil, or_false] at hmem
    rcases hmem with ⟨-, rfl⟩ | ⟨-, rfl⟩ <;> decide
  · constructor <;> decide
  · constructor <;> decide
  · refine ⟨3, _, by decide +kernel, rfl, rfl, fun other hother ↦ ?_⟩
    have hmem : other = Bytes.ofString "unamefile.txt" := by
      simpa using mem_of_child? hentries hother
    exact hmem
  · have hnone : leftoverFiles.child? 2 (Bytes.ofString "gnamefile.txt") = none := by
      decide +kernel
    exact hnone

theorem Ward.obedient_spares (conf : Path) (dir : Ino) : obedient.Spares conf dir where
  slept _ _ _ h := h
  probed _ _ _ h := h
  spawned _ _ _ _ h := h
  polled _ _ _ h := h
  awaited _ _ _ _ h := h
  signalled pid g s held h := by
    have hfiles : obedient.files (obedient.signal pid g s) = obedient.files s := by
      simp only [obedient, host]
      split <;> rfl
    rwa [hfiles]
  executed _ _ _ _ h := h

/-- What is left of a longer file is gone, and the last mode decides, though one that uses no files
comes after it. -/
theorem leftover_files_replaced :
    let conf : Path := Bytes.ofString "/conf"
    let dirs : ServiceDirs := ⟨Bytes.ofString "/src", Bytes.ofString "/mnt", conf⟩
    let v (mode : String) : Variant := ⟨[(Axis.nameMap, .str mode)]⟩
    let s : Ward := { mounted := false, files := leftoverFiles }
    (∃ command fs', (Ward.launcher.start Ward.obedient.watched (v "file") dirs).run (s, []) =
        (((Ward.launcher.start Ward.obedient (v "file") dirs).run s).1,
          ((Ward.launcher.start Ward.obedient (v "file") dirs).run s).2, [(command, fs')]) ∧
      fs'.contentOf (conf.joinName "unamefile.txt") = .ok (Bytes.ofString "foo_user:root\n") ∧
      fs'.contentOf (conf.joinName "gnamefile.txt") = .ok (Bytes.ofString "bar_group:root\n") ∧
      fs'.get? 4 = leftoverFiles.get? 4) ∧
    ∃ s', Ward.obedient.Starts conf 2 s [.file, .fileEmpty, .user] s' ∧
      s'.files.contentOf (conf.joinName "unamefile.txt") = .ok [] ∧
      s'.files.contentOf (conf.joinName "gnamefile.txt") = .ok [] := by
  intro conf dirs v s
  have hd : ((v "file").entries.map Prod.fst).Nodup := by decide
  have ho : (v "file").options = .ok { nameMap := .file } := rfl
  have hfiles (fs : FileSystem) (w : Ward) :
      Ward.obedient.files (Ward.obedient.setFiles fs w) = fs := rfl
  have hs : Mappable (Ward.obedient.files s) dirs.conf 2
      (some (Bytes.ofString "somebody_with_a_long_name:root\n"), none) := leftoverFiles_mappable
  obtain ⟨⟨program, args, opts, fs', -, -, hrun, hfinds⟩, hhistory⟩ :=
    mapping_files_match_options hd ho Ward.launcher dirs (by decide) hfiles hs
  refine ⟨⟨_, fs', hrun [], (hfinds.file rfl).1, (hfinds.file rfl).2, ?_⟩, ?_⟩
  · exact (hfinds.others (Bytes.ofString "notes.txt") (by decide)).2 4 (by decide +kernel)
      (by decide)
  · have hstarts : ∃ s', Ward.obedient.Starts conf 2 s [.file, .fileEmpty, .user] s' :=
      ⟨_, .start Ward.launcher (v "file") dirs _ rfl rfl
        (.start Ward.launcher (v "file_empty") dirs _ rfl rfl
          (.start Ward.launcher (v "user") dirs _ rfl rfl (.nil _)))⟩
    obtain ⟨s', hstarts⟩ := hstarts
    obtain ⟨hlast, -⟩ := hhistory (Ward.obedient_spares _ _) _ s' hstarts
    exact ⟨s', hstarts, hlast [.file] .fileEmpty [.user] rfl (by decide) (by decide)⟩

end MountSweep
