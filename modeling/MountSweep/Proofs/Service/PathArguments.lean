import MountSweep.Proofs.Service.Life
import MountSweep.Proofs.Text.Utf8
import MountSweep.Proofs.Views

namespace MountSweep

open Posix Time

variable {σ : Type} {host : ServiceHost σ} {h h' : ServiceHandle} {s s' : σ} {es es' : List Event}
  {command : List String} {mnt : Path}

/-- A request that, if it looks for a mount, looks at `mnt`, and if it runs a command, runs the
unmount command on `mnt`. -/
def Event.Concerns (command : List String) (mnt : Path) : Event → Prop
  | .probed p _ => p = mnt
  | .executed c _ _ =>
    ∃ program args, command = program :: args ∧
      c = { program := Bytes.ofString program, args := args.map Bytes.ofString ++ [mnt] }
  | _ => True

theorem Event.concerns_asks {e : Event} (he : e.Concerns command mnt) :
    ∀ e' ∈ h.asks e, e'.Concerns command mnt := by
  unfold ServiceHandle.asks
  split
  · exact List.forall_mem_singleton.mpr he
  · exact nofun

theorem Event.concerns_append (h : ∀ e ∈ es, e.Concerns command mnt)
    (h' : ∀ e ∈ es', e.Concerns command mnt) : ∀ e ∈ es ++ es', e.Concerns command mnt :=
  List.forall_mem_append.mpr ⟨h, h'⟩

namespace ServiceHandle

/-- The requests are about the mount of the handle and its unmount command. -/
abbrev Concerned (h : ServiceHandle) (es : List Event) : Prop :=
  ∀ e ∈ es, e.Concerns h.unmountCommand h.mnt

theorem concerned_unmountRequest (h : ServiceHandle) (k : Sink) (x : Execution) :
    h.Concerned (h.unmountRequest k x) := by
  unfold unmountRequest
  cases hc : h.unmountCommand with
  | nil => exact nofun
  | cons program args => exact List.forall_mem_singleton.mpr ⟨program, args, hc, rfl⟩

end ServiceHandle

theorem Reclaims.concerns {r : Except Stuck ServiceHandle} (hr : Reclaims host h s es r s') :
    ∀ e ∈ es, e.Concerns command mnt := by
  cases hr with
  | gone => exact Event.concerns_asks trivial
  | obeyed | killed | hangs => simp [Event.Concerns]

theorem Unmounts.concerns {r : Except Stuck (Except TeardownError Unit × ServiceHandle)}
    (hu : Unmounts host h s es r s') : h.Concerned es := by
  cases hu with
  | hangs | failed => exact h.concerned_unmountRequest _ _
  | mounted =>
    exact Event.concerns_append (h.concerned_unmountRequest _ _)
      (List.forall_mem_singleton.mpr rfl)
  | waited =>
    exact Event.concerns_append (h.concerned_unmountRequest _ _)
      (List.forall_mem_cons.mpr ⟨rfl, Event.concerns_asks trivial⟩)

theorem Readies.concerns {deadline n : ℕ}
    {r : Except Stuck (Except SetupError Unit × ServiceHandle)}
    (hr : Readies host h deadline n s es r s') : h.Concerned es := by
  induction hr with
  | exhausted => exact nofun
  | mounted => exact List.forall_mem_singleton.mpr rfl
  | unreadable | ended | late => exact List.forall_mem_cons.mpr ⟨rfl, Event.concerns_asks trivial⟩
  | again hm hp hd hr ih =>
    refine List.forall_mem_cons.mpr ⟨rfl, Event.concerns_append (Event.concerns_asks trivial) ?_⟩
    exact List.forall_mem_cons.mpr ⟨trivial, ih⟩

namespace ServiceHandle

/-- A handle of the same mount, to be unmounted in the same way. -/
def SameMount (h h' : ServiceHandle) : Prop :=
  h'.mnt = h.mnt ∧ h'.unmountCommand = h.unmountCommand

theorem SameMount.learn (h : ServiceHandle) (o : Option Status) : h.SameMount (h.learn o) :=
  ⟨h.learn_mnt o, h.learn_unmountCommand o⟩

theorem SameMount.trans {h₁ h₂ h₃ : ServiceHandle} (h : h₁.SameMount h₂) (h' : h₂.SameMount h₃) :
    h₁.SameMount h₃ :=
  ⟨h'.1.trans h.1, h'.2.trans h.2⟩

theorem SameMount.concerned (hs : h.SameMount h') (hes : h'.Concerned es) : h.Concerned es := by
  rwa [Concerned, ← hs.1, ← hs.2]

theorem signal_asks (host : ServiceHost σ) (h : ServiceHandle) (s : σ) (g : Signal) :
    ∃ s', Runs (h.signal host.recorded g) s (h.asks (.signalled h.pid g)) (.ok ()) s' := by
  cases he : h.ended with
  | some st =>
    rw [asks_some he]
    exact ⟨s, signal_known host h s he g⟩
  | none =>
    rw [asks_none he]
    exact ⟨_, signal_runs host h s he g⟩

variable (host) (h) (s)

theorem cleanup_concerned :
    ∃ es r s', Runs (h.cleanup host.recorded) s es r s' ∧ h.Concerned es ∧
      ∀ h', r = .ok h' → h.SameMount h' := by
  cases ht : h.state.isTerminal with
  | true =>
    refine ⟨_, _, _, cleanup_terminal host h s ht, nofun, fun h' hr ↦ ?_⟩
    cases hr
    exact .learn h none
  | false =>
    rcases hx : host.unmount h .discarded s with ⟨x, s₁⟩
    have hunmount := h.concerned_unmountRequest .discarded x
    by_cases hn : x = .never
    · subst hn
      exact ⟨_, _, _, cleanup_hangs host h s ht hx, hunmount, nofun⟩
    · obtain ⟨es, r, s', hr, hrun⟩ := reclaim_runs host { h with state := .killed } s₁
      refine ⟨_, r, s', cleanup_runs host h s ht hx hn hrun,
        Event.concerns_append hunmount hr.concerns, ?_⟩
      rintro h' rfl
      obtain ⟨o, rfl⟩ := hr.learns
      exact .learn { h with state := .killed } o

theorem stop_concerned :
    ∃ es r s', Runs (h.stop host.recorded) s es r s' ∧ h.Concerned es ∧
      ∀ v h', r = .ok (v, h') → h.SameMount h' := by
  cases ht : h.state.isTerminal with
  | true =>
    refine ⟨_, _, _, stop_terminal host h s ht, nofun, fun v h' hr ↦ ?_⟩
    cases hr
    exact .learn h none
  | false =>
    obtain ⟨es, r, s₁, hu, hrun⟩ := unmount_runs host h s
    rcases r with why | ⟨e | u, h₁⟩
    · exact ⟨es, _, s₁, stop_hangs host h s ht hrun, hu.concerns, fun _ _ hr ↦ (by cases hr)⟩
    · obtain ⟨o, rfl⟩ := hu.learns
      obtain ⟨es', r, s', hclean, hconcerned, hsame⟩ := cleanup_concerned host (h.learn o) s₁
      refine ⟨es ++ es', _, s', stop_forced host h s ht hrun hclean,
        Event.concerns_append hu.concerns ((SameMount.learn h o).concerned hconcerned),
        fun v h' hr ↦ ?_⟩
      rcases r with why | h₂ <;> cases hr
      exact (SameMount.learn h o).trans (hsame _ rfl)
    · obtain ⟨o, rfl⟩ := hu.learns
      refine ⟨es, _, s₁, stop_clean host h s ht hrun, hu.concerns, fun v h' hr ↦ ?_⟩
      cases hr
      exact .learn h o

theorem tearDown_concerned (c : Teardown) :
    ∃ es r s', Runs (h.tearDown host.recorded c) s es r s' ∧ h.Concerned es ∧
      ∀ v h', r = .ok (v, h') → h.SameMount h' := by
  cases c with
  | stop =>
    rw [tearDown_stop]
    exact stop_concerned host h s
  | cleanup =>
    rw [tearDown_cleanup]
    obtain ⟨es, r, s', hrun, hconcerned, hsame⟩ := cleanup_concerned host h s
    cases r with
    | error why => exact ⟨es, _, s', hrun.bind_stuck, hconcerned, fun _ _ hr ↦ (by cases hr)⟩
    | ok h' =>
      refine ⟨es, _, s', hrun.bind_last (.pure _ s'), hconcerned, fun v h₂ hr ↦ ?_⟩
      cases hr
      exact hsame h' rfl

theorem abandon_concerned :
    ∃ es r s', Runs (h.abandon host.recorded) s es r s' ∧ h.Concerned es := by
  cases ht : h.state.isTerminal with
  | true => exact ⟨_, _, _, abandon_terminal host h s ht, nofun⟩
  | false =>
    by_cases hc : h.unmountCommand = []
    · obtain ⟨s', hsignal⟩ := signal_asks host h s .kill
      refine ⟨h.asks (.signalled h.pid .kill), .ok (), s', ?_, Event.concerns_asks trivial⟩
      rw [abandon, if_neg (by simp [ht]), hc]
      exact hsignal.bind_last (.pure _ s')
    · rcases hx : host.unmount h .discarded
        (if h.ended = none then host.signal h.pid .kill s else s) with ⟨x, s'⟩
      exact ⟨_, _, s', abandon_runs host h s ht rfl hx hc,
        Event.concerns_append (Event.concerns_asks trivial) (h.concerned_unmountRequest _ _)⟩

theorem settle_concerned :
    ∃ es r s', Runs (h.settle host.recorded) s es r s' ∧ h.Concerned es ∧
      ∀ v h', r = .ok (v, h') → h.SameMount h' := by
  cases hd : deadline? (host.now s) h.timeouts.mount with
  | none =>
    obtain ⟨es, r, s', ha, hconcerned⟩ := abandon_concerned host h s
    obtain ⟨why, -, hw⟩ := waitReady_overflow host h s hd ha
    exact ⟨es, _, s', settle_hangs host h s hw, hconcerned, fun _ _ hr ↦ (by cases hr)⟩
  | some deadline =>
    obtain ⟨es, r, s₁, hready, hw⟩ := waitReady_runs host h s hd
    rcases r with why | ⟨e | u, h₁⟩
    · exact ⟨es, _, s₁, settle_hangs host h s hw, hready.concerns, fun _ _ hr ↦ (by cases hr)⟩
    · obtain ⟨o, rfl⟩ := hready.learns rfl
      obtain ⟨es', r, s', hclean, hconcerned, hsame⟩ := cleanup_concerned host (h.learn o) s₁
      refine ⟨es ++ es', _, s', settle_failed host h s hw hclean,
        Event.concerns_append hready.concerns ((SameMount.learn h o).concerned hconcerned),
        fun v h' hr ↦ ?_⟩
      rcases r with why | h₂ <;> cases hr
      exact (SameMount.learn h o).trans (hsame _ rfl)
    · obtain ⟨o, rfl⟩ := hready.learns rfl
      refine ⟨es, _, s₁, settle_ready host h s hw, hready.concerns, fun v h' hr ↦ ?_⟩
      cases hr
      exact .learn h o

variable {host} {h} {s}

/-- Whatever is asked of a handle, it is about the mount and the unmount command that the handle had
from the start. -/
theorem live_concerned (dropped : σ) (calls : List (σ × Teardown)) :
    ∀ t ∈ h.live host dropped calls, h.Concerned t.events := by
  -- What a call learns of the process changes the handle, but not its mount.
  induction calls generalizing h with
  | nil =>
    obtain ⟨es, r, s', hrun, hconcerned⟩ := abandon_concerned host h dropped
    rw [live, hrun []]
    cases r <;> exact List.forall_mem_singleton.mpr hconcerned
  | cons call calls ih =>
    obtain ⟨s, c⟩ := call
    obtain ⟨es, r, s', hrun, hconcerned, hsame⟩ := tearDown_concerned host h s c
    rw [live, hrun []]
    rcases r with why | ⟨v, h'⟩
    · exact List.forall_mem_singleton.mpr hconcerned
    · exact List.forall_mem_cons.mpr
        ⟨hconcerned, fun t ht ↦ (hsame v h' rfl).concerned (ih t ht)⟩

theorem lifetime_concerned (dropped s : σ) (calls : List (σ × Teardown)) :
    ∀ t ∈ h.lifetime host dropped s calls, h.Concerned t.events := by
  obtain ⟨es, r, s', hrun, hconcerned, hsame⟩ := settle_concerned host h s
  rw [lifetime, hrun []]
  rcases r with why | ⟨e | u, h'⟩
  · exact List.forall_mem_singleton.mpr hconcerned
  all_goals
    exact List.forall_mem_cons.mpr
      ⟨hconcerned, fun t ht ↦ (hsame _ h' rfl).concerned (live_concerned dropped _ t ht)⟩

end ServiceHandle

theorem Path.isText_joinName {base : Path} {name rest : String} {b : UInt8}
    (hname : Bytes.ofString name = b :: Bytes.ofString rest) (hb : b < 0x80) (hslash : b ≠ slash) :
    Bytes.IsText (base.joinName name) ↔ Bytes.IsText base := by
  rw [joinName, join, hname, if_neg (by simpa [isAbsolute] using hslash)]
  split
  · exact Bytes.isText_append_cons hb ⟨rest, rfl⟩
  · exact Bytes.isText_append_cons (by decide) ⟨name, hname.symm⟩

theorem isText_userFile (conf : Path) :
    Bytes.IsText (conf.joinName NameMapMode.userFile) ↔ Bytes.IsText conf := by
  have hname : Bytes.ofString NameMapMode.userFile = 117 :: Bytes.ofString "namefile.txt" := by
    decide
  exact Path.isText_joinName hname (by decide) (by decide)

theorem isText_groupFile (conf : Path) :
    Bytes.IsText (conf.joinName NameMapMode.groupFile) ↔ Bytes.IsText conf := by
  have hname : Bytes.ofString NameMapMode.groupFile = 103 :: Bytes.ofString "namefile.txt" := by
    decide
  exact Path.isText_joinName hname (by decide) (by decide)

theorem NameMapMode.mappingFiles_eq_some {mode : NameMapMode} {conf userPath groupPath : Path}
    (h : mode.mappingFiles conf = some (userPath, groupPath)) :
    (mode = .file ∨ mode = .fileEmpty) ∧ userPath = conf.joinName userFile ∧
      groupPath = conf.joinName groupFile := by
  cases mode <;> cases h
  · exact ⟨.inl rfl, rfl, rfl⟩
  · exact ⟨.inr rfl, rfl, rfl⟩

/-- One option has the name with which `before` begins, and it is `before` with the bytes of `p`. -/
def NamesFile (opts : List String) (before : String) (p : Path) : Prop :=
  ∃ opt ∈ opts, optionName opt = optionName before ∧
    (∀ opt' ∈ opts, optionName opt' = optionName before → opt' = opt) ∧
    Bytes.ofString opt = Bytes.ofString before ++ p

theorem ofString_append_display_iff (before : String) (p : Path) :
    Bytes.ofString (before ++ p.display) = Bytes.ofString before ++ p ↔ Bytes.IsText p := by
  rw [Bytes.ofString_append, List.append_cancel_left_eq]
  exact Bytes.ofString_display_iff

theorem namesFile_iff {opts : List String} {before : String} {p : Path}
    (hd : (opts.map optionName).Nodup) (hmem : before ++ p.display ∈ opts)
    (hname : optionName (before ++ p.display) = optionName before) :
    NamesFile opts before p ↔ Bytes.IsText p := by
  rw [← ofString_append_display_iff before p]
  constructor
  · rintro ⟨opt, -, -, honly, hbytes⟩
    rwa [honly _ hmem hname]
  · intro hbytes
    exact ⟨_, hmem, hname,
      fun opt hopt hopt' ↦ List.inj_on_of_nodup_map hd hopt hmem (hopt'.trans hname.symm), hbytes⟩

theorem NameMapMode.writeMappingFiles_eq_ok {mode : NameMapMode} {conf userPath groupPath : Path}
    {fs fs' : FileSystem} (h : mode.mappingFiles conf = some (userPath, groupPath))
    (hw : mode.writeMappingFiles conf fs = (.ok (), fs')) :
    ∃ fs₁, fs.store userPath mode.mappingContents.1 = .ok fs₁ ∧
      fs₁.store groupPath mode.mappingContents.2 = .ok fs' := by
  simp only [writeMappingFiles, h] at hw
  split at hw
  · cases hw
  next fs₁ huser =>
  split at hw
  · cases hw
  next fs₂ hgroup =>
    cases hw
    exact ⟨fs₁, huser, hgroup⟩

/-- How a service of a variant is told its paths; `mode` is the mapping mode of the variant. -/
structure PathsTold (l : ServiceLauncher) (v : Variant) (dirs : ServiceDirs) (mode : NameMapMode)
    (remote mountpoint : String) (opts : List String) : Prop where
  commandLine : l.commandLine v dirs = .ok (l.service.wrapper ++
    [l.service.binary.display, "-f", remote, mountpoint] ++ opts.flatMap Axis.option ++
      ServiceLauncher.baselineOptions)
  remote_iff :
    Bytes.ofString remote = Bytes.ofString (l.service.host ++ ":") ++ dirs.src ↔
      Bytes.IsText dirs.src
  mountpoint_iff : Bytes.ofString mountpoint = dirs.mnt ↔ Bytes.IsText dirs.mnt
  mapping_iff {userPath groupPath : Path} :
    mode.mappingFiles dirs.conf = some (userPath, groupPath) →
      (NamesFile opts "unamefile=" userPath ↔ Bytes.IsText dirs.conf) ∧
        (NamesFile opts "gnamefile=" groupPath ↔ Bytes.IsText dirs.conf)

theorem Variant.exists_settings {v : Variant} {o : ServiceOptions}
    (hd : (v.entries.map Prod.fst).Nodup) (ho : v.options = .ok o) :
    ∃ xs, v.settings = .ok xs ∧ o.Holds xs ∧
      ∀ conf, v.Agrees conf o (xs.flatMap (·.options conf)) := by
  rw [v.options_eq_settings] at ho
  obtain ⟨xs, hxs, rfl⟩ := map_eq_ok_iff.mp ho
  have hv := v.settings_eq_ok_iff.mp hxs
  have hnodup : (xs.map Setting.axis).Nodup := by
    rw [hv, List.map_map] at hd
    exact hd
  have hholds := ServiceOptions.Holds.foldl hnodup
  exact ⟨xs, hxs, hholds, fun conf ↦ hholds.agrees hv hnodup⟩

theorem exists_pathsTold {v : Variant} {o : ServiceOptions} (hd : (v.entries.map Prod.fst).Nodup)
    (ho : v.options = .ok o) (l : ServiceLauncher) (dirs : ServiceDirs) :
    ∃ remote mountpoint opts, PathsTold l v dirs o.nameMap remote mountpoint opts := by
  obtain ⟨xs, hxs, -, hagrees⟩ := Variant.exists_settings hd ho
  have hagrees := hagrees dirs.conf
  refine ⟨_, _, _, ServiceLauncher.commandLine_eq_settings l dirs hxs,
    ofString_append_display_iff _ _, Bytes.ofString_display_iff, fun hfiles ↦ ?_⟩
  obtain ⟨hmode, rfl, rfl⟩ := NameMapMode.mappingFiles_eq_some hfiles
  have huser := namesFile_iff hagrees.once (hagrees.userFile.mpr hmode) (by simp [optionName])
  have hgroup := namesFile_iff hagrees.once (hagrees.groupFile.mpr hmode) (by simp [optionName])
  exact ⟨huser.trans (isText_userFile _), hgroup.trans (isText_groupFile _)⟩

/-- The mount is looked for at the mount point, unmounted there and nowhere else, and the mapping
files are written where the mode has them: these paths are taken byte for byte. The service is told
the same paths exactly if they are texts. -/
theorem told_paths_iff_text {v : Variant} {o : ServiceOptions}
    (hd : (v.entries.map Prod.fst).Nodup) (ho : v.options = .ok o) (l : ServiceLauncher)
    (dirs : ServiceDirs) :
    (∃ remote mountpoint opts, PathsTold l v dirs o.nameMap remote mountpoint opts) ∧
    (∀ userPath groupPath, o.nameMap.mappingFiles dirs.conf = some (userPath, groupPath) →
      ∀ fs fs', o.nameMap.writeMappingFiles dirs.conf fs = (.ok (), fs') →
        ∃ fs₁, fs.store userPath o.nameMap.mappingContents.1 = .ok fs₁ ∧
          fs₁.store groupPath o.nameMap.mappingContents.2 = .ok fs') ∧
    ∀ {τ : Type} (host : ServiceHost τ) (s s₁ : τ) h,
      (l.launch host v dirs).run s = (.ok (.ok h), s₁) →
        ∀ dropped calls, ∀ t ∈ h.lifetime host dropped s₁ calls, ∀ e ∈ t.events,
          e.Concerns l.service.unmountCommand dirs.mnt := by
  refine ⟨exists_pathsTold hd ho l dirs, fun _ _ hfiles fs fs' hw ↦
    NameMapMode.writeMappingFiles_eq_ok hfiles hw, fun host s s₁ h hl dropped calls ↦ ?_⟩
  obtain ⟨es, hlaunched, -⟩ := ServiceLauncher.launch_returns host l v dirs hl
  cases hlaunched
  exact ServiceHandle.lifetime_concerned dropped s₁ calls

/-- Directories each of whose names ends in a byte that no text has. -/
def ServiceDirs.unprintable : ServiceDirs := ⟨[47, 115, 255], [47, 109, 255], [47, 99, 255]⟩

/-- A service in such directories is told other paths than those that are used. -/
theorem unprintable_paths_mistold :
    ([(Axis.nameMap, AxisValue.str "file")].map Prod.fst).Nodup ∧
    Variant.options ⟨[(Axis.nameMap, .str "file")]⟩ = .ok { nameMap := .file } ∧
    ∃ remote mountpoint opts, PathsTold Ward.launcher ⟨[(Axis.nameMap, .str "file")]⟩
        .unprintable .file remote mountpoint opts ∧
      Bytes.ofString mountpoint ≠ ServiceDirs.unprintable.mnt ∧
      ¬ NamesFile opts "unamefile=" (ServiceDirs.unprintable.conf.joinName "unamefile.txt") ∧
      ¬ NamesFile opts "gnamefile=" (ServiceDirs.unprintable.conf.joinName "gnamefile.txt") := by
  have hd : ([(Axis.nameMap, AxisValue.str "file")].map Prod.fst).Nodup := by decide
  have ho : Variant.options ⟨[(Axis.nameMap, .str "file")]⟩ = .ok { nameMap := .file } := rfl
  obtain ⟨⟨remote, mountpoint, opts, htold⟩, -⟩ :=
    told_paths_iff_text hd ho Ward.launcher .unprintable
  have hmnt : ¬ Bytes.IsText ServiceDirs.unprintable.mnt := by decide
  have hconf : ¬ Bytes.IsText ServiceDirs.unprintable.conf := by decide
  obtain ⟨huser, hgroup⟩ := htold.mapping_iff rfl
  exact ⟨hd, ho, remote, mountpoint, opts, htold, mt htold.mountpoint_iff.mp hmnt,
    mt huser.mp hconf, mt hgroup.mp hconf⟩

end MountSweep
