import Mathlib.Data.List.Nodup
import MountSweep.Proofs.Service.Start
import MountSweep.Proofs.Settings

namespace MountSweep

open Posix

def optionName (o : String) : String :=
  String.ofList (o.toList.takeWhile (· ≠ '='))

namespace ServiceOptions

def settings (o : ServiceOptions) : List Setting :=
  [.debug o.debug, .cacheTimeout o.cacheTimeout, .syncReaddir o.syncReaddir,
    .multiconn o.multiconn, .nameMap o.nameMap]

/-- What typed options ask for on one axis, as options on the command line. -/
def optionsOn (o : ServiceOptions) (conf : Path) (axis : String) : List String :=
  (o.settings.filter (·.axis = axis)).flatMap (·.options conf)

end ServiceOptions

/-- The options on a command line say what the typed options say. -/
structure Variant.Agrees (v : Variant) (conf : Path) (o : ServiceOptions) (opts : List String) :
    Prop where
  debug : "sshfs_debug" ∈ opts ↔ o.debug = true
  syncReaddir : "sync_readdir" ∈ opts ↔ o.syncReaddir = true
  multiconn : "max_conns=3" ∈ opts ↔ o.multiconn = true
  cacheTimeout (n : ℕ) : "dcache_timeout=" ++ toString n ∈ opts ↔ o.cacheTimeout.toNat = n ∧ 0 < n
  cached : "dir_cache=yes" ∈ opts ↔ 0 < o.cacheTimeout.toNat
  uncached : "dir_cache=no" ∈ opts ↔ (Axis.cacheTimeout, .int 0) ∈ v.entries
  userMap : "namemap=user" ∈ opts ↔ o.nameMap = .user
  fileMap : "namemap=file" ∈ opts ↔ o.nameMap = .file ∨ o.nameMap = .fileEmpty
  userFile : "unamefile=" ++ (conf.joinName "unamefile.txt").display ∈ opts ↔
    o.nameMap = .file ∨ o.nameMap = .fileEmpty
  groupFile : "gnamefile=" ++ (conf.joinName "gnamefile.txt").display ∈ opts ↔
    o.nameMap = .file ∨ o.nameMap = .fileEmpty
  once : (opts.map optionName).Nodup
  inOrder : opts = v.entries.flatMap fun e ↦ o.optionsOn conf e.1

variable {conf : Path} {o : ServiceOptions} {x y : Setting} {xs : List Setting}

namespace Setting

def optionNames : Setting → List String
  | debug b => if b then ["sshfs_debug"] else []
  | cacheTimeout n => if n = 0 then ["dir_cache"] else ["dcache_timeout", "dir_cache"]
  | syncReaddir b => if b then ["sync_readdir"] else []
  | multiconn b => if b then ["max_conns"] else []
  | nameMap .none => []
  | nameMap .user => ["namemap"]
  | nameMap .file | nameMap .fileEmpty => ["namemap", "unamefile", "gnamefile"]

theorem map_optionName_options (conf : Path) (x : Setting) :
    (x.options conf).map optionName = x.optionNames := by
  cases x with
  | debug b => cases b <;> rfl
  | cacheTimeout n =>
    by_cases hn : n = 0 <;> simp [options, optionNames, optionName, hn]
  | syncReaddir b => cases b <;> rfl
  | multiconn b => cases b <;> simp [options, optionNames, optionName]
  | nameMap m => cases m <;> simp [options, optionNames, optionName]

theorem nodup_optionNames (x : Setting) : x.optionNames.Nodup := by
  cases x with
  | debug b => cases b <;> simp [optionNames]
  | cacheTimeout n => by_cases hn : n = 0 <;> simp [optionNames, hn]
  | syncReaddir b => cases b <;> simp [optionNames]
  | multiconn b => cases b <;> simp [optionNames]
  | nameMap m => cases m <;> simp [optionNames]

def owner : String → Option String
  | "sshfs_debug" => some Axis.debug
  | "dir_cache" | "dcache_timeout" => some Axis.cacheTimeout
  | "sync_readdir" => some Axis.syncReaddir
  | "max_conns" => some Axis.multiconn
  | "namemap" | "unamefile" | "gnamefile" => some Axis.nameMap
  | _ => none

theorem owner_of_mem_optionNames {name : String} (h : name ∈ x.optionNames) :
    owner name = some x.axis := by
  cases x with
  | debug b =>
    cases b <;> simp [optionNames] at h
    simp [h, owner, axis, entry]
  | cacheTimeout n =>
    by_cases hn : n = 0 <;> simp [optionNames, hn] at h
    · simp [h, owner, axis, entry]
    · rcases h with rfl | rfl <;> simp [owner, axis, entry]
  | syncReaddir b =>
    cases b <;> simp [optionNames] at h
    simp [h, owner, axis, entry]
  | multiconn b =>
    cases b <;> simp [optionNames] at h
    simp [h, owner, axis, entry]
  | nameMap m =>
    have hname : name = "namemap" ∨ name = "unamefile" ∨ name = "gnamefile" := by
      cases m <;> simp [optionNames] at h <;> simp [h]
    rcases hname with rfl | rfl | rfl <;> simp [owner, axis, entry]

theorem optionNames_disjoint (h : x.axis ≠ y.axis) : x.optionNames.Disjoint y.optionNames := by
  intro name hx hy
  have hxy := (owner_of_mem_optionNames hx).symm.trans (owner_of_mem_optionNames hy)
  exact h (Option.some.inj hxy)

theorem owner_of_mem_options {opt : String} (h : opt ∈ x.options conf) :
    owner (optionName opt) = some x.axis := by
  have hname := List.mem_map_of_mem (f := optionName) h
  rw [map_optionName_options] at hname
  exact owner_of_mem_optionNames hname

theorem mem_settings_apply (o : ServiceOptions) (x : Setting) : x ∈ (apply o x).settings := by
  cases x <;> simp [apply, ServiceOptions.settings]

theorem mem_settings_apply_of_ne (h : y.axis ≠ x.axis) (hx : x ∈ o.settings) :
    x ∈ (apply o y).settings := by
  cases x <;> cases y <;> simp_all [apply, ServiceOptions.settings, axis, entry]

theorem eq_or_mem_of_mem_settings_apply (hx : x ∈ (apply o y).settings) :
    x = y ∨ x ∈ o.settings := by
  cases x <;> cases y <;> simp_all [apply, ServiceOptions.settings]

theorem mem_settings_foldl_of_mem_settings (h : x.axis ∉ xs.map axis) (hx : x ∈ o.settings) :
    x ∈ (xs.foldl apply o).settings := by
  induction xs generalizing o with
  | nil => exact hx
  | cons y xs ih =>
    obtain ⟨hy, hxs⟩ := (not_or.mp fun hm ↦ h (List.mem_cons.mpr hm))
    exact ih hxs (mem_settings_apply_of_ne (Ne.symm hy) hx)

theorem mem_settings_foldl_of_mem (hd : (xs.map axis).Nodup) (hx : x ∈ xs) :
    x ∈ (xs.foldl apply o).settings := by
  induction xs generalizing o with
  | nil => cases hx
  | cons y xs ih =>
    obtain ⟨hy, hd⟩ := List.nodup_cons.mp hd
    rcases List.mem_cons.mp hx with rfl | hx
    · -- no later setting is on the same axis
      exact mem_settings_foldl_of_mem_settings (o := apply o x) hy (mem_settings_apply o x)
    · exact ih hd hx

theorem mem_or_mem_of_mem_settings_foldl (hx : x ∈ (xs.foldl apply o).settings) :
    x ∈ xs ∨ x ∈ o.settings := by
  induction xs generalizing o with
  | nil => exact .inr hx
  | cons y xs ih =>
    rcases ih hx with hx | hx
    · exact .inl (List.mem_cons_of_mem _ hx)
    · refine (eq_or_mem_of_mem_settings_apply hx).imp_left ?_
      rintro rfl
      exact List.mem_cons_self

theorem eq_of_mem_settings (hx : x ∈ o.settings) (hy : y ∈ o.settings) (h : x.axis = y.axis) :
    x = y := by
  have haxes : o.settings.map axis =
      [Axis.debug, Axis.cacheTimeout, Axis.syncReaddir, Axis.multiconn, Axis.nameMap] := rfl
  have hnodup : (o.settings.map axis).Nodup := by
    rw [haxes]
    decide
  exact List.inj_on_of_nodup_map hnodup hx hy h

theorem optionsOn_axis (hx : x ∈ o.settings) : o.optionsOn conf x.axis = x.options conf := by
  have hfilter : o.settings.filter (·.axis = x.axis) = [x] := by
    simp only [ServiceOptions.settings, List.mem_cons, List.not_mem_nil, or_false] at hx
    rcases hx with rfl | rfl | rfl | rfl | rfl <;> rfl
  rw [ServiceOptions.optionsOn, hfilter, List.flatMap_singleton]

end Setting

/-- Typed options hold the settings that were made, and for the rest the defaults. -/
structure ServiceOptions.Holds (o : ServiceOptions) (xs : List Setting) : Prop where
  made : ∀ x ∈ xs, x ∈ o.settings
  rest : ∀ x ∈ o.settings, x ∈ xs ∨ x ∈ ServiceOptions.settings {}

namespace ServiceOptions.Holds

theorem foldl (hd : (xs.map Setting.axis).Nodup) : (xs.foldl Setting.apply {}).Holds xs where
  made _ hx := Setting.mem_settings_foldl_of_mem hd hx
  rest _ hx := Setting.mem_or_mem_of_mem_settings_foldl hx

/-- An option is given on the command line if the typed options ask for it. Only that no directories
are cached they may also say by default. -/
theorem mem_options_iff (ho : o.Holds xs) (x : Setting) (hx : x ∈ o.settings) {opt : String}
    (howner : Setting.owner (optionName opt) = some x.axis) (hno : opt ≠ "dir_cache=no") :
    opt ∈ xs.flatMap (·.options conf) ↔ opt ∈ x.options conf := by
  rw [List.mem_flatMap]
  constructor
  · rintro ⟨y, hy, hopt⟩
    have haxis := (Setting.owner_of_mem_options hopt).symm.trans howner
    have hyx : y = x := Setting.eq_of_mem_settings (ho.made y hy) hx (Option.some.inj haxis)
    exact hyx ▸ hopt
  · intro hopt
    rcases ho.rest x hx with hx | hx
    · exact ⟨x, hx, hopt⟩
    · -- none of the defaults adds another option
      simp only [ServiceOptions.settings, List.mem_cons, List.not_mem_nil, or_false] at hx
      rcases hx with rfl | rfl | rfl | rfl | rfl <;> simp_all [Setting.options]

theorem agrees {v : Variant} (ho : o.Holds xs) (hv : v.entries = xs.map Setting.entry)
    (hd : (xs.map Setting.axis).Nodup) : v.Agrees conf o (xs.flatMap (·.options conf)) where
  debug := by
    rw [ho.mem_options_iff (.debug o.debug) (by simp [settings])
      (by simp [optionName, Setting.owner, Setting.axis, Setting.entry]) (by simp)]
    cases o.debug <;> simp [Setting.options]
  syncReaddir := by
    rw [ho.mem_options_iff (.syncReaddir o.syncReaddir) (by simp [settings])
      (by simp [optionName, Setting.owner, Setting.axis, Setting.entry]) (by simp)]
    cases o.syncReaddir <;> simp [Setting.options]
  multiconn := by
    rw [ho.mem_options_iff (.multiconn o.multiconn) (by simp [settings])
      (by simp [optionName, Setting.owner, Setting.axis, Setting.entry]) (by simp)]
    cases o.multiconn
    · simp [Setting.options]
    · exact iff_of_true List.mem_cons_self rfl
  cacheTimeout n := by
    have hno : "dcache_timeout=" ++ toString n ≠ "dir_cache=no" := by simp [← String.toList_inj]
    rw [ho.mem_options_iff (.cacheTimeout o.cacheTimeout) (by simp [settings])
      (by simp [optionName, Setting.owner, Setting.axis, Setting.entry]) hno]
    by_cases hz : o.cacheTimeout = 0
    · have hzero : o.cacheTimeout.toNat = 0 := by simp [hz]
      simp only [Setting.options, if_pos hz, List.mem_singleton, hno, hzero, false_iff]
      omega
    · have hpos : 0 < o.cacheTimeout.toNat :=
        UInt64.lt_iff_toNat_lt.mp (UInt64.pos_iff_ne_zero.mpr hz)
      have hyes : "dcache_timeout=" ++ toString n ≠ "dir_cache=yes" := by simp [← String.toList_inj]
      have htimeout : "dcache_timeout=" ++ toString n =
          "dcache_timeout=" ++ toString o.cacheTimeout.toNat ↔ o.cacheTimeout.toNat = n := by
        rw [String.append_right_inj, eq_comm]
        exact ⟨eq_of_toString_eq, congrArg toString⟩
      simp only [Setting.options, if_neg hz, List.mem_cons, List.not_mem_nil, htimeout, hyes,
        or_false]
      omega
  cached := by
    rw [ho.mem_options_iff (.cacheTimeout o.cacheTimeout) (by simp [settings])
      (by simp [optionName, Setting.owner, Setting.axis, Setting.entry]) (by simp)]
    by_cases hz : o.cacheTimeout = 0
    · simp [Setting.options, hz]
    · have hpos : 0 < o.cacheTimeout.toNat :=
        UInt64.lt_iff_toNat_lt.mp (UInt64.pos_iff_ne_zero.mpr hz)
      simp [Setting.options, hz, hpos]
  uncached := by
    have hentry : (Axis.cacheTimeout, AxisValue.int 0) = (Setting.cacheTimeout 0).entry := rfl
    rw [hv, hentry, List.mem_map_of_injective Setting.entry_injective, List.mem_flatMap]
    constructor
    · rintro ⟨x, hx, hopt⟩
      have howner := Setting.owner_of_mem_options hopt
      have hx' : x = .cacheTimeout o.cacheTimeout := by
        refine Setting.eq_of_mem_settings (ho.made x hx) (by simp [settings]) ?_
        simpa [optionName, Setting.owner, Setting.axis, Setting.entry] using howner.symm
      by_cases hz : o.cacheTimeout = 0
      · rwa [← hz, ← hx']
      · rw [hx', Setting.options, if_neg hz] at hopt
        simp [← String.toList_inj] at hopt
    · intro h
      exact ⟨_, h, by simp [Setting.options]⟩
  userMap := by
    rw [ho.mem_options_iff (.nameMap o.nameMap) (by simp [settings])
      (by simp [optionName, Setting.owner, Setting.axis, Setting.entry]) (by simp)]
    cases o.nameMap <;> simp [Setting.options, ← String.toList_inj]
  fileMap := by
    rw [ho.mem_options_iff (.nameMap o.nameMap) (by simp [settings])
      (by simp [optionName, Setting.owner, Setting.axis, Setting.entry]) (by simp)]
    cases o.nameMap <;> simp [Setting.options, ← String.toList_inj]
  userFile := by
    rw [ho.mem_options_iff (.nameMap o.nameMap) (by simp [settings])
      (by simp [optionName, Setting.owner, Setting.axis, Setting.entry])
      (by simp [← String.toList_inj])]
    cases o.nameMap <;> simp [Setting.options, ← String.toList_inj, NameMapMode.userFile]
  groupFile := by
    rw [ho.mem_options_iff (.nameMap o.nameMap) (by simp [settings])
      (by simp [optionName, Setting.owner, Setting.axis, Setting.entry])
      (by simp [← String.toList_inj])]
    cases o.nameMap <;> simp [Setting.options, ← String.toList_inj, NameMapMode.groupFile]
  once := by
    have hnames :
        (xs.flatMap (·.options conf)).map optionName = xs.flatMap Setting.optionNames := by
      rw [List.map_flatMap]
      simp only [Setting.map_optionName_options]
    rw [hnames, List.nodup_flatMap]
    refine ⟨fun x _ ↦ x.nodup_optionNames, ?_⟩
    exact (List.pairwise_map.mp hd).imp Setting.optionNames_disjoint
  inOrder := by
    rw [hv, List.flatMap_map]
    refine List.flatMap_congr fun x hx ↦ ?_
    exact (Setting.optionsOn_axis (ho.made x hx)).symm

end ServiceOptions.Holds

namespace ServiceLauncher

variable {σ : Type} {host : ServiceHost σ} {l : ServiceLauncher} {v : Variant} {dirs : ServiceDirs}
  {s s' : σ} {e : ConfigError}

theorem start_refuses (ho : v.options = .error e) :
    Runs (l.start host.recorded v dirs) s [] (.ok (.error (.config e))) s := by
  have hl : Runs (l.launch host.recorded v dirs) s [] (.ok (.error (.config e))) s := by
    rw [launch, ho]
    exact .pure _ _
  exact hl.bind_last (.pure _ _)

theorem commandLine_eq_settings (l : ServiceLauncher) (dirs : ServiceDirs) {xs : List Setting}
    (hxs : v.settings = .ok xs) :
    l.commandLine v dirs = .ok (l.service.wrapper ++
      [l.service.binary.display, "-f", l.service.host ++ ":" ++ dirs.src.display,
        dirs.mnt.display] ++ (xs.flatMap (·.options dirs.conf)).flatMap Axis.option ++
      baselineOptions) := by
  rw [commandLine, Variant.args_eq_settings, hxs]
  rfl

theorem commandLine_of_settings (l : ServiceLauncher) (dirs : ServiceDirs) {xs : List Setting}
    (hxs : v.settings = .ok xs) :
    ∃ program args, l.commandLine v dirs = .ok (program :: args) := by
  rw [commandLine_eq_settings l dirs hxs]
  cases l.service.wrapper with
  | nil => exact ⟨_, _, rfl⟩
  | cons program args => exact ⟨_, _, rfl⟩

theorem options_of_start (hs : (l.start host v dirs).run s = (.ok (.error (.config e)), s')) :
    v.options = .error e ∧ s' = s := by
  cases ho : v.options with
  | error e' =>
    have hrun := (start_mirrors host l v dirs).run_eq (start_refuses (s := s) ho)
    rw [hrun] at hs
    cases hs
    exact ⟨rfl, rfl⟩
  | ok o =>
    have hsettings := ho
    rw [Variant.options_eq_settings] at hsettings
    obtain ⟨xs, hxs, -⟩ := map_eq_ok_iff.mp hsettings
    obtain ⟨program, args, hline⟩ := commandLine_of_settings l dirs hxs
    obtain ⟨e', he, -⟩ := start_fails ho hline hs
    cases he

end ServiceLauncher

theorem Variant.args_eq_error_iff (v : Variant) (conf : Path) (e : ConfigError) :
    v.args conf = .error e ↔ v.FirstOffence e := by
  rw [v.args_eq_settings, map_eq_error_iff, v.settings_eq_error_iff]

theorem Variant.options_eq_error_iff (v : Variant) (e : ConfigError) :
    v.options = .error e ↔ v.FirstOffence e := by
  rw [v.options_eq_settings, map_eq_error_iff, v.settings_eq_error_iff]

/-- The two views of a variant refuse the same variants for the same reason, the first entry that
stands for no setting; a start that fails for it has requested nothing of the machine. What both
understand, both understand alike. -/
theorem views_agree (v : Variant) (hd : (v.entries.map Prod.fst).Nodup) (conf : Path) :
    ((∃ args, v.args conf = .ok args) ↔ ∃ o, v.options = .ok o) ∧
    (∀ e, (v.args conf = .error e ↔ v.FirstOffence e) ∧ (v.options = .error e ↔ v.FirstOffence e)) ∧
    (∀ {σ : Type} (host : ServiceHost σ) (l : ServiceLauncher) (dirs : ServiceDirs) (s s' : σ) e,
      (l.start host v dirs).run s = (.ok (.error (.config e)), s') →
        v.FirstOffence e ∧ s' = s ∧
          Runs (l.start host.recorded v dirs) s [] (.ok (.error (.config e))) s) ∧
    ∀ args o, v.args conf = .ok args → v.options = .ok o →
      ∃ opts, args = opts.flatMap Axis.option ∧ v.Agrees conf o opts := by
  refine ⟨?_, fun e ↦ ⟨v.args_eq_error_iff conf e, v.options_eq_error_iff e⟩, ?_, ?_⟩
  · rw [v.args_eq_settings, v.options_eq_settings]
    cases v.settings with
    | error e => simp [Except.map]
    | ok xs => simp [Except.map]
  · intro σ host l dirs s s' e hs
    obtain ⟨ho, rfl⟩ := ServiceLauncher.options_of_start hs
    exact ⟨(v.options_eq_error_iff e).mp ho, rfl, ServiceLauncher.start_refuses ho⟩
  · intro args o ha ho
    rw [v.args_eq_settings] at ha
    rw [v.options_eq_settings] at ho
    obtain ⟨xs, hxs, rfl⟩ := map_eq_ok_iff.mp ha
    rw [hxs] at ho
    cases ho
    have hv : v.entries = xs.map Setting.entry := v.settings_eq_ok_iff.mp hxs
    have hnodup : (xs.map Setting.axis).Nodup := by
      rw [hv, List.map_map] at hd
      exact hd
    exact ⟨_, rfl, (ServiceOptions.Holds.foldl hnodup).agrees hv hnodup⟩

/-- A variant on three axes, whose service keeps directories for five seconds. -/
theorem mapped_variant_views :
    (([(Axis.nameMap, .str "file"), (Axis.cacheTimeout, .int 5), (Axis.debug, .bool true)] :
      List (String × AxisValue)).map Prod.fst).Nodup ∧
    ∃ args o, Variant.args ⟨[(Axis.nameMap, .str "file"), (Axis.cacheTimeout, .int 5),
        (Axis.debug, .bool true)]⟩ (Bytes.ofString "/conf") = .ok args ∧
      Variant.options ⟨[(Axis.nameMap, .str "file"), (Axis.cacheTimeout, .int 5),
        (Axis.debug, .bool true)]⟩ = .ok o ∧
      o.nameMap = .file ∧ o.cacheTimeout = 5 ∧
      ∃ opts, args = opts.flatMap Axis.option ∧ Variant.Agrees ⟨[(Axis.nameMap, .str "file"),
        (Axis.cacheTimeout, .int 5), (Axis.debug, .bool true)]⟩ (Bytes.ofString "/conf") o
        opts := by
  have hd : (([(Axis.nameMap, .str "file"), (Axis.cacheTimeout, .int 5),
      (Axis.debug, .bool true)] : List (String × AxisValue)).map Prod.fst).Nodup := by decide
  refine ⟨hd, _, _, rfl, rfl, rfl, rfl, ?_⟩
  exact (views_agree ⟨_⟩ hd _).2.2.2 _ _ rfl rfl

end MountSweep
