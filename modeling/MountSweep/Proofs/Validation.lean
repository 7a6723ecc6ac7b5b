import MountSweep.Config
import MountSweep.Proofs.Settings

namespace MountSweep

open Output

variable {axes : List Axis} {a : Axis} {seen : List String} {e : ConfigError}

/-- One of the axes of a service, with values of its kind. -/
inductive Axis.IsKnown : Axis → Prop
  | switch {name : String} {values : List AxisValue}
      (hname : name ∈ ["debug", "sync_rd", "multiconn"]) (h : ∀ v ∈ values, ∃ b, v = .bool b) :
      IsKnown ⟨name, values⟩
  | seconds {values : List AxisValue} (h : ∀ v ∈ values, ∃ n, v = .int n) :
      IsKnown ⟨"cache_timeout", values⟩
  | mode {values : List AxisValue}
      (h : ∀ v ∈ values, v ∈ [AxisValue.str "none", .str "user", .str "file", .str "file_empty"]) :
      IsKnown ⟨"namemap", values⟩

/-- What is wrong with an axis after others of some names: it has one of these names, or else no
values. -/
inductive Axis.Offends (seen : List String) (a : Axis) : ConfigError → Prop
  | repeated (h : a.name ∈ seen) : Offends seen a (.duplicateAxis a.name)
  | empty (hname : a.name ∉ seen) (h : a.values = []) : Offends seen a (.emptyAxis a.name)

theorem Axis.Offends.congr {seen' : List String} (h : a.Offends seen e)
    (hseen : ∀ name, name ∈ seen ↔ name ∈ seen') : a.Offends seen' e := by
  cases h with
  | repeated h => exact .repeated ((hseen _).mp h)
  | empty hname h => exact .empty (mt (hseen _).mpr hname) h

namespace Matrix

/-- The axes have different names, and each has values. -/
structure WellFormed (axes : List Axis) : Prop where
  nodup : (axes.map Axis.name).Nodup
  values : ∀ a ∈ axes, a.values ≠ []

structure Usable (axes : List Axis) : Prop extends WellFormed axes where
  known : ∀ a ∈ axes, a.IsKnown

def entries (axes : List Axis) : List (String × AxisValue) :=
  axes.flatMap fun a ↦ a.values.map (a.name, ·)

inductive FirstFault (axes : List Axis) : ConfigError → Prop
  | shape {before after : List Axis} {a : Axis} {e : ConfigError}
      (haxes : axes = before ++ a :: after) (hbefore : WellFormed before)
      (ha : a.Offends (before.map Axis.name) e) : FirstFault axes e
  | value {before after : List (String × AxisValue)} {entry : String × AxisValue} {e : ConfigError}
      (haxes : WellFormed axes) (hentries : entries axes = before ++ entry :: after)
      (hbefore : ∀ b ∈ before, ∃ x : Setting, b = x.entry) (hentry : Setting.Offends entry e) :
      FirstFault axes e

theorem wellFormed_nil : WellFormed [] := ⟨List.nodup_nil, nofun⟩

theorem wellFormed_cons : WellFormed (a :: axes) ↔
    a.values ≠ [] ∧ (∀ b ∈ axes, b.name ≠ a.name) ∧ WellFormed axes := by
  constructor
  · rintro ⟨hnodup, hvalues⟩
    obtain ⟨ha, hnodup⟩ := List.nodup_cons.mp hnodup
    obtain ⟨hvalue, hvalues⟩ := List.forall_mem_cons.mp hvalues
    exact ⟨hvalue, fun b hb hba ↦ ha (hba ▸ List.mem_map_of_mem hb), hnodup, hvalues⟩
  · rintro ⟨hvalue, hnames, hnodup, hvalues⟩
    refine ⟨List.nodup_cons.mpr ⟨fun ha ↦ ?_, hnodup⟩, List.forall_mem_cons.mpr ⟨hvalue, hvalues⟩⟩
    obtain ⟨b, hb, hba⟩ := List.mem_map.mp ha
    exact hnames b hb hba

theorem checkAxes_cons_of_offends (h : a.Offends seen e) :
    checkAxes seen (a :: axes) = .error e := by
  cases h with
  | repeated h => rw [checkAxes, if_pos h]
  | empty hname h => rw [checkAxes, if_neg hname, if_pos h]

theorem checkAxes_cons (hname : a.name ∉ seen) (hvalues : a.values ≠ []) :
    checkAxes seen (a :: axes) = checkAxes (a.name :: seen) axes := by
  rw [checkAxes, if_neg hname, if_neg hvalues]

theorem checkAxes_eq_ok_iff :
    checkAxes seen axes = .ok () ↔ (∀ a ∈ axes, a.name ∉ seen) ∧ WellFormed axes := by
  induction axes generalizing seen with
  | nil => simp [checkAxes, wellFormed_nil]
  | cons a axes ih =>
    rw [wellFormed_cons, List.forall_mem_cons]
    by_cases hseen : a.name ∈ seen
    · simp [checkAxes_cons_of_offends (.repeated hseen), hseen]
    by_cases hvalues : a.values = []
    · simp [checkAxes_cons_of_offends (.empty hseen hvalues), hvalues]
    · rw [checkAxes_cons hseen hvalues, ih]
      simp only [List.mem_cons, not_or]
      grind

theorem checkAxes_eq_error_iff :
    checkAxes seen axes = .error e ↔
      ∃ before a after, axes = before ++ a :: after ∧ checkAxes seen before = .ok () ∧
        a.Offends (before.map Axis.name ++ seen) e := by
  induction axes generalizing seen with
  | nil => simp [checkAxes]
  | cons a axes ih =>
    by_cases ha : ∃ e', a.Offends seen e'
    · obtain ⟨e', ha⟩ := ha
      rw [checkAxes_cons_of_offends ha]
      constructor
      · intro he
        cases he
        exact ⟨[], a, axes, rfl, rfl, ha⟩
      · rintro ⟨before, b, after, heq, hbefore, hb⟩
        cases before with
        | nil =>
          cases heq
          have ha' : checkAxes seen (a :: axes) = .error e' := checkAxes_cons_of_offends ha
          exact ha'.symm.trans (checkAxes_cons_of_offends hb)
        | cons c before =>
          cases heq
          rw [checkAxes_cons_of_offends ha] at hbefore
          cases hbefore
    · have hname : a.name ∉ seen := fun h ↦ ha ⟨_, .repeated h⟩
      have hvalues : a.values ≠ [] := fun h ↦ ha ⟨_, .empty hname h⟩
      rw [checkAxes_cons hname hvalues, ih]
      constructor
      · rintro ⟨before, b, after, rfl, hbefore, hb⟩
        refine ⟨a :: before, b, after, rfl, ?_, ?_⟩
        · rwa [checkAxes_cons hname hvalues]
        -- The name of `a` is the last that was seen, and the first of those before `b`.
        · exact hb.congr (by simp [or_left_comm])
      · rintro ⟨before, b, after, heq, hbefore, hb⟩
        cases before with
        | nil =>
          cases heq
          exact absurd ⟨_, hb⟩ ha
        | cons c before =>
          cases heq
          rw [checkAxes_cons hname hvalues] at hbefore
          exact ⟨before, b, after, rfl, hbefore, hb.congr (by simp [or_left_comm])⟩

theorem validate_eq_forM (m : Matrix) : m.validate = (entries m.axes).forM fun entry ↦
    (Setting.ofValue entry.1 entry.2).map fun _ ↦ () := by
  rw [entries, forM_flatMap, validate]
  congr 1
  funext a
  simp only [List.forM_eq_forM, List.forM_map, Setting.args_eq, except_map_map]

theorem validate_eq_ok_iff {m : Matrix} :
    m.validate = .ok () ↔ ∀ entry ∈ entries m.axes, ∃ x : Setting, entry = x.entry := by
  rw [validate_eq_forM, forM_eq_ok_iff]
  simp only [map_eq_ok_iff, Setting.ofValue_eq_ok_iff, and_true]

theorem validate_eq_error_iff {m : Matrix} :
    m.validate = .error e ↔
      ∃ before entry after, entries m.axes = before ++ entry :: after ∧
        (∀ b ∈ before, ∃ x : Setting, b = x.entry) ∧ Setting.Offends entry e := by
  rw [validate_eq_forM, forM_eq_error_iff]
  simp only [map_eq_ok_iff, map_eq_error_iff, Setting.ofValue_eq_ok_iff,
    Setting.ofValue_eq_error_iff, and_true]

theorem isKnown_iff (hvalues : a.values ≠ []) :
    a.IsKnown ↔ ∀ v ∈ a.values, ∃ x : Setting, (a.name, v) = x.entry := by
  constructor
  · rintro (⟨hname, h⟩ | h | h) v hv
    · obtain ⟨b, rfl⟩ := h v hv
      simp only [List.mem_cons, List.not_mem_nil, or_false] at hname
      rcases hname with rfl | rfl | rfl
      · exact ⟨.debug b, rfl⟩
      · exact ⟨.syncReaddir b, rfl⟩
      · exact ⟨.multiconn b, rfl⟩
    · obtain ⟨n, rfl⟩ := h v hv
      exact ⟨.cacheTimeout n, rfl⟩
    · have hv := h v hv
      simp only [List.mem_cons, List.not_mem_nil, or_false] at hv
      rcases hv with rfl | rfl | rfl | rfl
      · exact ⟨.nameMap .none, rfl⟩
      · exact ⟨.nameMap .user, rfl⟩
      · exact ⟨.nameMap .file, rfl⟩
      · exact ⟨.nameMap .fileEmpty, rfl⟩
  · intro h
    obtain ⟨name, values⟩ := a
    have hsound {v : AxisValue} (hv : v ∈ values) (e : ConfigError) :
        ¬ Setting.Offends (name, v) e := by
      obtain ⟨x, hx⟩ := h v hv
      exact hx ▸ x.not_offends e
    obtain ⟨v, hv⟩ := List.exists_mem_of_ne_nil _ hvalues
    have hname : name ∈ [Axis.debug, Axis.cacheTimeout, Axis.syncReaddir, Axis.multiconn,
        Axis.nameMap] := by_contra fun hn ↦ hsound hv _ (.unknown hn)
    by_cases hswitch : name ∈ [Axis.debug, Axis.syncReaddir, Axis.multiconn]
    · exact .switch hswitch fun v hv ↦
        by_contra fun hb ↦ hsound hv _ (.notBoolean hswitch (not_exists.mp hb))
    · obtain rfl | rfl : name = Axis.cacheTimeout ∨ name = Axis.nameMap := by
        simp only [List.mem_cons, List.not_mem_nil, or_false] at hname hswitch
        tauto
      · exact .seconds fun v hv ↦ by_contra fun hn ↦ hsound hv _ (.notNumber (not_exists.mp hn))
      · refine .mode fun v hv ↦ by_contra fun hm ↦ hsound hv _ (.notMode ?_)
        rintro m rfl
        exact hm (by cases m <;> simp [NameMapMode.name])

theorem usable_iff : Usable axes ↔
    WellFormed axes ∧ ∀ entry ∈ entries axes, ∃ x : Setting, entry = x.entry := by
  have hentries : (∀ entry ∈ entries axes, ∃ x : Setting, entry = x.entry) ↔
      ∀ a ∈ axes, ∀ v ∈ a.values, ∃ x : Setting, (a.name, v) = x.entry := by
    simp only [entries, List.forall_mem_flatMap, List.forall_mem_map]
  rw [hentries]
  constructor
  · rintro ⟨hw, hknown⟩
    exact ⟨hw, fun a ha ↦ (isKnown_iff (hw.values a ha)).mp (hknown a ha)⟩
  · rintro ⟨hw, h⟩
    exact ⟨hw, fun a ha ↦ (isKnown_iff (hw.values a ha)).mpr (h a ha)⟩

theorem ofAxes?_eq_ok_iff {m : Matrix} : ofAxes? axes = .ok m ↔ WellFormed axes ∧ m = ⟨axes⟩ := by
  have hchecked : checkAxes [] axes = .ok () ↔ WellFormed axes := by simp [checkAxes_eq_ok_iff]
  rw [ofAxes?, map_eq_ok_iff, ← hchecked]
  constructor
  · rintro ⟨⟨⟩, h, rfl⟩
    exact ⟨h, rfl⟩
  · rintro ⟨h, rfl⟩
    exact ⟨(), h, rfl⟩

theorem ofAxes?_eq_error_iff :
    ofAxes? axes = .error e ↔
      ∃ before a after, axes = before ++ a :: after ∧ WellFormed before ∧
        a.Offends (before.map Axis.name) e := by
  rw [ofAxes?, map_eq_error_iff, checkAxes_eq_error_iff]
  simp [checkAxes_eq_ok_iff]

end Matrix

namespace Output.RuleSpec

/-- The pattern that is read for a rule; that of a literal stands for its text. -/
def source (spec : RuleSpec) : String :=
  if spec.literal then Rule.escapedPattern spec.pattern else spec.pattern

def read (spec : RuleSpec) : Except Regex.Fault Regex :=
  Regex.parse? { caseInsensitive := spec.caseInsensitive, multiLine := true } spec.source.toList

def Compiles (spec : RuleSpec) : Prop := ∃ regex, spec.read = .ok regex

variable {spec : RuleSpec}

theorem ofSpec?_eq (spec : RuleSpec) : Rule.ofSpec? spec =
    match spec.read with
    | .ok regex => .ok ⟨spec.source, regex, spec.count⟩
    | .error fault => .error (.invalidPattern spec.source fault.message) := rfl

theorem exists_ofSpec?_eq_ok_iff : (∃ rule, Rule.ofSpec? spec = .ok rule) ↔ spec.Compiles := by
  rw [ofSpec?_eq, Compiles]
  cases spec.read <;> simp

theorem ofSpec?_eq_error_iff : Rule.ofSpec? spec = .error e ↔
    ∃ fault, spec.read = .error fault ∧ e = .invalidPattern spec.source fault.message := by
  rw [ofSpec?_eq]
  cases spec.read <;> simp [eq_comm]

end Output.RuleSpec

namespace Config

/-- The axes and the patterns of the configuration are in order. -/
structure Readable (c : Config) : Prop where
  axes : Matrix.Usable c.matrix
  patterns : ∀ spec ∈ c.falsePositives, spec.Compiles

structure Usable (c : Config) : Prop extends Readable c where
  unmountCommand : c.service.unmountCommand ≠ []
  host : c.service.host ≠ ""
  pollInterval_pos : 0 < c.timeouts.pollInterval.nanos
  pollInterval_le : c.timeouts.pollInterval ≤ c.timeouts.mount

inductive FirstFault (c : Config) : ConfigError → Prop
  | axes {e : ConfigError} (h : Matrix.FirstFault c.matrix e) : FirstFault c e
  | pattern {before after : List RuleSpec} {spec : RuleSpec} {fault : Regex.Fault}
      (haxes : Matrix.Usable c.matrix) (hrules : c.falsePositives = before ++ spec :: after)
      (hbefore : ∀ b ∈ before, b.Compiles) (hspec : spec.read = .error fault) :
      FirstFault c (.invalidPattern spec.source fault.message)
  | unmountCommand (hc : c.Readable) (h : c.service.unmountCommand = []) :
      FirstFault c (.violation .emptyUnmountCommand)
  | host (hc : c.Readable) (hcommand : c.service.unmountCommand ≠ []) (h : c.service.host = "") :
      FirstFault c (.violation .emptyHost)
  | zeroPollInterval (hc : c.Readable) (hcommand : c.service.unmountCommand ≠ [])
      (hhost : c.service.host ≠ "") (h : c.timeouts.pollInterval.nanos = 0) :
      FirstFault c (.violation .zeroPollInterval)
  | pollIntervalTooLong (hc : c.Readable) (hcommand : c.service.unmountCommand ≠ [])
      (hhost : c.service.host ≠ "") (hpos : 0 < c.timeouts.pollInterval.nanos)
      (h : c.timeouts.mount < c.timeouts.pollInterval) :
      FirstFault c (.violation (.pollIntervalTooLong c.timeouts.pollInterval c.timeouts.mount))

variable {c : Config}

theorem matrix?_eq_ok_iff {m : Matrix} :
    c.matrix? = .ok m ↔ Matrix.Usable c.matrix ∧ m = ⟨c.matrix⟩ := by
  unfold matrix?
  simp only [bind_eq_ok_iff, Matrix.ofAxes?_eq_ok_iff, Matrix.usable_iff]
  constructor
  · rintro ⟨_, ⟨hw, rfl⟩, ⟨⟩, hvalid, h⟩
    cases h
    exact ⟨⟨hw, Matrix.validate_eq_ok_iff.mp hvalid⟩, rfl⟩
  · rintro ⟨⟨hw, hentries⟩, rfl⟩
    exact ⟨_, ⟨hw, rfl⟩, (), Matrix.validate_eq_ok_iff.mpr hentries, rfl⟩

theorem matrix?_eq_error_iff : c.matrix? = .error e ↔ Matrix.FirstFault c.matrix e := by
  unfold matrix?
  simp only [bind_eq_error_iff, Matrix.ofAxes?_eq_error_iff, Matrix.ofAxes?_eq_ok_iff]
  constructor
  · rintro (⟨before, a, after, haxes, hbefore, ha⟩ | ⟨_, ⟨hw, rfl⟩, hvalid | ⟨-, -, h⟩⟩)
    · exact .shape haxes hbefore ha
    · obtain ⟨before, entry, after, hentries, hbefore, hentry⟩ :=
        Matrix.validate_eq_error_iff.mp hvalid
      exact .value hw hentries hbefore hentry
    · cases h
  · rintro (⟨haxes, hbefore, ha⟩ | ⟨hw, hentries, hbefore, hentry⟩)
    · exact .inl ⟨_, _, _, haxes, hbefore, ha⟩
    · exact .inr ⟨_, ⟨hw, rfl⟩,
        .inl (Matrix.validate_eq_error_iff.mpr ⟨_, _, _, hentries, hbefore, hentry⟩)⟩

theorem exists_rules?_eq_ok_iff :
    (∃ rules, c.rules? = .ok rules) ↔ ∀ spec ∈ c.falsePositives, spec.Compiles := by
  simp only [← RuleSpec.exists_ofSpec?_eq_ok_iff]
  constructor
  · rintro ⟨rules, h⟩ spec hspec
    obtain ⟨rule, -, hrule⟩ := exists_of_forall₂_left (mapM_eq_ok_iff.mp h) hspec
    exact ⟨rule, hrule⟩
  · exact exists_mapM_eq_ok

theorem rules?_eq_error_iff : c.rules? = .error e ↔
    ∃ before spec after fault, c.falsePositives = before ++ spec :: after ∧
      (∀ b ∈ before, b.Compiles) ∧ spec.read = .error fault ∧
      e = .invalidPattern spec.source fault.message := by
  simp only [rules?, mapM_eq_error_iff, RuleSpec.exists_ofSpec?_eq_ok_iff,
    RuleSpec.ofSpec?_eq_error_iff, ← exists_and_left]

theorem validate_of_readable (hc : c.Readable) :
    c.validate =
      if c.service.unmountCommand = [] then .error (.violation .emptyUnmountCommand)
      else if c.service.host = "" then .error (.violation .emptyHost)
      else if c.timeouts.pollInterval.nanos = 0 then .error (.violation .zeroPollInterval)
      else if c.timeouts.mount < c.timeouts.pollInterval then
        .error (.violation (.pollIntervalTooLong c.timeouts.pollInterval c.timeouts.mount))
      else .ok () := by
  obtain ⟨rules, hr⟩ := exists_rules?_eq_ok_iff.mpr hc.patterns
  rw [validate, matrix?_eq_ok_iff.mpr ⟨hc.axes, rfl⟩, hr]
  rfl

theorem validate_eq_ok_iff : c.validate = .ok () ↔ c.Usable := by
  constructor
  · intro h
    obtain ⟨m, hm, hrest⟩ := bind_eq_ok_iff.mp h
    obtain ⟨rules, hr, -⟩ := bind_eq_ok_iff.mp hrest
    have hc : c.Readable := ⟨(matrix?_eq_ok_iff.mp hm).1, exists_rules?_eq_ok_iff.mp ⟨rules, hr⟩⟩
    rw [validate_of_readable hc] at h
    split_ifs at h with hcommand hhost hzero hlong
    exact ⟨hc, hcommand, hhost, Nat.pos_of_ne_zero hzero, Nat.le_of_not_lt hlong⟩
  · rintro ⟨hc, hcommand, hhost, hpos, hle⟩
    have hlong : ¬ c.timeouts.mount < c.timeouts.pollInterval := Nat.not_lt_of_le hle
    rw [validate_of_readable hc, if_neg hcommand, if_neg hhost, if_neg (Nat.ne_of_gt hpos),
      if_neg hlong]

theorem validate_eq_error_iff : c.validate = .error e ↔ c.FirstFault e := by
  constructor
  · intro h
    rcases bind_eq_error_iff.mp h with hm | ⟨m, hm, hrest⟩
    · exact .axes (matrix?_eq_error_iff.mp hm)
    have haxes := (matrix?_eq_ok_iff.mp hm).1
    rcases bind_eq_error_iff.mp hrest with hr | ⟨rules, hr, -⟩
    · obtain ⟨before, spec, after, fault, hsplit, hbefore, hspec, rfl⟩ := rules?_eq_error_iff.mp hr
      exact .pattern haxes hsplit hbefore hspec
    have hc : c.Readable := ⟨haxes, exists_rules?_eq_ok_iff.mp ⟨rules, hr⟩⟩
    rw [validate_of_readable hc] at h
    split_ifs at h with hcommand hhost hzero hlong <;> cases h
    · exact .unmountCommand hc hcommand
    · exact .host hc hcommand hhost
    · exact .zeroPollInterval hc hcommand hhost hzero
    · exact .pollIntervalTooLong hc hcommand hhost (Nat.pos_of_ne_zero hzero) hlong
  · intro h
    cases h with
    | axes h => exact bind_eq_error_iff.mpr (.inl (matrix?_eq_error_iff.mpr h))
    | pattern haxes hsplit hbefore hspec =>
      have hr := rules?_eq_error_iff.mpr ⟨_, _, _, _, hsplit, hbefore, hspec, rfl⟩
      exact bind_eq_error_iff.mpr
        (.inr ⟨_, matrix?_eq_ok_iff.mpr ⟨haxes, rfl⟩, bind_eq_error_iff.mpr (.inl hr)⟩)
    | unmountCommand hc hcommand => rw [validate_of_readable hc, if_pos hcommand]
    | host hc hcommand hhost => rw [validate_of_readable hc, if_neg hcommand, if_pos hhost]
    | zeroPollInterval hc hcommand hhost hzero =>
      rw [validate_of_readable hc, if_neg hcommand, if_neg hhost, if_pos hzero]
    | pollIntervalTooLong hc hcommand hhost hpos hlong =>
      rw [validate_of_readable hc, if_neg hcommand, if_neg hhost, if_neg (Nat.ne_of_gt hpos),
        if_pos hlong]

/-- A configuration is accepted if it is usable, and refused for its first fault otherwise; so are
its axes by themselves. -/
theorem validate_decides (c : Config) :
    (c.validate = .ok () ↔ c.Usable) ∧
    (∀ e, c.validate = .error e ↔ c.FirstFault e) ∧
    (∀ m, c.matrix? = .ok m ↔ Matrix.Usable c.matrix ∧ m = ⟨c.matrix⟩) ∧
    ∀ e, c.matrix? = .error e ↔ Matrix.FirstFault c.matrix e :=
  ⟨validate_eq_ok_iff, fun _ ↦ validate_eq_error_iff, fun _ ↦ matrix?_eq_ok_iff,
    fun _ ↦ matrix?_eq_error_iff⟩

/-- The name that comes twice counts before the axis without values that it names, and before all
else. -/
example : Config.validate
    { service := { host := "", unmountCommand := [] }
      matrix := [⟨"turbo", [.int 1]⟩, ⟨"debug", [.bool true]⟩, ⟨"debug", []⟩, ⟨"sync_rd", []⟩] } =
    .error (.duplicateAxis "debug") := by decide

end Config

end MountSweep
