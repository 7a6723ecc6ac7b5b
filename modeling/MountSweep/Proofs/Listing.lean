import Mathlib.Data.List.Basic
import MountSweep.CommandLine
import MountSweep.Proofs.Enumeration
import MountSweep.Proofs.Identifiers

namespace MountSweep

open MountSweep.Matrix Output

namespace CommandLine

variable {args ps ps' : List String} {arg name : String} {a b : Arguments}
  {globs globs' : List Glob} {sc : Scenario}

def patterns : List String → List String
  | "--filter" :: pattern :: args => pattern :: patterns args
  | _ :: args => patterns args
  | [] => []

theorem patterns_cons_of_ne (h : arg ≠ "--filter") : patterns (arg :: args) = patterns args := by
  rw [patterns]
  rintro pattern rest rfl
  exact absurd rfl h

theorem filters_of_parseFrom (h : parseFrom a args = .ok (.sweep b)) :
    b.filters = a.filters ++ patterns args ∧ ("--filter" ∈ args ↔ patterns args ≠ []) := by
  fun_induction parseFrom a args with
  | case1 a =>
    cases h
    simp [patterns]
  | case3 a pattern args ih =>
    obtain ⟨hfilters, -⟩ := ih h
    simp [patterns, hfilters]
  | case5 a args _ _ _ ih =>
    rw [patterns_cons_of_ne (by decide), List.mem_cons, or_iff_right (by decide)]
    exact ih h
  | case8 a arg args _ _ _ _ hdash _ ih =>
    -- a path does not begin with a dash, so it is not taken for the option
    have harg : arg ≠ "--filter" := by
      rintro rfl
      exact hdash (by decide)
    rw [patterns_cons_of_ne harg, List.mem_cons, or_iff_right harg.symm]
    exact ih h
  | case2 | case4 | case6 | case7 => cases h

theorem filters_of_parse (h : parse args = .ok (.sweep a)) :
    a.filters = patterns args ∧ ("--filter" ∈ args ↔ patterns args ≠ []) := by
  simpa using filters_of_parseFrom h

def Matched (ps : List String) (name : String) : Prop :=
  ∃ p ∈ ps, ∃ g, Glob.ofText? p = .ok g ∧ g.isMatch name = true

theorem Matched.of_subset (hsub : ps ⊆ ps') (h : Matched ps name) : Matched ps' name := by
  obtain ⟨p, hp, hg⟩ := h
  exact ⟨p, hsub hp, hg⟩

theorem any_isMatch_iff (hglobs : ps.mapM Glob.ofText? = .ok globs) :
    globs.any (·.isMatch name) = true ↔ Matched ps name := by
  have hread := mapM_eq_ok_iff.mp hglobs
  rw [List.any_eq_true]
  constructor
  · rintro ⟨g, hg, hmatch⟩
    obtain ⟨p, hp, hpg⟩ := exists_of_forall₂_right hread hg
    exact ⟨p, hp, g, hpg, hmatch⟩
  · rintro ⟨p, hp, g, hpg, hmatch⟩
    obtain ⟨g', hg', hpg'⟩ := exists_of_forall₂_left hread hp
    obtain rfl : g = g' := Except.ok.inj (hpg.symm.trans hpg')
    exact ⟨g, hg', hmatch⟩

theorem isEmpty_iff (hglobs : ps.mapM Glob.ofText? = .ok globs) :
    globs.isEmpty = true ↔ ps = [] := by
  have hlength := (mapM_eq_ok_iff.mp hglobs).length_eq
  rw [List.isEmpty_iff_length_eq_zero, ← hlength, List.length_eq_zero_iff]

theorem selected_iff (hglobs : ps.mapM Glob.ofText? = .ok globs) :
    (globs.isEmpty || globs.any (·.isMatch name)) = true ↔ (ps ≠ [] → Matched ps name) := by
  rw [Bool.or_eq_true, isEmpty_iff hglobs, any_isMatch_iff hglobs, Classical.or_iff_not_imp_left]

theorem mem_select (hglobs : ps.mapM Glob.ofText? = .ok globs) :
    sc ∈ select globs ↔ sc ∈ Scenario.catalogue ∧ (ps ≠ [] → Matched ps sc.name) := by
  rw [select, List.mem_filter, selected_iff hglobs]

theorem select_sublist_select (hglobs : ps.mapM Glob.ofText? = .ok globs)
    (hglobs' : ps'.mapM Glob.ofText? = .ok globs')
    (h : ∀ name, (ps ≠ [] → Matched ps name) → ps' ≠ [] → Matched ps' name) :
    (select globs).Sublist (select globs') := by
  refine List.monotone_filter_right _ fun sc hsc ↦ ?_
  rw [selected_iff hglobs] at hsc
  rw [selected_iff hglobs']
  exact h sc.name hsc

theorem select_mono (hglobs : ps.mapM Glob.ofText? = .ok globs)
    (hglobs' : ps'.mapM Glob.ofText? = .ok globs') (hne : ps ≠ []) (hsub : ps ⊆ ps') :
    (select globs).Sublist (select globs') :=
  select_sublist_select hglobs hglobs' fun _ hmatched _ ↦ (hmatched hne).of_subset hsub

theorem select_congr (hglobs : ps.mapM Glob.ofText? = .ok globs)
    (hglobs' : ps'.mapM Glob.ofText? = .ok globs') (hsub : ps ⊆ ps') (hsub' : ps' ⊆ ps) :
    select globs = select globs' := by
  -- no pattern selects more than any pattern, so that case stands apart
  by_cases hnil : ps = []
  · obtain rfl := hnil
    obtain rfl := List.subset_nil.mp hsub'
    rw [Except.ok.inj (hglobs.symm.trans hglobs')]
  · have hnil' : ps' ≠ [] := fun h ↦ hnil (List.subset_nil.mp (h ▸ hsub))
    exact (select_mono hglobs hglobs' hnil hsub).antisymm (select_mono hglobs' hglobs hnil' hsub')

/-- `chosen` are the scenarios that patterns select, in the order in which all are run. -/
structure Selects (ps : List String) (chosen : List Scenario) : Prop where
  ordered : chosen.Sublist Scenario.catalogue
  once : (chosen.map Scenario.name).Nodup
  mem_iff (sc : Scenario) : sc ∈ chosen ↔ sc ∈ Scenario.catalogue ∧ (ps ≠ [] → Matched ps sc.name)

theorem nodup_names : (Scenario.catalogue.map Scenario.name).Nodup := by decide

theorem newline_notMem_name : ∀ sc ∈ Scenario.catalogue, '\n' ∉ sc.name.toList := by
  simp [Scenario.catalogue]

theorem select_selects (hglobs : ps.mapM Glob.ofText? = .ok globs) : Selects ps (select globs) where
  ordered := List.filter_sublist
  once := (List.filter_sublist.map _).nodup nodup_names
  mem_iff _ := mem_select hglobs

end CommandLine

def Event.isOutput : Event → Bool
  | .emitted _ | .printed _ | .logged .. => true
  | _ => false

/-- What a request writes to standard output, where the log writes `shown` of a message: nothing, if
the filter or the level with which it was started keeps the message back. -/
def Event.stdout (shown : LogLevel → String → String → Bytes) : Event → Bytes
  | .emitted c => c.stdout
  | .printed line => Bytes.ofString (line ++ "\n")
  | .logged level target message => shown level target message
  | _ => []

theorem Event.stdout_of_not_isOutput (shown : LogLevel → String → String → Bytes) {e : Event}
    (h : e.isOutput = false) : e.stdout shown = [] := by
  cases e <;> first | rfl | cases h

theorem flatMap_stdout_filter (shown : LogLevel → String → String → Bytes) (es : List Event) :
    (es.filter Event.isOutput).flatMap (Event.stdout shown) = es.flatMap (Event.stdout shown) := by
  induction es with
  | nil => rfl
  | cons e es ih =>
    cases he : e.isOutput with
    | true => rw [List.filter_cons_of_pos he, List.flatMap_cons, List.flatMap_cons, ih]
    | false =>
      rw [List.filter_cons_of_neg (by simp [he]), List.flatMap_cons, ih,
        Event.stdout_of_not_isOutput shown he, List.nil_append]

/-- What a program does on a machine, and what it requests for that. -/
def SweepHost.Performs {σ α : Type} (host : SweepHost σ)
    (program : ∀ τ : Type, SweepHost τ → Act τ α) (s : σ) (es : List Event) (x : α) (s' : σ) :
    Prop :=
  (program σ host).run s = (.ok x, s') ∧ Runs (program _ host.recorded) s es (.ok x) s'

def SweepHost.afterLines {σ : Type} (host : SweepHost σ) (lines : List String) (s : σ) : σ :=
  lines.foldl (fun s line ↦ host.printLine line s) s

theorem SweepHost.afterLines_recorded {σ : Type} (host : SweepHost σ) (lines : List String) (s : σ)
    (log : List Event) : host.recorded.afterLines lines (s, log) =
      (host.afterLines lines s, log ++ lines.map .printed) := by
  induction lines generalizing s log with
  | nil => simp [afterLines]
  | cons line lines ih =>
    rw [List.map_cons, List.append_cons]
    exact ih (host.printLine line s) (log ++ [.printed line])

def Sweep.testIds (w : Sweep) (scenarios : List Scenario) : List String :=
  (w.plan scenarios).map fun p ↦ p.1.testId p.2

theorem Matrix.combinations_pinAxes (name : String) (value value' : AxisValue) (axes : List Axis) :
    combinations (pinAxes name value axes) = combinations (pinAxes name value' axes) := by
  induction axes with
  | nil => rfl
  | cons a axes ih =>
    rw [pinAxes, pinAxes]
    by_cases hname : a.name = name
    · rw [if_pos hname, if_pos hname, combinations_cons, combinations_cons]
      rfl
    · rw [if_neg hname, if_neg hname, combinations_cons, combinations_cons, ih]

namespace Sweep

variable {σ : Type} {host : SweepHost σ} {c : Config} {w : Sweep} {s s' : σ}
  {scenarios : List Scenario}

/-- Scenarios differ in the mode that is pinned, but not in the number of their variants. -/
theorem length_testIds (value : AxisValue) : (w.testIds scenarios).length =
    scenarios.length * combinations (w.matrix.pin Axis.nameMap value).axes := by
  have hvariants (sc : Scenario) : ((w.matrixOf sc).variants.map (sc, ·)).length =
      combinations (w.matrix.pin Axis.nameMap value).axes := by
    rw [List.length_map, length_variants]
    exact combinations_pinAxes _ _ _ _
  rw [testIds, List.length_map, plan, List.length_flatMap,
    List.map_congr_left fun sc _ ↦ hvariants sc, List.map_const', List.sum_replicate_nat]

theorem newline_notMem_testIds (h : (prepare host c).run s = (.ok (.ok w), s'))
    (hnames : ∀ sc ∈ scenarios, '\n' ∉ sc.name.toList) :
    ∀ line ∈ w.testIds scenarios, '\n' ∉ line.toList := by
  intro line hline
  obtain ⟨⟨sc, v⟩, hp, rfl⟩ := List.mem_map.mp hline
  obtain ⟨xs, hxs⟩ := (accepted_of_mem_plan h hp).settings
  have hid : '\n' ∉ v.id.toList :=
    Variant.notMem_id hxs (by simp [IsWord]) (by decide) (by decide)
  have hname := hnames sc (mem_scenarios_of_mem_plan hp)
  simp [Scenario.testId, hname, hid]

theorem prepareData_refused {e : Posix.SystemError}
    (hdir : host.makeTemporary dataStem s = (.error e, s')) :
    (w.prepareData host).run s = (.ok (.error e), s') :=
  Act.run_bind_eq_ok.mpr ⟨_, _, by rw [Act.run_ask, hdir], rfl⟩

theorem prepareData_unsaved {dir : Path} {e : Posix.Errno}
    (hdir : host.makeTemporary dataStem s = (.ok dir, s'))
    (hsave : (host.files s').save (dir.joinName Payload.fileName) Payload.content = .error e) :
    (w.prepareData host).run s = (.ok (.error (.errno e)), s') := by
  refine Act.run_bind_eq_ok.mpr ⟨_, _, by rw [Act.run_ask, hdir], ?_⟩
  refine Act.run_bind_eq_ok.mpr ⟨s', s', Act.run_get s', ?_⟩
  rw [hsave]
  rfl

theorem prepareData_saved {dir : Path} {files : Posix.FileSystem}
    (hdir : host.makeTemporary dataStem s = (.ok dir, s'))
    (hsave : (host.files s').save (dir.joinName Payload.fileName) Payload.content = .ok files) :
    (w.prepareData host).run s =
      (.ok (.ok { w with dataPath := dir.joinName Payload.fileName }),
        host.log .debug dataTarget (dataWritten (dir.joinName Payload.fileName))
          (host.setFiles files s')) := by
  refine Act.run_bind_eq_ok.mpr ⟨_, _, by rw [Act.run_ask, hdir], ?_⟩
  refine Act.run_bind_eq_ok.mpr ⟨s', s', Act.run_get s', ?_⟩
  rw [hsave]
  refine Act.run_bind_eq_ok.mpr ⟨_, _, Act.run_tell _ s', ?_⟩
  exact Act.run_bind_eq_ok.mpr ⟨_, _, Act.run_tell _ _, rfl⟩

/-- What is output while a sweep is made ready: the message about the data file. -/
def announced {ε : Type} : Except ε Sweep → List Event
  | .error _ => []
  | .ok w => [.logged .debug dataTarget (dataWritten w.dataPath)]

/-- The data file is all that is made before a sweep is ready, and the message about it is all that
is output. -/
theorem prepareData_performs (host : SweepHost σ) (w : Sweep) (s : σ) :
    ∃ made s' es, host.Performs (fun _ host ↦ w.prepareData host) s es made s' ∧
      es.filter Event.isOutput = announced made := by
  rcases hdir : host.makeTemporary dataStem s with ⟨dir, s'⟩
  have hrecorded (log : List Event) : host.recorded.makeTemporary dataStem (s, log) =
      (dir, s', log ++ [.madeTemporary dataStem dir]) := by simp [SweepHost.recorded, hdir]
  cases dir with
  | error e =>
    exact ⟨_, s', _, ⟨prepareData_refused hdir, fun log ↦ prepareData_refused (hrecorded log)⟩, rfl⟩
  | ok dir =>
    cases hsave : (host.files s').save (dir.joinName Payload.fileName) Payload.content with
    | error e =>
      exact ⟨_, s', _, ⟨prepareData_unsaved hdir hsave,
        fun log ↦ prepareData_unsaved (hrecorded log) hsave⟩, rfl⟩
    | ok files =>
      refine ⟨_, _, [.madeTemporary dataStem (.ok dir), .changedFiles,
        .logged .debug dataTarget (dataWritten (dir.joinName Payload.fileName))],
        ⟨prepareData_saved hdir hsave, fun log ↦ ?_⟩, rfl⟩
      have hrun := prepareData_saved (w := w) (hrecorded log) hsave
      rw [List.append_cons, List.append_cons]
      exact hrun

theorem prepare_of_prepareData {made : Except Posix.SystemError Sweep}
    (hw : ofConfig? c = .ok w) (h : (w.prepareData host).run s = (.ok made, s')) :
    (prepare host c).run s = (.ok (made.mapError .io), s') := by
  rw [prepare, hw]
  refine Act.run_bind_eq_ok.mpr ⟨_, _, h, ?_⟩
  cases made <;> rfl

theorem prepare_performs (host : SweepHost σ) (c : Config) (s : σ) :
    ∃ made s' es, host.Performs (fun _ host ↦ prepare host c) s es made s' ∧
      es.filter Event.isOutput = announced made := by
  cases hw : ofConfig? c with
  | error e =>
    simp only [SweepHost.Performs, prepare, hw]
    exact ⟨_, s, [], ⟨rfl, .pure _ s⟩, rfl⟩
  | ok w =>
    obtain ⟨made, s', es, ⟨hmade, hrecorded⟩, hshown⟩ := prepareData_performs host w s
    refine ⟨_, s', es, ⟨prepare_of_prepareData hw hmade,
      fun log ↦ prepare_of_prepareData hw (hrecorded log)⟩, hshown.trans ?_⟩
    cases made <;> rfl

end Sweep

namespace CommandLine

variable {σ : Type} {host : SweepHost σ} {env : Environment} {args : List String} {a : Arguments}
  {globs : List Glob} {config : Config} {chosen : List Scenario} {s s₁ s' : σ} {w : Sweep}

def Refusal.shown (r : Refusal) : Captured := ⟨[], Bytes.ofString (r.message ++ "\n")⟩

theorem complain_run (host : SweepHost σ) (r : Refusal) (s : σ) :
    (complain host [r.message]).run s = (.ok (), host.emit r.shown s) := by
  rw [complain, List.flatMap_singleton, Act.run_tell]
  rfl

theorem printing_run (host : SweepHost σ) (plan : List (Scenario × Variant)) (s : σ) :
    (forIn plan PUnit.unit fun (p : Scenario × Variant) _ ↦ do
      Act.tell (host.printLine (p.1.testId p.2))
      return ForInStep.yield PUnit.unit : Act σ PUnit).run s =
        (.ok PUnit.unit, host.afterLines (plan.map fun p ↦ p.1.testId p.2) s) := by
  induction plan generalizing s with
  | nil => rfl
  | cons p plan ih =>
    rw [List.forIn_cons, bind_assoc, Act.run_bind_eq_ok]
    refine ⟨(), _, Act.run_tell _ s, ?_⟩
    rw [pure_bind]
    exact ih _

theorem sweep_run (hlist : a.list = true) :
    (sweep host env a w chosen).run s = (.ok 0, host.afterLines (w.testIds chosen) s) := by
  rw [sweep, if_pos hlist, Act.run_bind_eq_ok]
  exact ⟨_, _, printing_run host (w.plan chosen) s, rfl⟩

theorem choose_eq (hglobs : a.filters.mapM Glob.ofText? = .ok globs) :
    choose a = if select globs = [] then .error .nothingSelected else .ok (select globs) := by
  simp only [choose, hglobs, Except.mapError, bind, Except.bind]
  cases select globs <;> rfl

theorem run_configured (hargs : parse args = .ok (.sweep a))
    (hconfig : configOf env (host.files s) a = .ok config)
    (hstart : host.startLog (env.get? Environment.logVariable) config.logging.level s = s₁) :
    (run host env args).run s = Act.run (match choose a with
      | .error r => do
        complain host [r.message]
        return 1
      | .ok chosen => do
        match ← Sweep.prepare host config with
        | .error e => do
          complain host [(Refusal.sweep e).message]
          return 1
        | .ok w => sweep host env a w chosen) s₁ := by
  subst hstart
  rw [run, hargs]
  dsimp only
  rw [Act.run_bind, Act.run_get]
  dsimp only
  rw [hconfig]
  dsimp only
  rw [Act.run_bind]
  cases choose a <;> rfl

theorem run_refused {r : Refusal} (hargs : parse args = .ok (.sweep a))
    (hconfig : configOf env (host.files s) a = .ok config)
    (hstart : host.startLog (env.get? Environment.logVariable) config.logging.level s = s₁)
    (hchoose : choose a = .error r) :
    (run host env args).run s = (.ok 1, host.emit r.shown s₁) := by
  rw [run_configured hargs hconfig hstart, hchoose]
  exact Act.run_bind_eq_ok.mpr ⟨_, _, complain_run host r s₁, rfl⟩

theorem run_unprepared {e : Error} (hargs : parse args = .ok (.sweep a))
    (hconfig : configOf env (host.files s) a = .ok config)
    (hstart : host.startLog (env.get? Environment.logVariable) config.logging.level s = s₁)
    (hchoose : choose a = .ok chosen)
    (hprepare : (Sweep.prepare host config).run s₁ = (.ok (.error e), s')) :
    (run host env args).run s = (.ok 1, host.emit (Refusal.sweep e).shown s') := by
  rw [run_configured hargs hconfig hstart, hchoose]
  refine Act.run_bind_eq_ok.mpr ⟨_, _, hprepare, ?_⟩
  exact Act.run_bind_eq_ok.mpr ⟨_, _, complain_run host (.sweep e) s', rfl⟩

theorem run_prepared (hargs : parse args = .ok (.sweep a)) (hlist : a.list = true)
    (hconfig : configOf env (host.files s) a = .ok config)
    (hstart : host.startLog (env.get? Environment.logVariable) config.logging.level s = s₁)
    (hchoose : choose a = .ok chosen)
    (hprepare : (Sweep.prepare host config).run s₁ = (.ok (.ok w), s')) :
    (run host env args).run s = (.ok 0, host.afterLines (w.testIds chosen) s') := by
  rw [run_configured hargs hconfig hstart, hchoose]
  exact Act.run_bind_eq_ok.mpr ⟨_, _, hprepare, sweep_run hlist⟩

/-- The scenarios of a listing are those that its patterns select: all without a pattern, whatever
their order and repetition, and never fewer for a pattern more. If there are none, the program
refuses before a sweep is made ready. Otherwise it prints the identifier of every planned run, each
on a line, as many for every selected scenario as the matrix has variants once the mapping mode is
fixed. What else is on standard output is what the log makes of the message about the data file,
which is for debugging: nothing, unless the filter in the environment or the configured level asks
for such messages. Only a sweep that cannot be made ready prevents that; one with a usable
configuration is made ready wherever the data file can be made. -/
theorem listing_prints_plan (hargs : parse args = .ok (.sweep a)) (hlist : a.list = true)
    (hconfig : configOf env (host.files s) a = .ok config)
    (hglobs : (patterns args).mapM Glob.ofText? = .ok globs)
    (hstart : host.startLog (env.get? Environment.logVariable) config.logging.level s = s₁) :
    Selects (patterns args) (select globs) ∧
    ("--filter" ∉ args → select globs = Scenario.catalogue) ∧
    (∀ ps globs', ps.mapM Glob.ofText? = .ok globs' →
      (patterns args ⊆ ps → ps ⊆ patterns args → select globs = select globs') ∧
      (patterns args ≠ [] → patterns args ⊆ ps → (select globs).Sublist (select globs'))) ∧
    (select globs = [] → host.Performs (fun _ host ↦ run host env args) s
      [.startedLog (env.get? Environment.logVariable) config.logging.level,
        .emitted Refusal.nothingSelected.shown] 1 (host.emit Refusal.nothingSelected.shown s₁)) ∧
    (select globs ≠ [] → ∃ made s' before, (Sweep.prepare host config).run s₁ = (.ok made, s') ∧
      (∀ w, made = .ok w → ∃ es,
        es = .startedLog (env.get? Environment.logVariable) config.logging.level ::
          (before ++ (w.testIds (select globs)).map .printed) ∧
        host.Performs (fun _ host ↦ run host env args) s es 0
          (host.afterLines (w.testIds (select globs)) s') ∧
        before.filter Event.isOutput =
          [.logged .debug Sweep.dataTarget (Sweep.dataWritten w.dataPath)] ∧
        (∀ shown, es.flatMap (Event.stdout shown) =
          shown .debug Sweep.dataTarget (Sweep.dataWritten w.dataPath) ++
            (w.testIds (select globs)).flatMap fun line ↦ Bytes.ofString (line ++ "\n")) ∧
        (∀ line ∈ w.testIds (select globs), '\n' ∉ line.toList) ∧
        ∀ value, (w.testIds (select globs)).length =
            (select globs).length * (w.matrix.pin Axis.nameMap value).variants.length ∧
          ((w.matrix.pin Axis.nameMap value).variants.length < 2 ^ 64 →
            (w.testIds (select globs)).length =
              (select globs).length * (w.matrix.pin Axis.nameMap value).size)) ∧
      ∀ e, made = .error e →
        host.Performs (fun _ host ↦ run host env args) s
          (.startedLog (env.get? Environment.logVariable) config.logging.level ::
            (before ++ [.emitted (Refusal.sweep e).shown])) 1
          (host.emit (Refusal.sweep e).shown s') ∧
        before.filter Event.isOutput = []) ∧
    ∀ w dir s' files, Sweep.ofConfig? config = .ok w →
      host.makeTemporary Sweep.dataStem s₁ = (.ok dir, s') →
      (host.files s').save (dir.joinName Payload.fileName) Payload.content = .ok files →
        (Sweep.prepare host config).run s₁ =
          (.ok (.ok { w with dataPath := dir.joinName Payload.fileName }),
            host.log .debug Sweep.dataTarget
              (Sweep.dataWritten (dir.joinName Payload.fileName)) (host.setFiles files s')) := by
  obtain ⟨hfilters, hgiven⟩ := filters_of_parse hargs
  have hchoose := choose_eq (hfilters ▸ hglobs)
  have hstart' (log : List Event) : host.recorded.startLog (env.get? Environment.logVariable)
      config.logging.level (s, log) =
        (s₁, log ++ [.startedLog (env.get? Environment.logVariable) config.logging.level]) := by
    simp [SweepHost.recorded, hstart]
  have hconfig' (log : List Event) : configOf env (host.recorded.files (s, log)) a = .ok config :=
    hconfig
  refine ⟨select_selects hglobs, fun hnone ↦ ?_, fun ps globs' hglobs' ↦ ⟨?_, ?_⟩, fun hnil ↦ ?_,
    fun hne ↦ ?_, fun w dir s' files hw hdir hsave ↦ ?_⟩
  · rw [select, List.filter_eq_self]
    intro sc _
    exact (selected_iff hglobs).mpr fun hpatterns ↦ absurd (hgiven.mpr hpatterns) hnone
  · exact select_congr hglobs hglobs'
  · exact select_mono hglobs hglobs'
  · rw [if_pos hnil] at hchoose
    refine ⟨run_refused hargs hconfig hstart hchoose, fun log ↦ ?_⟩
    rw [List.append_cons]
    exact run_refused hargs (hconfig' log) (hstart' log) hchoose
  · rw [if_neg hne] at hchoose
    obtain ⟨made, s', before, ⟨hmade, hrecorded⟩, hshown⟩ := Sweep.prepare_performs host config s₁
    refine ⟨made, s', before, hmade, ?_, ?_⟩
    · rintro w rfl
      refine ⟨_, rfl, ⟨run_prepared hargs hlist hconfig hstart hchoose hmade, fun log ↦ ?_⟩, hshown,
        fun shown ↦ ?_, ?_, fun value ↦ ?_⟩
      · have hrun :=
          run_prepared hargs hlist (hconfig' log) (hstart' log) hchoose (hrecorded _)
        rw [SweepHost.afterLines_recorded, List.append_assoc] at hrun
        rw [List.append_cons]
        exact hrun
      · rw [List.flatMap_cons, List.flatMap_append, ← flatMap_stdout_filter shown before, hshown,
          List.flatMap_map]
        simp [Sweep.announced, Event.stdout]
      · refine Sweep.newline_notMem_testIds hmade fun sc hsc ↦ ?_
        exact newline_notMem_name sc ((mem_select hglobs).mp hsc).1
      · rw [length_variants, size_eq]
        refine ⟨Sweep.length_testIds value, fun hfits ↦ ?_⟩
        rw [Nat.mod_eq_of_lt hfits]
        exact Sweep.length_testIds value
    · rintro e rfl
      refine ⟨⟨run_unprepared hargs hconfig hstart hchoose hmade, fun log ↦ ?_⟩, hshown⟩
      have hrun := run_unprepared hargs (hconfig' log) (hstart' log) hchoose (hrecorded _)
      rw [List.append_cons, ← List.append_assoc]
      exact hrun
  · exact Sweep.prepare_of_prepareData hw (Sweep.prepareData_saved hdir hsave)

theorem eq_ok_of_toOption {ε α : Type} {x : Except ε α} {y : α} (h : x.toOption = some y) :
    x = .ok y := by
  cases x with
  | error e => cases h
  | ok y' => rw [Option.some.inj h]

theorem exists_globs (ps names : List String)
    (h : (ps.mapM Glob.ofText?).toOption.map (fun gs ↦ (select gs).map Scenario.name) =
      some names) :
    ∃ globs, ps.mapM Glob.ofText? = .ok globs ∧ (select globs).map Scenario.name = names := by
  obtain ⟨globs, hglobs, hnames⟩ := Option.map_eq_some_iff.mp h
  exact ⟨globs, eq_ok_of_toOption hglobs, hnames⟩

def unruled : Ward :=
  { mounted := false
    files :=
      { inodes := [(1, { node := .dir [(Bytes.ofString "run", 2), (Bytes.ofString "c.yaml", 3)] 1
                         mode := 0o755 }),
          (2, { node := .dir [] 1, mode := 0o755 }),
          (3, { node := .file (Bytes.ofString "false_positives: []"), mode := 0o644 })]
        next := 4, cwd := 1 } }

def truncating : List String :=
  ["c.yaml", "--filter", "truncate_*", "--list", "--filter", "truncate_*"]

/-- Two scenarios are listed, each with the sixteen variants of the axes that are swept by default,
and with a log that keeps the message back nothing else is on standard output. A further pattern may
add scenarios, and without a match there is no listing. -/
theorem truncating_listed :
    (∃ globs, (patterns truncating).mapM Glob.ofText? = .ok globs ∧
      Selects ["truncate_*", "truncate_*"] (select globs) ∧
      (∃ globs', ["truncate_*"].mapM Glob.ofText? = .ok globs' ∧ select globs = select globs') ∧
      (∃ globs', ["chown", "truncate_*"].mapM Glob.ofText? = .ok globs' ∧
        (select globs).Sublist (select globs')) ∧
      ∃ (w : Sweep) (s' : Ward) (es : List Event),
        (Ward.sweepHost Ward.obedient).Performs (fun _ host ↦ run host {} truncating) unruled es 0
          ((Ward.sweepHost Ward.obedient).afterLines (w.testIds (select globs)) s') ∧
        (∀ shown, shown .debug Sweep.dataTarget (Sweep.dataWritten w.dataPath) = [] →
          es.flatMap (Event.stdout shown) = (w.testIds (select globs)).flatMap fun line ↦
            Bytes.ofString (line ++ "\n")) ∧
        (w.testIds (select globs)).length = 32) ∧
    (Ward.sweepHost Ward.obedient).Performs
      (fun _ host ↦ run host {} ["--list", "--filter", "none"]) unruled
      [.startedLog none "info", .emitted Refusal.nothingSelected.shown] 1
      ((Ward.sweepHost Ward.obedient).emit Refusal.nothingSelected.shown unruled) := by
  refine ⟨?_, ?_⟩
  · obtain ⟨globs, hglobs, hnames⟩ := exists_globs (patterns truncating)
      ["truncate_path", "truncate_fd"] (by decide +kernel)
    obtain ⟨globs₁, hglobs₁, -⟩ := exists_globs ["truncate_*"] ["truncate_path", "truncate_fd"]
      (by decide +kernel)
    obtain ⟨globs₂, hglobs₂, -⟩ := exists_globs ["chown", "truncate_*"]
      ["truncate_path", "truncate_fd", "chown"] (by decide +kernel)
    have hargs : parse truncating = .ok (.sweep
        { config := some "c.yaml", filters := ["truncate_*", "truncate_*"], list := true }) := rfl
    have hconfig : configOf {} ((Ward.sweepHost Ward.obedient).files unruled)
        { config := some "c.yaml", filters := ["truncate_*", "truncate_*"], list := true } =
          .ok { falsePositives := [] } := eq_ok_of_toOption (by decide +kernel)
    obtain ⟨hselects, -, hothers, -, hlisted, -⟩ :=
      listing_prints_plan hargs rfl hconfig hglobs rfl
    have hne : select globs ≠ [] := by
      intro hnil
      rw [hnil] at hnames
      cases hnames
    obtain ⟨made, s', before, hmade, hprinted, -⟩ := hlisted hne
    obtain ⟨w, s₁, hready⟩ : ∃ w s₁, (Sweep.prepare (Ward.sweepHost Ward.obedient)
        { falsePositives := [] }).run unruled = (.ok (.ok w), s₁) :=
      Sweep.exists_of_prepare (by decide +kernel)
    obtain ⟨hok, rfl⟩ := Prod.mk.inj (hready.symm.trans hmade)
    obtain ⟨es, -, hperforms, -, hstdout, -, hlength⟩ := hprinted w (Except.ok.inj hok).symm
    have hlength : (w.testIds (select globs)).length = 32 := by
      rw [(hlength (.str "none")).1, (Sweep.axes_of_prepare hready).1,
        ← List.length_map Scenario.name, hnames]
      decide +kernel
    exact ⟨globs, hglobs, hselects,
      ⟨globs₁, hglobs₁, (hothers _ _ hglobs₁).1 (by decide) (by decide)⟩,
      ⟨globs₂, hglobs₂, (hothers _ _ hglobs₂).2 (by decide) (by decide)⟩,
      w, s₁, es, hperforms, fun shown hshown ↦ by rw [hstdout, hshown, List.nil_append], hlength⟩
  · obtain ⟨globs, hglobs, hnames⟩ := exists_globs ["none"] [] (by decide +kernel)
    have hargs : parse ["--list", "--filter", "none"] =
        .ok (.sweep { filters := ["none"], list := true }) := rfl
    have hconfig : configOf {} ((Ward.sweepHost Ward.obedient).files unruled)
        { filters := ["none"], list := true } = .ok (Config.builtIn {}) := rfl
    obtain ⟨-, -, -, hrefused, -⟩ := listing_prints_plan hargs rfl hconfig hglobs rfl
    exact hrefused (List.map_eq_nil_iff.mp hnames)

end CommandLine

end MountSweep
