import MountSweep.Proofs.Documents.Kinds

namespace MountSweep

open Yaml Time Output

variable {d d' : Document} {n n' : Node}

/-- A part of a section: its name, its kind, and where the section has it. -/
structure Part (σ : Type) where
  {Value : Type}
  name : String
  kind : Kind Value
  get : σ → Value

/-- The part of a section `x` that a mapping gives, or else that of the default. -/
def Part.Taken {σ : Type} (d : Document) (n : Node) (default x : σ) (p : Part σ) : Prop :=
  d.Takes n p.name p.kind.read (p.get default) (p.get x)

def LoggingConfig.parts : List (Part LoggingConfig) := [⟨"level", .text, (·.level)⟩]

def ServiceConfig.parts : List (Part ServiceConfig) :=
  [⟨"binary", .path, (·.binary)⟩, ⟨"host", .text, (·.host)⟩, ⟨"wrapper", .list .text, (·.wrapper)⟩,
    ⟨"unmount_command", .list .text, (·.unmountCommand)⟩, ⟨"env", .variables, (·.env)⟩]

def TimeoutConfig.parts : List (Part TimeoutConfig) :=
  [⟨"mount", .span, (·.mount)⟩, ⟨"poll_interval", .span, (·.pollInterval)⟩,
    ⟨"stop", .span, (·.stop)⟩, ⟨"kill_grace", .span, (·.killGrace)⟩,
    ⟨"failure_grace", .span, (·.failureGrace)⟩, ⟨"output_drain", .span, (·.outputDrain)⟩,
    ⟨"ssh_probe", .span, (·.sshProbe)⟩]

/-- An axis has its name and its values from a mapping. -/
structure Axis.Taken (d : Document) (n : Node) (a : Axis) : Prop where
  name : d.Requires n "name" Node.text a.name
  values : d.Requires n "values" (Node.list AxisValue.ofNode) a.values

theorem Axis.taken {a : Axis} (h : d.reads (Axis.ofNode n) = .ok a) : a.Taken d n := by
  obtain ⟨fs, hfs, h⟩ := (Yields.of_reads h).fields
  obtain ⟨name, hname, h⟩ := h.required hfs text_steady
  obtain ⟨values, hvalues, h⟩ := h.required hfs fun m ↦
    list_steady m fun v ↦ AxisValue.ofNode_follows (target_steady v)
  cases h.pure_eq
  exact ⟨hname, hvalues⟩

/-- A rule has its pattern from a mapping, and what this leaves out is zero or false. -/
structure Output.RuleSpec.Taken (d : Document) (n : Node) (spec : RuleSpec) : Prop where
  pattern : d.Requires n "pattern" Node.text spec.pattern
  count : d.Takes n "count" Node.nat64 0 spec.count
  literal : d.Takes n "literal" Node.bool false spec.literal
  caseInsensitive : d.Takes n "case_insensitive" Node.bool false spec.caseInsensitive

theorem Output.RuleSpec.taken {spec : RuleSpec} (h : d.reads (RuleSpec.ofNode n) = .ok spec) :
    spec.Taken d n := by
  obtain ⟨fs, hfs, h⟩ := (Yields.of_reads h).fields
  obtain ⟨pattern, hpattern, h⟩ := h.required hfs text_steady
  obtain ⟨count, hcount, h⟩ := h.fieldOr hfs fun m ↦ nat64_follows (target_steady m)
  obtain ⟨literal, hliteral, h⟩ := h.fieldOr hfs fun m ↦ bool_follows (target_steady m)
  obtain ⟨caseInsensitive, hcase, h⟩ := h.fieldOr hfs fun m ↦ bool_follows (target_steady m)
  cases h.pure_eq
  exact ⟨hpattern, hcount, hliteral, hcase⟩

def Yaml.Kind.axis : Kind Axis where
  read := Axis.ofNode
  Means d n a := text.Given d (d.given n "name") a.name ∧
    (list axisValue).Given d (d.given n "values") a.values
  steady _ n := Axis.ofNode_steady n
  sound h := by
    obtain ⟨hname, hvalues⟩ := Axis.taken h
    exact ⟨text.given_of_requires hname, (list axisValue).given_of_requires hvalues⟩
  unique {d n a a'} ha ha' := by
    obtain ⟨name, values⟩ := a
    obtain ⟨name', values'⟩ := a'
    rw [Axis.mk.injEq]
    exact ⟨ha.1.unique ha'.1, ha.2.unique ha'.2⟩

def Yaml.Kind.rule : Kind RuleSpec where
  read := RuleSpec.ofNode
  Means d n spec := text.Given d (d.given n "pattern") spec.pattern ∧
    count.GivenOr d (d.given n "count") 0 spec.count ∧
    bool.GivenOr d (d.given n "literal") false spec.literal ∧
    bool.GivenOr d (d.given n "case_insensitive") false spec.caseInsensitive
  steady _ n := RuleSpec.ofNode_steady n
  sound h := by
    obtain ⟨hpattern, hcount, hliteral, hcase⟩ := RuleSpec.taken h
    exact ⟨text.given_of_requires hpattern, count.givenOr_of_takes hcount,
      bool.givenOr_of_takes hliteral, bool.givenOr_of_takes hcase⟩
  unique {d n r r'} hr hr' := by
    obtain ⟨hpattern, hcount, hliteral, hcase⟩ := hr
    obtain ⟨hpattern', hcount', hliteral', hcase'⟩ := hr'
    cases r
    cases r'
    rw [RuleSpec.mk.injEq]
    exact ⟨hpattern.unique hpattern', hcount.unique hcount', hliteral.unique hliteral',
      hcase.unique hcase'⟩

def Yaml.Document.nodesAt (d : Document) : List String → Node → List Node
  | [], n => [n]
  | name :: path, n => (d.given n name).flatMap (d.nodesAt path)

/-- A field of a configuration: its place in a document, its kind, and where the configuration
has it. -/
structure Field where
  {Value : Type}
  path : List String
  kind : Kind Value
  get : Config → Value

namespace Field

/-- The document gives the field once, and the configuration has what is meant there; or the
document does not give it, and the configuration has the default. -/
def Holds (f : Field) (d : Document) (c : Config) : Prop :=
  f.kind.GivenOr d (d.nodesAt f.path d.root) (f.get {}) (f.get c)

def ofPart {σ : Type} (name : String) (sect : Config → σ) (p : Part σ) : Field :=
  ⟨[name, p.name], p.kind, fun c ↦ p.get (sect c)⟩

end Field

namespace Config

def fields : List Field :=
  LoggingConfig.parts.map (.ofPart "logging" Config.logging) ++
    ServiceConfig.parts.map (.ofPart "service" Config.service) ++
    TimeoutConfig.parts.map (.ofPart "timeouts" Config.timeouts) ++
    [⟨["matrix"], .list .axis, Config.matrix⟩,
      ⟨["false_positives"], .list .rule, Config.falsePositives⟩]

end Config

def Yaml.Document.Twice (d : Document) (n : Node) (names : List String) : Prop :=
  ∃ name ∈ names, 2 ≤ (d.given n name).length

theorem Yaml.Document.not_twice {names : List String}
    (h : ∀ name ∈ names, (d.given n name).length ≤ 1) : ¬ d.Twice n names := by
  rintro ⟨name, hname, htwo⟩
  have hone := h name hname
  omega

theorem Part.Taken.not_twice {σ : Type} {default x : σ} {ps : List (Part σ)}
    (h : ∀ p ∈ ps, p.Taken d n default x) : ¬ d.Twice n (ps.map Part.name) :=
  Document.not_twice (List.forall_mem_map.mpr fun p hp ↦ (h p hp).length_le)

def Axis.keys : List String := ["name", "values"]

theorem Axis.Taken.not_twice {a : Axis} (h : a.Taken d n) : ¬ d.Twice n keys := by
  refine Document.not_twice ?_
  simpa [keys] using ⟨h.name.length_le, h.values.length_le⟩

def Output.RuleSpec.keys : List String := ["pattern", "count", "literal", "case_insensitive"]

theorem Output.RuleSpec.Taken.not_twice {spec : RuleSpec} (h : spec.Taken d n) :
    ¬ d.Twice n keys := by
  refine Document.not_twice ?_
  simpa [keys] using ⟨h.pattern.length_le, h.count.length_le, h.literal.length_le,
    h.caseInsensitive.length_le⟩

def Config.keys : List String := ["logging", "service", "timeouts", "matrix", "false_positives"]

namespace Config

end Config

end MountSweep
