import MountSweep.Config.Decode
import MountSweep.Proofs.Yaml.Reading

namespace MountSweep

open Yaml Time Output

variable {d d' : Document} {n n' : Node} {Q : List (String × Node) → List (String × Node) → Prop}

theorem Time.Span.ofNode_follows (h : Follows d d' Eq n.target n'.target) :
    Follows d d' Eq (Span.ofNode n) (Span.ofNode n') := by
  refine (text_follows h).bind_eq fun s ↦ ?_
  split
  · exact .pure rfl
  · exact .mismatch _

theorem AxisValue.ofNode_follows (h : Follows d d' Eq n.target n'.target) :
    Follows d d' Eq (AxisValue.ofNode n) (AxisValue.ofNode n') := by
  refine h.bind_eq fun m ↦ ?_
  split
  · split
    · exact .pure rfl
    · split
      · exact .pure rfl
      · exact .mismatch _
    · exact .pure rfl
    · exact .mismatch _
  · exact .mismatch _

theorem Axis.ofNode_follows (h : Follows d d' Q n.fields n'.fields)
    (hQ : ∀ fs fs', Q fs fs' →
      Provides d d' Node.text (valuesOf fs "name") (valuesOf fs' "name") ∧
      Provides d d' (Node.list AxisValue.ofNode) (valuesOf fs "values") (valuesOf fs' "values")) :
    Follows d d' Eq (Axis.ofNode n) (Axis.ofNode n') := by
  refine h.bind fun fs fs' hfs ↦ ?_
  obtain ⟨hname, hvalues⟩ := hQ fs fs' hfs
  exact (required_follows hname).bind_eq fun _ ↦
    (required_follows hvalues).bind_eq fun _ ↦ .pure rfl

theorem Output.RuleSpec.ofNode_follows (h : Follows d d' Q n.fields n'.fields)
    (hQ : ∀ fs fs', Q fs fs' →
      Provides d d' Node.text (valuesOf fs "pattern") (valuesOf fs' "pattern") ∧
      Provides d d' Node.nat64 (valuesOf fs "count") (valuesOf fs' "count") ∧
      Provides d d' Node.bool (valuesOf fs "literal") (valuesOf fs' "literal") ∧
      Provides d d' Node.bool (valuesOf fs "case_insensitive")
        (valuesOf fs' "case_insensitive")) :
    Follows d d' Eq (RuleSpec.ofNode n) (RuleSpec.ofNode n') := by
  refine h.bind fun fs fs' hfs ↦ ?_
  obtain ⟨hpattern, hcount, hliteral, hcase⟩ := hQ fs fs' hfs
  exact (required_follows hpattern).bind_eq fun _ ↦ (fieldOr_follows hcount _).bind_eq fun _ ↦
    (fieldOr_follows hliteral _).bind_eq fun _ ↦ (fieldOr_follows hcase _).bind_eq fun _ ↦
      .pure rfl

theorem ServiceConfig.envOfNode_follows
    (h : Follows d d' (List.Forall₂ fun f f' ↦ f.1 = f'.1 ∧
      Follows d d' Eq f.2.target f'.2.target) n.fields n'.fields) :
    Follows d d' Eq (envOfNode n) (envOfNode n') := by
  refine h.bind fun fs fs' hfs ↦ Follows.bind_eq (.mapM_eq hfs ?_) fun _ ↦ .pure rfl
  rintro ⟨k, v⟩ ⟨k', v'⟩ ⟨rfl, hv⟩
  exact (text_follows hv).bind_eq fun _ ↦ .pure rfl

theorem LoggingConfig.ofNode_follows (h : Follows d d' Q n.fields n'.fields)
    (hQ : ∀ fs fs', Q fs fs' →
      Provides d d' Node.text (valuesOf fs "level") (valuesOf fs' "level")) :
    Follows d d' Eq (LoggingConfig.ofNode n) (LoggingConfig.ofNode n') :=
  h.bind fun fs fs' hfs ↦ (fieldOr_follows (hQ fs fs' hfs) _).bind_eq fun _ ↦ .pure rfl

def ServiceConfig.binaryOfNode (n : Node) : Decode Path := do return Bytes.ofString (← n.text)

theorem ServiceConfig.ofNode_follows (h : Follows d d' Q n.fields n'.fields)
    (hQ : ∀ fs fs', Q fs fs' →
      Provides d d' binaryOfNode (valuesOf fs "binary") (valuesOf fs' "binary") ∧
      Provides d d' Node.text (valuesOf fs "host") (valuesOf fs' "host") ∧
      Provides d d' (Node.list Node.text) (valuesOf fs "wrapper") (valuesOf fs' "wrapper") ∧
      Provides d d' (Node.list Node.text) (valuesOf fs "unmount_command")
        (valuesOf fs' "unmount_command") ∧
      Provides d d' envOfNode (valuesOf fs "env") (valuesOf fs' "env")) :
    Follows d d' Eq (ServiceConfig.ofNode n) (ServiceConfig.ofNode n') := by
  refine h.bind fun fs fs' hfs ↦ ?_
  obtain ⟨hbinary, hhost, hwrapper, hunmount, henv⟩ := hQ fs fs' hfs
  exact (fieldOr_follows hbinary _).bind_eq fun _ ↦ (fieldOr_follows hhost _).bind_eq fun _ ↦
    (fieldOr_follows hwrapper _).bind_eq fun _ ↦ (fieldOr_follows hunmount _).bind_eq fun _ ↦
      (fieldOr_follows henv _).bind_eq fun _ ↦ .pure rfl

def TimeoutConfig.names : List String :=
  ["mount", "poll_interval", "stop", "kill_grace", "failure_grace", "output_drain", "ssh_probe"]

theorem TimeoutConfig.ofNode_follows (h : Follows d d' Q n.fields n'.fields)
    (hQ : ∀ fs fs', Q fs fs' → ∀ name ∈ names,
      Provides d d' Span.ofNode (valuesOf fs name) (valuesOf fs' name)) :
    Follows d d' Eq (TimeoutConfig.ofNode n) (TimeoutConfig.ofNode n') := by
  refine h.bind fun fs fs' hfs ↦ ?_
  have hname (name : String) (hn : name ∈ names) (x : Span) :=
    fieldOr_follows (hQ fs fs' hfs name hn) x
  exact (hname "mount" (by decide) _).bind_eq fun _ ↦
    (hname "poll_interval" (by decide) _).bind_eq fun _ ↦
    (hname "stop" (by decide) _).bind_eq fun _ ↦
    (hname "kill_grace" (by decide) _).bind_eq fun _ ↦
    (hname "failure_grace" (by decide) _).bind_eq fun _ ↦
    (hname "output_drain" (by decide) _).bind_eq fun _ ↦
    (hname "ssh_probe" (by decide) _).bind_eq fun _ ↦ .pure rfl

namespace Config

end Config

theorem texts_steady (n : Node) : Steady d (n.list Node.text) := list_steady n text_steady

theorem Axis.ofNode_steady (n : Node) : Steady d (Axis.ofNode n) :=
  Axis.ofNode_follows (fields_steady n) fun _ _ hfs ↦ hfs ▸
    ⟨provides_refl text_steady _,
      provides_refl (fun m ↦ list_steady m fun v ↦ AxisValue.ofNode_follows (target_steady v)) _⟩

theorem Output.RuleSpec.ofNode_steady (n : Node) : Steady d (RuleSpec.ofNode n) :=
  RuleSpec.ofNode_follows (fields_steady n) fun _ _ hfs ↦ hfs ▸
    ⟨provides_refl text_steady _, provides_refl (fun m ↦ nat64_follows (target_steady m)) _,
      provides_refl (fun m ↦ bool_follows (target_steady m)) _,
      provides_refl (fun m ↦ bool_follows (target_steady m)) _⟩

theorem LoggingConfig.ofNode_steady (n : Node) : Steady d (LoggingConfig.ofNode n) :=
  LoggingConfig.ofNode_follows (fields_steady n) fun _ _ hfs ↦ hfs ▸ provides_refl text_steady _

namespace ServiceConfig

theorem binaryOfNode_follows (h : Follows d d' Eq n.target n'.target) :
    Follows d d' Eq (binaryOfNode n) (binaryOfNode n') :=
  (text_follows h).bind_eq fun _ ↦ .pure rfl

theorem envOfNode_steady (n : Node) : Steady d (envOfNode n) := by
  refine envOfNode_follows ((fields_steady n).mono fun _ _ hfs ↦ ?_)
  exact hfs ▸ List.forall₂_same.mpr fun f _ ↦ ⟨rfl, target_steady f.2⟩

theorem ofNode_steady (n : Node) : Steady d (ServiceConfig.ofNode n) :=
  ofNode_follows (fields_steady n) fun _ _ hfs ↦ hfs ▸
    ⟨provides_refl (fun m ↦ binaryOfNode_follows (target_steady m)) _,
      provides_refl text_steady _, provides_refl texts_steady _, provides_refl texts_steady _,
      provides_refl envOfNode_steady _⟩

end ServiceConfig

theorem Time.Span.ofNode_steady (n : Node) : Steady d (Span.ofNode n) :=
  Span.ofNode_follows (target_steady n)

theorem TimeoutConfig.ofNode_steady (n : Node) : Steady d (TimeoutConfig.ofNode n) :=
  TimeoutConfig.ofNode_follows (fields_steady n) fun _ _ hfs _ _ ↦ hfs ▸
    provides_refl Span.ofNode_steady _

end MountSweep
