import MountSweep.Config.Load
import MountSweep.Proofs.Settings
import MountSweep.Proofs.Substitution
import MountSweep.Proofs.Text.Utf8
import MountSweep.Proofs.Unicode.Lowercase

namespace MountSweep

open Unicode

namespace Environment

variable {env : Environment} {name value : String} {path : Path}

/-- The environment names a path for the service: a text that is not empty. -/
structure NamesService (env : Environment) (path : Path) : Prop where
  given : env.get? binaryVariable = some path
  isText : path.IsText
  ne_nil : path ≠ []

/-- A value says no if this, `false` or `0` is what is left of it without the white space around
it, capital letters of ASCII counting as small ones. -/
def SaysNo (value : String) : Prop :=
  ∃ core, Trimmed value.toList core ∧
    core.map Char.toLower ∈ ["no", "false", "0"].map String.toList

/-- The environment asks for the memory checker: its switch is a text that does not say no. -/
def RequestsChecker (env : Environment) : Prop :=
  ∃ value, env.get? valgrindVariable = some (Bytes.ofString value) ∧ ¬ SaysNo value

theorem isPlain_words : ∀ w ∈ ["no", "false", "0"].map String.toList, ∀ d ∈ w, IsPlain d := by
  have hall : (["no", "false", "0"].map String.toList).all (·.all (IsPlain ·)) := by decide
  intro w hw d hd
  exact of_decide_eq_true (List.all_eq_true.mp (List.all_eq_true.mp hall w hw) d hd)

theorem isTruthy_iff : isTruthy value = true ↔ ¬ SaysNo value := by
  have hlower : (trim value.toList).flatMap lower ∈ ["no", "false", "0"].map String.toList ↔
      (trim value.toList).map Char.toLower ∈ ["no", "false", "0"].map String.toList :=
    ⟨fun h ↦ (flatMap_lower_eq_iff (isPlain_words _ h)).mp rfl ▸ h,
      fun h ↦ (flatMap_lower_eq_iff (isPlain_words _ h)).mpr rfl ▸ h⟩
  have hno : SaysNo value ↔
      (trim value.toList).flatMap lower ∈ ["no", "false", "0"].map String.toList := by
    simp only [SaysNo, trimmed_iff, exists_eq_left, hlower]
  rw [hno, isTruthy, Bool.not_eq_true', Bool.eq_false_iff, ne_eq, List.contains_iff_mem]

theorem wantsValgrind_iff : env.wantsValgrind = true ↔ env.RequestsChecker := by
  simp only [RequestsChecker, ← text?_eq_some_iff, ← isTruthy_iff, wantsValgrind]
  cases env.text? valgrindVariable <;> simp

theorem namesService_of_text? (h : env.text? binaryVariable = some value) (hne : value ≠ "") :
    env.NamesService (Bytes.ofString value) where
  given := text?_eq_some_iff.mp h
  isText := ⟨value, rfl⟩
  ne_nil hnil := hne (by rw [← Bytes.display_ofString value, hnil]; rfl)

end Environment

namespace Config

variable {env : Environment} {c c' : Config} {path : Path}

theorem binary_override (h : env.NamesService path) :
    (override env c).service.binary = path := by
  obtain ⟨value, rfl⟩ := h.isText
  have hne : value ≠ "" := by
    rintro rfl
    exact h.ne_nil rfl
  simp only [override, Environment.text?_eq_some_iff.mpr h.given, if_neg hne]

theorem binary_override_of_not (h : ∀ path, ¬ env.NamesService path) :
    (override env c).service.binary = c.service.binary := by
  cases hvalue : env.text? Environment.binaryVariable with
  | none => simp only [override, hvalue]
  | some value =>
    obtain rfl : value = "" := by_contra fun hne ↦
      h _ (Environment.namesService_of_text? hvalue hne)
    simp only [override, hvalue, if_pos]

theorem wrapper_override (h : c.service.wrapper = [] ∧ env.RequestsChecker) :
    (override env c).service.wrapper = valgrindWrapper :=
  if_pos ⟨h.1, Environment.wantsValgrind_iff.mpr h.2⟩

theorem wrapper_override_of_not (h : ¬ (c.service.wrapper = [] ∧ env.RequestsChecker)) :
    (override env c).service.wrapper = c.service.wrapper :=
  if_neg fun hw ↦ h ⟨hw.1, Environment.wantsValgrind_iff.mp hw.2⟩

theorem override_eq (env : Environment) (c : Config) : override env c =
    { c with service := { c.service with
        binary := (override env c).service.binary
        wrapper := (override env c).service.wrapper } } := rfl

/-- The configuration has what the environment asks for. -/
structure Obeys (env : Environment) (c : Config) : Prop where
  binary {path : Path} (h : env.NamesService path) : c.service.binary = path
  wrapper (h : env.RequestsChecker) : c.service.wrapper ≠ []

theorem override_eq_self_iff : override env c = c ↔ Obeys env c := by
  constructor
  · intro h
    refine ⟨fun {path} hpath ↦ ?_, fun hchecker hnil ↦ ?_⟩
    · rw [← h]
      exact binary_override hpath
    · have hwrapper := wrapper_override ⟨hnil, hchecker⟩
      rw [h, hnil] at hwrapper
      cases hwrapper
  · intro h
    have hbinary : (override env c).service.binary = c.service.binary := by
      by_cases hnames : ∃ path, env.NamesService path
      · obtain ⟨path, hpath⟩ := hnames
        rw [binary_override hpath, h.binary hpath]
      · exact binary_override_of_not (not_exists.mp hnames)
    have hwrapper : (override env c).service.wrapper = c.service.wrapper :=
      wrapper_override_of_not fun hw ↦ h.wrapper hw.2 hw.1
    rw [override_eq, hbinary, hwrapper]

theorem obeys_override (env : Environment) (c : Config) : Obeys env (override env c) where
  binary := binary_override
  wrapper hchecker := by
    by_cases hnil : c.service.wrapper = []
    · rw [wrapper_override ⟨hnil, hchecker⟩]
      decide
    · rwa [wrapper_override_of_not fun hw ↦ hnil hw.1]

theorem obeys_of_ofText? {text : String} (h : ofText? env text = .ok c) : Obeys env c := by
  obtain ⟨_, -, h⟩ := bind_eq_ok_iff.mp h
  obtain ⟨c', -, h⟩ := bind_eq_ok_iff.mp h
  cases h
  exact obeys_override env c'

theorem obeys_of_read? {files : Posix.FileSystem} (h : read? env files path = .ok c) :
    Obeys env c := by
  unfold read? ofFile? at h
  cases hcontent : files.contentOf path with
  | error e =>
    rw [hcontent] at h
    cases h
  | ok bytes =>
    simp only [hcontent] at h
    cases htext : bytes.toString? with
    | none =>
      rw [htext] at h
      cases h
    | some text =>
      rw [htext] at h
      exact obeys_of_ofText? h

theorem obeys_of_load? {files : Posix.FileSystem} (h : load? env files = .ok c) : Obeys env c := by
  unfold load? at h
  cases hpath : env.get? Environment.configVariable with
  | none =>
    rw [hpath] at h
    cases h
    exact obeys_override env {}
  | some path =>
    simp only [hpath] at h
    cases hread : read? env files path with
    | error e =>
      rw [hread] at h
      cases h
    | ok c' =>
      rw [hread] at h
      cases h
      exact obeys_of_read? hread

/-- A path that the environment names replaces that of the service, and the memory checker becomes
the wrapper if it is asked for and there is no wrapper; all else stays. To override twice is to
override once, and what is left alone are the configurations that obey. The built-in configuration,
that of any text, that of any file, and that of the file which the environment names are such. -/
theorem overrides_obeyed (env : Environment) (c : Config) :
    (∀ path, env.NamesService path → (override env c).service.binary = path) ∧
    ((∀ path, ¬ env.NamesService path) →
      (override env c).service.binary = c.service.binary) ∧
    (c.service.wrapper = [] ∧ env.RequestsChecker →
      (override env c).service.wrapper = valgrindWrapper) ∧
    (¬ (c.service.wrapper = [] ∧ env.RequestsChecker) →
      (override env c).service.wrapper = c.service.wrapper) ∧
    (∃ binary wrapper, override env c =
      { c with service := { c.service with binary := binary, wrapper := wrapper } }) ∧
    (c.service.wrapper ≠ [] → (override env c).service.wrapper = c.service.wrapper) ∧
    override env (override env c) = override env c ∧
    (override env c = c ↔ Obeys env c) ∧
    override env (builtIn env) = builtIn env ∧
    (∀ text c', ofText? env text = .ok c' → override env c' = c') ∧
    (∀ files path c', read? env files path = .ok c' → override env c' = c') ∧
    ∀ files c', load? env files = .ok c' → override env c' = c' := by
  refine ⟨fun _ ↦ binary_override, binary_override_of_not, wrapper_override,
    wrapper_override_of_not, ⟨_, _, override_eq env c⟩, fun hne ↦ ?_,
    override_eq_self_iff.mpr (obeys_override env c), override_eq_self_iff,
    override_eq_self_iff.mpr (obeys_override env {}), fun text c' h ↦ ?_,
    fun files path c' h ↦ ?_, fun files c' h ↦ ?_⟩
  · exact wrapper_override_of_not fun hw ↦ hne hw.1
  · exact override_eq_self_iff.mpr (obeys_of_ofText? h)
  · exact override_eq_self_iff.mpr (obeys_of_read? h)
  · exact override_eq_self_iff.mpr (obeys_of_load? h)

/-- The white space may be any, but the long s is no `s`. -/
example : Environment.isTruthy "\u2003fALSe\t" = false ∧
    Environment.isTruthy "fal\u017fe" = true := by decide +kernel

end Config

end MountSweep
