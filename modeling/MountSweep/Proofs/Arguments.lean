import Mathlib.Data.List.Induction
import MountSweep.CommandLine

namespace MountSweep.CommandLine

inductive Part
  | filter (pattern : String)
  | list
  | config (path : String)
  | help (spelling : String)
  | unknown (option : String)
  | openFilter
  deriving DecidableEq

namespace Part

def words : Part → List String
  | filter pattern => ["--filter", pattern]
  | list => ["--list"]
  | config path => [path]
  | help spelling => [spelling]
  | unknown option => [option]
  | openFilter => ["--filter"]

def path? : Part → Option String
  | config path => some path
  | _ => none

def pattern? : Part → Option String
  | filter pattern => some pattern
  | _ => none

def isPlain : Part → Bool
  | filter _ | list | config _ => true
  | help _ | unknown _ | openFilter => false

end Part

/-- How arguments are split into parts, from left to right. -/
inductive Splits : List String → List Part → Prop
  | nil : Splits [] []
  | filter {args : List String} {us : List Part} (pattern : String) (h : Splits args us) :
      Splits ("--filter" :: pattern :: args) (.filter pattern :: us)
  | openFilter : Splits ["--filter"] [.openFilter]
  | list {arg : String} {args : List String} {us : List Part} (harg : arg = "--list")
      (h : Splits args us) : Splits (arg :: args) (.list :: us)
  | help {arg : String} {args : List String} {us : List Part} (harg : arg ∈ ["-h", "--help"])
      (h : Splits args us) : Splits (arg :: args) (.help arg :: us)
  | unknown {arg : String} {args : List String} {us : List Part}
      (hdash : arg.toList.head? = some '-') (harg : arg ∉ ["-h", "--help", "--list", "--filter"])
      (h : Splits args us) : Splits (arg :: args) (.unknown arg :: us)
  | config {arg : String} {args : List String} {us : List Part}
      (hdash : arg.toList.head? ≠ some '-') (h : Splits args us) :
      Splits (arg :: args) (.config arg :: us)

def pathsOf (us : List Part) : List String := us.filterMap Part.path?

def patternsOf (us : List Part) : List String := us.filterMap Part.pattern?

def asked (us : List Part) : Arguments :=
  { config := (pathsOf us).head?, filters := patternsOf us, list := decide (.list ∈ us) }

structure Sound (us : List Part) : Prop where
  plain : ∀ u ∈ us, u.isPlain
  once : (pathsOf us).length ≤ 1

/-- A part that offends behind others, and what the arguments come to for it. -/
inductive Offends (before : List Part) : Part → Except Misuse Request → Prop
  | help (spelling : String) : Offends before (.help spelling) (.ok .help)
  | unknown (option : String) : Offends before (.unknown option) (.error (.unknownOption option))
  | openFilter : Offends before .openFilter (.error .filterWithoutPattern)
  | secondConfig (path : String) (h : pathsOf before ≠ []) :
      Offends before (.config path) (.error .secondConfig)

variable {args rest : List String} {us us' before after : List Part} {u : Part}
  {r : Except Misuse Request} {a : Arguments} {arg : String}

def partOf (arg : String) : Part :=
  if arg ∈ ["-h", "--help"] then .help arg
  else if arg = "--list" then .list
  else if arg.toList.head? = some '-' then .unknown arg
  else .config arg

theorem splits_cons_iff (hfilter : arg ≠ "--filter") :
    Splits (arg :: args) us ↔ ∃ us', us = partOf arg :: us' ∧ Splits args us' := by
  constructor
  · intro h
    cases h with
    | filter | openFilter => exact absurd rfl hfilter
    | list harg h => exact ⟨_, by rw [harg]; rfl, h⟩
    | help harg h => exact ⟨_, by rw [partOf, if_pos harg], h⟩
    | unknown hdash harg h =>
      simp only [List.mem_cons, List.not_mem_nil, or_false, not_or] at harg
      exact ⟨_, by simp [partOf, harg, hdash], h⟩
    | config hdash h =>
      have hhelp : arg ∉ ["-h", "--help"] := by
        rintro harg
        simp only [List.mem_cons, List.not_mem_nil, or_false] at harg
        rcases harg with rfl | rfl <;> exact hdash rfl
      have hlist : arg ≠ "--list" := by
        rintro rfl
        exact hdash rfl
      exact ⟨_, by rw [partOf, if_neg hhelp, if_neg hlist, if_neg hdash], h⟩
  · rintro ⟨us', rfl, h⟩
    unfold partOf
    split_ifs with hhelp hlist hdash
    · exact .help hhelp h
    · exact .list hlist h
    · refine .unknown hdash ?_ h
      simp only [List.mem_cons, List.not_mem_nil, or_false, not_or] at hhelp ⊢
      exact ⟨hhelp.1, hhelp.2, hlist, hfilter⟩
    · exact .config hdash h

theorem splits_openFilter_iff : Splits ["--filter"] us ↔ us = [.openFilter] := by
  constructor
  · intro h
    cases h with
    | openFilter => rfl
    | list harg => exact absurd harg (by decide)
    | help harg => exact absurd harg (by decide)
    | unknown _ harg => exact absurd harg (by decide)
    | config hdash => exact absurd rfl hdash
  · rintro rfl
    exact .openFilter

theorem splits_filter_iff {pattern : String} : Splits ("--filter" :: pattern :: args) us ↔
    ∃ us', us = .filter pattern :: us' ∧ Splits args us' := by
  constructor
  · intro h
    cases h with
    | filter _ h => exact ⟨_, rfl, h⟩
    | list harg => exact absurd harg (by decide)
    | help harg => exact absurd harg (by decide)
    | unknown _ harg => exact absurd harg (by decide)
    | config hdash => exact absurd rfl hdash
  · rintro ⟨us', rfl, h⟩
    exact .filter pattern h

theorem existsUnique_splits : ∀ args : List String, ∃! us, Splits args us
  | [] => ⟨[], .nil, fun us h ↦ by cases h; rfl⟩
  | arg :: args => by
    by_cases hfilter : arg = "--filter"
    · subst hfilter
      cases args with
      | nil => exact ⟨_, .openFilter, fun _ ↦ splits_openFilter_iff.mp⟩
      | cons pattern args =>
        obtain ⟨us, h, hunique⟩ := existsUnique_splits args
        refine ⟨_, .filter pattern h, fun us' h' ↦ ?_⟩
        obtain ⟨us'', rfl, h''⟩ := splits_filter_iff.mp h'
        rw [hunique us'' h'']
    · obtain ⟨us, h, hunique⟩ := existsUnique_splits args
      refine ⟨_, (splits_cons_iff hfilter).mpr ⟨us, rfl, h⟩, fun us' h' ↦ ?_⟩
      obtain ⟨us'', rfl, h''⟩ := (splits_cons_iff hfilter).mp h'
      rw [hunique us'' h'']

theorem Splits.flatMap_words (h : Splits args us) : us.flatMap Part.words = args := by
  induction h <;> simp_all [Part.words]

/-- A part of some arguments, unless it is an open filter, may stand before any others. -/
theorem Splits.cons_of_mem (h : Splits args us) (hu : u ∈ us) (hplain : u.isPlain)
    (h' : Splits rest us') : Splits (u.words ++ rest) (u :: us') := by
  induction h with
  | nil => cases hu
  | filter pattern _ ih =>
    rcases List.mem_cons.mp hu with rfl | hu
    · exact .filter pattern h'
    · exact ih hu
  | config hdash _ ih =>
    rcases List.mem_cons.mp hu with rfl | hu
    · exact .config hdash h'
    · exact ih hu
  | list _ _ ih =>
    rcases List.mem_cons.mp hu with rfl | hu
    · exact .list rfl h'
    · exact ih hu
  | openFilter =>
    cases List.mem_singleton.mp hu
    cases hplain
  | help _ _ ih | unknown _ _ _ ih =>
    rcases List.mem_cons.mp hu with rfl | hu
    · cases hplain
    · exact ih hu

theorem Splits.of_subset (h : Splits args us) (hsub : us' ⊆ us) (hplain : ∀ u ∈ us', u.isPlain) :
    Splits (us'.flatMap Part.words) us' := by
  induction us' with
  | nil => exact .nil
  | cons u us' ih =>
    obtain ⟨hu, hsub⟩ := List.cons_subset.mp hsub
    obtain ⟨hplain, hplains⟩ := List.forall_mem_cons.mp hplain
    rw [List.flatMap_cons]
    exact h.cons_of_mem hu hplain (ih hsub hplains)

@[simp] theorem pathsOf_append (us us' : List Part) :
    pathsOf (us ++ us') = pathsOf us ++ pathsOf us' := List.filterMap_append

@[simp] theorem patternsOf_append (us us' : List Part) :
    patternsOf (us ++ us') = patternsOf us ++ patternsOf us' := List.filterMap_append

@[simp] theorem pathsOf_singleton (u : Part) : pathsOf [u] = u.path?.toList := by cases u <;> rfl

@[simp] theorem patternsOf_singleton (u : Part) : patternsOf [u] = u.pattern?.toList := by
  cases u <;> rfl

theorem sound_nil : Sound [] := ⟨nofun, Nat.zero_le 1⟩

theorem exists_offends (h : u.isPlain = false) : ∃ r, Offends before u r := by
  cases u with
  | help spelling => exact ⟨_, .help spelling⟩
  | unknown option => exact ⟨_, .unknown option⟩
  | openFilter => exact ⟨_, .openFilter⟩
  | filter | list | config => cases h

theorem sound_concat_iff : Sound (us ++ [u]) ↔ Sound us ∧ ∀ r, ¬ Offends us u r := by
  constructor
  · rintro ⟨hplain, honce⟩
    obtain ⟨hplain, hu⟩ := List.forall_mem_append.mp hplain
    rw [pathsOf_append, List.length_append] at honce
    refine ⟨⟨hplain, by omega⟩, ?_⟩
    rintro r (s | o | - | ⟨path, hpath⟩)
    · exact nomatch hu (.help s) List.mem_cons_self
    · exact nomatch hu (.unknown o) List.mem_cons_self
    · exact nomatch hu .openFilter List.mem_cons_self
    · have hpos := List.length_pos_iff.mpr hpath
      have hone : (pathsOf [.config path]).length = 1 := rfl
      omega
  · rintro ⟨⟨hplain, honce⟩, hu⟩
    constructor
    · refine List.forall_mem_append.mpr ⟨hplain, fun v hv ↦ ?_⟩
      cases List.mem_singleton.mp hv
      by_contra hplain
      have hoffends : ∃ r, Offends us u r := exists_offends (Bool.eq_false_iff.mpr hplain)
      obtain ⟨r, hr⟩ := hoffends
      exact hu r hr
    · cases u with
      | config path =>
        have hnone : pathsOf us = [] := by_contra fun h ↦ hu _ (.secondConfig path h)
        rw [pathsOf_append, hnone]
        exact Nat.le_refl 1
      | _ =>
        rw [pathsOf_append, List.length_append]
        exact honce

theorem sound_or_offends (us : List Part) :
    Sound us ∨ ∃ before u after r, us = before ++ u :: after ∧ Sound before ∧
      Offends before u r := by
  induction us using List.reverseRecOn with
  | nil => exact .inl sound_nil
  | append_singleton us u ih =>
    rcases ih with hsound | ⟨before, u', after, r, rfl, hbefore, hu⟩
    · by_cases hu : ∃ r, Offends us u r
      · obtain ⟨r, hu⟩ := hu
        exact .inr ⟨us, u, [], r, rfl, hsound, hu⟩
      · exact .inl (sound_concat_iff.mpr ⟨hsound, not_exists.mp hu⟩)
    · exact .inr ⟨before, u', after ++ [u], r, by simp, hbefore, hu⟩

theorem parseFrom_cons (hfilter : arg ≠ "--filter") : parseFrom a (arg :: args) =
    if arg = "-h" ∨ arg = "--help" then .ok .help
    else if arg = "--list" then parseFrom { a with list := true } args
    else if arg.toList.head? = some '-' then .error (.unknownOption arg)
    else if a.config.isSome then .error .secondConfig
    else parseFrom { a with config := some arg } args := by
  rw [parseFrom]
  · exact fun h _ ↦ hfilter h
  · exact fun _ _ h _ ↦ hfilter h

theorem parseFrom_help (harg : arg ∈ ["-h", "--help"]) : parseFrom a (arg :: args) = .ok .help := by
  have hor : arg = "-h" ∨ arg = "--help" := by simpa using harg
  have hfilter : arg ≠ "--filter" := by
    rintro rfl
    exact absurd harg (by decide)
  rw [parseFrom_cons hfilter, if_pos hor]

theorem parseFrom_unknown (hdash : arg.toList.head? = some '-')
    (harg : arg ∉ ["-h", "--help", "--list", "--filter"]) :
    parseFrom a (arg :: args) = .error (.unknownOption arg) := by
  simp only [List.mem_cons, List.not_mem_nil, or_false, not_or] at harg
  rw [parseFrom_cons harg.2.2.2, if_neg (not_or.mpr ⟨harg.1, harg.2.1⟩), if_neg harg.2.2.1,
    if_pos hdash]

theorem parseFrom_path (hdash : arg.toList.head? ≠ some '-') : parseFrom a (arg :: args) =
    if a.config.isSome then .error .secondConfig
    else parseFrom { a with config := some arg } args := by
  have hne (option : String) (h : option.toList.head? = some '-') : arg ≠ option := by
    rintro rfl
    exact hdash h
  rw [parseFrom_cons (hne _ rfl), if_neg (not_or.mpr ⟨hne _ rfl, hne _ rfl⟩), if_neg (hne _ rfl),
    if_neg hdash]

theorem parseFrom_of_sound (h : Splits args (u :: us)) (hsound : Sound (before ++ [u])) :
    ∃ rest, Splits rest us ∧
      parseFrom (asked before) args = parseFrom (asked (before ++ [u])) rest := by
  obtain ⟨-, hu⟩ := sound_concat_iff.mp hsound
  cases h with
  | filter pattern h =>
    refine ⟨_, h, ?_⟩
    rw [parseFrom]
    simp [asked, Part.path?, Part.pattern?]
  | openFilter => exact absurd .openFilter (hu _)
  | list harg h =>
    refine ⟨_, h, ?_⟩
    rw [parseFrom_cons (by rw [harg]; decide), if_neg (by rw [harg]; decide), if_pos harg]
    simp [asked, Part.path?, Part.pattern?]
  | help _ h => exact absurd (.help _) (hu _)
  | unknown _ _ h => exact absurd (.unknown _) (hu _)
  | config hdash h =>
    have hnone : pathsOf before = [] := by_contra fun h ↦ hu _ (.secondConfig _ h)
    refine ⟨_, h, ?_⟩
    rw [parseFrom_path hdash, if_neg (by simp [asked, hnone])]
    simp [asked, hnone, Part.path?, Part.pattern?]

theorem parseFrom_of_offends (h : Splits args (u :: us)) (hu : Offends before u r) :
    parseFrom (asked before) args = r := by
  cases hu with
  | help =>
    cases h with
    | help harg => exact parseFrom_help harg
  | unknown =>
    cases h with
    | unknown hdash harg => exact parseFrom_unknown hdash harg
  | openFilter =>
    cases h with
    | openFilter => rfl
  | secondConfig _ hpaths =>
    cases h with
    | config hdash =>
      have hsome : (asked before).config.isSome := by
        simpa [asked, List.isSome_head?] using hpaths
      rw [parseFrom_path hdash, if_pos hsome]

theorem parse_of_sound_append (hsound : Sound before) : ∀ {us}, Splits args (before ++ us) →
    ∃ rest, Splits rest us ∧ parse args = parseFrom (asked before) rest := by
  induction before using List.reverseRecOn with
  | nil => exact fun h ↦ ⟨args, h, rfl⟩
  | append_singleton before u ih =>
    intro us h
    rw [List.append_assoc] at h
    obtain ⟨rest, hrest, heq⟩ := ih (sound_concat_iff.mp hsound).1 h
    obtain ⟨rest', hrest', heq'⟩ := parseFrom_of_sound hrest hsound
    exact ⟨rest', hrest', heq.trans heq'⟩

theorem parse_of_sound (h : Splits args us) (hsound : Sound us) :
    parse args = .ok (.sweep (asked us)) := by
  obtain ⟨rest, hrest, heq⟩ := parse_of_sound_append hsound ((List.append_nil us).symm ▸ h)
  cases hrest
  exact heq

theorem parse_of_offends (h : Splits args (before ++ u :: after)) (hbefore : Sound before)
    (hu : Offends before u r) : parse args = r := by
  obtain ⟨rest, hrest, heq⟩ := parse_of_sound_append hbefore h
  exact heq.trans (parseFrom_of_offends hrest hu)

theorem Offends.ne_sweep (h : Offends before u r) (a : Arguments) : r ≠ .ok (.sweep a) := by
  cases h <;> nofun

theorem parse_eq_sweep_iff (h : Splits args us) :
    parse args = .ok (.sweep a) ↔ Sound us ∧ a = asked us := by
  constructor
  · intro hparse
    rcases sound_or_offends us with hsound | ⟨before, u, after, r, rfl, hbefore, hu⟩
    · cases (parse_of_sound h hsound).symm.trans hparse
      exact ⟨hsound, rfl⟩
    · exact absurd ((parse_of_offends h hbefore hu).symm.trans hparse) (hu.ne_sweep a)
  · rintro ⟨hsound, rfl⟩
    exact parse_of_sound h hsound

theorem parse_eq_iff_offends (h : Splits args us) (hr : ∀ a, r ≠ .ok (.sweep a)) :
    parse args = r ↔
      ∃ before u after, us = before ++ u :: after ∧ Sound before ∧ Offends before u r := by
  constructor
  · intro hparse
    rcases sound_or_offends us with hsound | ⟨before, u, after, r', rfl, hbefore, hu⟩
    · exact absurd (hparse.symm.trans (parse_of_sound h hsound)) (hr _)
    · obtain rfl := (parse_of_offends h hbefore hu).symm.trans hparse
      exact ⟨before, u, after, rfl, hbefore, hu⟩
  · rintro ⟨before, u, after, rfl, hbefore, hu⟩
    exact parse_of_offends h hbefore hu

theorem Sound.perm (h : Sound us) (hperm : us'.Perm us) : Sound us' where
  plain u hu := h.plain u (hperm.subset hu)
  once := (hperm.filterMap Part.path?).length_eq ▸ h.once

theorem asked_perm (h : Sound us) (hperm : us'.Perm us)
    (hpatterns : patternsOf us' = patternsOf us) : asked us' = asked us := by
  have hpaths : pathsOf us' = pathsOf us := by
    have hp : (pathsOf us').Perm (pathsOf us) := hperm.filterMap Part.path?
    rcases hus : pathsOf us with _ | ⟨path, _ | ⟨path', paths⟩⟩
    · exact List.perm_nil.mp (hus ▸ hp)
    · exact List.perm_singleton.mp (hus ▸ hp)
    · have honce := hus ▸ h.once
      simp at honce
  simp only [asked, hpaths, hpatterns, hperm.mem_iff]

variable {σ : Type}

def shownLines (lines : List String) : Output.Captured :=
  ⟨[], lines.flatMap fun line ↦ Bytes.ofString (line ++ "\n")⟩

theorem run_of_help (host : SweepHost σ) (env : Environment) (s : σ) (h : parse args = .ok .help) :
    (run host env args).run s = (.ok 0, host.emit (shownLines usage) s) := by
  rw [run, h]
  exact Act.run_bind_eq_ok.mpr ⟨_, _, Act.run_tell _ s, rfl⟩

theorem run_of_misuse (host : SweepHost σ) (env : Environment) (s : σ) {m : Misuse}
    (h : parse args = .error m) :
    (run host env args).run s = (.ok 1, host.emit (shownLines (m.message :: usage)) s) := by
  rw [run, h]
  exact Act.run_bind_eq_ok.mpr ⟨_, _, Act.run_tell _ s, rfl⟩

/-- Arguments have parts in exactly one way. If these make sense, what they ask for is the path
among them, the patterns of the filters in order, and a listing if there is a part for it, so any
order of the parts that keeps that of the filters asks for the same. Otherwise the first part that
offends decides: for help the program shows how it is used and ends with success, and for anything
else it says what is wrong as well and fails. -/
theorem parse_decided_by_parts (host : SweepHost σ) (env : Environment) (args : List String)
    (s : σ) :
    ∃ us, Splits args us ∧ (∀ us', Splits args us' → us' = us) ∧
      us.flatMap Part.words = args ∧
      (∀ a, parse args = .ok (.sweep a) ↔ Sound us ∧ a = asked us) ∧
      (Sound us → ∀ us', us'.Perm us → patternsOf us' = patternsOf us →
        Splits (us'.flatMap Part.words) us' ∧ parse (us'.flatMap Part.words) = parse args) ∧
      (∀ r, (∀ a, r ≠ .ok (.sweep a)) → (parse args = r ↔
        ∃ before u after, us = before ++ u :: after ∧ Sound before ∧ Offends before u r)) ∧
      (parse args = .ok .help →
        (run host env args).run s = (.ok 0, host.emit (shownLines usage) s)) ∧
      ∀ m, parse args = .error m →
        (run host env args).run s = (.ok 1, host.emit (shownLines (m.message :: usage)) s) := by
  obtain ⟨us, h, hunique⟩ := existsUnique_splits args
  refine ⟨us, h, hunique, h.flatMap_words, fun a ↦ parse_eq_sweep_iff h,
    fun hsound us' hperm hpatterns ↦ ?_, fun r hr ↦ parse_eq_iff_offends h hr,
    run_of_help host env s, fun m ↦ run_of_misuse host env s⟩
  have hsound' := hsound.perm hperm
  have h' := h.of_subset hperm.subset hsound'.plain
  refine ⟨h', ?_⟩
  rw [parse_of_sound h' hsound', parse_of_sound h hsound, asked_perm hsound hperm hpatterns]

/-- A filter takes what is behind it, and help comes before what is wrong behind it. -/
example : parse ["--filter", "-h", "c.yaml", "--filter", "--list", "--help", "d.yaml", "-x"] =
    .ok .help := rfl

/-- What is wrong before help decides. -/
example : parse ["--filter", "--list", "c.yaml", "d.yaml", "--help"] = .error .secondConfig := rfl

end MountSweep.CommandLine
