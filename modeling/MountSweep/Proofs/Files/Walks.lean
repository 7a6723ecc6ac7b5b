import MountSweep.Proofs.Files.Paths

namespace MountSweep.Posix.FileSystem

variable {fs fs' : FileSystem} {follow : Bool} {links : Nat} {i j dir : Ino} {xs ys : List Bytes}
  {name : Bytes} {p : Path} {entries added : List (Bytes × Ino)} {stop : Stop}

theorem walkPlain_append (hys : ys ≠ []) :
    fs.walkPlain follow i (xs ++ ys) =
      match fs.walkPlain true i xs with
      | .error e => .error e
      | .ok (.arrived j) => fs.walkPlain follow j ys
      | .ok (.atLink dir target rest) => .ok (.atLink dir target (rest ++ ys)) := by
  induction xs generalizing i with
  | nil => rw [List.nil_append, walkPlain]
  | cons x xs ih =>
    rw [List.cons_append, walkPlain, walkPlain]
    split
    · by_cases hdot : x = dot
      · rw [if_pos hdot, if_pos hdot, ih]
      by_cases hdotDot : x = dotDot
      · rw [if_neg hdot, if_neg hdot, if_pos hdotDot, if_pos hdotDot, ih]
      by_cases hlong : maxName < x.length
      · rw [if_neg hdot, if_neg hdot, if_neg hdotDot, if_neg hdotDot, if_pos hlong, if_pos hlong]
      rw [if_neg hdot, if_neg hdot, if_neg hdotDot, if_neg hdotDot, if_neg hlong, if_neg hlong]
      split
      · rfl
      · split
        · simp [hys]
        · rw [ih]
    · rfl

/-- Where a walk goes on behind a link that lies in a directory. -/
def behindLink (dir : Ino) (r : Route) : Ino := if r.absolute then root else dir

/-- A walk arrives at once, or behind the first link that it meets. -/
inductive Arrives (fs : FileSystem) (follow : Bool) (j : Ino) : Nat → Ino → List Bytes → Prop
  | plain {links : Nat} {i : Ino} {xs : List Bytes}
      (hplain : fs.walkPlain follow i xs = .ok (.arrived j)) : Arrives fs follow j links i xs
  | linked {links : Nat} {i dir : Ino} {xs rest : List Bytes} {target : Bytes} {r : Route}
      (hplain : fs.walkPlain follow i xs = .ok (.atLink dir target rest))
      (hr : Route.ofPath target = .ok r)
      (h : Arrives fs follow j links (behindLink dir r) (r.steps ++ rest)) :
      Arrives fs follow j (links + 1) i xs

theorem arrives_of_walk (h : fs.walk follow links i xs = .ok j) :
    fs.Arrives follow j links i xs := by
  induction links generalizing i xs with
  | zero =>
    rw [walk] at h
    split at h
    · cases h
    · rename_i hplain
      cases h
      exact .plain hplain
    · cases h
  | succ links ih =>
    rw [walk] at h
    split at h
    · cases h
    · rename_i hplain
      cases h
      exact .plain hplain
    · rename_i hplain
      dsimp only at h
      split at h
      · cases h
      · rename_i hr
        exact .linked hplain hr (ih h)

theorem Arrives.walk_eq (h : fs.Arrives follow j links i xs) :
    fs.walk follow links i xs = .ok j := by
  induction h with
  | plain hplain => rw [walk.eq_def]; simp only [hplain]
  | linked hplain hr _ ih =>
    rw [walk]
    simp only [hplain, hr]
    exact ih

theorem walk_congr (h : fs.walkPlain follow i xs = fs.walkPlain follow j ys) :
    fs.walk follow links i xs = fs.walk follow links j ys := by
  rw [walk.eq_def, walk.eq_def]
  simp only [h]

theorem Arrives.exists_walk_append (h : fs.Arrives true j links i xs) (follow : Bool)
    (hys : ys ≠ []) :
    ∃ left, fs.walk follow links i (xs ++ ys) = fs.walk follow left j ys := by
  induction h with
  | @plain links i xs hplain =>
    refine ⟨links, walk_congr ?_⟩
    rw [walkPlain_append hys, hplain]
  | linked hplain hr _ ih =>
    obtain ⟨left, ih⟩ := ih
    refine ⟨left, ?_⟩
    rw [walk, walkPlain_append hys, hplain]
    simp only [hr]
    rwa [List.append_assoc] at ih

theorem walkPlain_dot_cases (h : fs.walkPlain follow i [dot] = .ok stop) : stop = .arrived i := by
  rw [walkPlain] at h
  split at h
  · rw [if_pos rfl, walkPlain] at h
    cases h
    rfl
  · cases h

theorem Arrives.of_append_dot (h : fs.Arrives true j links i (xs ++ [dot])) :
    fs.Arrives true j links i xs := by
  generalize hzs : xs ++ [dot] = zs at h
  induction h generalizing xs with
  | plain hplain =>
    subst hzs
    rw [walkPlain_append (List.cons_ne_nil _ _)] at hplain
    split at hplain
    · cases hplain
    · rename_i hfront
      cases walkPlain_dot_cases hplain
      exact .plain hfront
    · cases hplain
  | linked hplain hr _ ih =>
    subst hzs
    rw [walkPlain_append (List.cons_ne_nil _ _)] at hplain
    split at hplain
    · cases hplain
    · cases walkPlain_dot_cases hplain
    · rename_i hfront
      cases hplain
      exact .linked hfront hr (ih (List.append_assoc _ _ _))

theorem exists_dir_of_entries (h : fs.entries? dir = some entries) :
    ∃ n parent, fs.get? dir = some n ∧ n.node = .dir entries parent := by
  rw [entries?] at h
  split at h
  · rename_i hget
    cases h
    exact ⟨_, _, hget, rfl⟩
  · cases h

theorem entries_of_get {n : Inode} {parent : Ino} (h : fs.get? dir = some n)
    (hn : n.node = .dir entries parent) : fs.entries? dir = some entries := by
  obtain ⟨node⟩ := n
  subst hn
  rw [entries?, h]

theorem isDir_of_entries (h : fs.entries? dir = some entries) : fs.isDir dir :=
  Option.isSome_iff_exists.mpr ⟨entries, h⟩

theorem exists_entries_of_isDir (h : fs.isDir dir) : ∃ entries, fs.entries? dir = some entries :=
  Option.isSome_iff_exists.mp h

theorem child?_eq_lookup (h : fs.entries? dir = some entries) (name : Bytes) :
    fs.child? dir name = entries.lookup name := by
  rw [child?, h, Option.bind_some]

theorem walkPlain_missing (hdir : fs.isDir dir) (hn : IsName name)
    (hc : fs.child? dir name = none) : fs.walkPlain follow dir [name] = .error .noEntry := by
  obtain ⟨entries, hentries⟩ := exists_entries_of_isDir hdir
  rw [child?_eq_lookup hentries] at hc
  obtain ⟨⟨node⟩, parent, hget, hnode⟩ := exists_dir_of_entries hentries
  subst hnode
  rw [walkPlain, hget]
  simp only [if_neg hn.ne_dot, if_neg hn.ne_dotDot, if_neg (Nat.not_lt.mpr hn.length_le_maxName),
    hc]

theorem walkPlain_present (hdir : fs.isDir dir) (hn : IsName name)
    (hc : fs.child? dir name = some j)
    (hl : follow = true → ∀ n target, fs.get? j = some n → n.node ≠ .link target) :
    fs.walkPlain follow dir [name] = .ok (.arrived j) := by
  obtain ⟨entries, hentries⟩ := exists_entries_of_isDir hdir
  rw [child?_eq_lookup hentries] at hc
  obtain ⟨⟨node⟩, parent, hget, hnode⟩ := exists_dir_of_entries hentries
  subst hnode
  rw [walkPlain, hget]
  simp only [if_neg hn.ne_dot, if_neg hn.ne_dotDot, if_neg (Nat.not_lt.mpr hn.length_le_maxName),
    hc]
  split
  · rename_i hlink
    cases follow with
    | false => rfl
    | true => exact absurd rfl (hl rfl _ _ hlink)
  · rw [walkPlain]

theorem Route.ofPath_of_le (hne : p ≠ []) (hle : p.length ≤ maxPath) :
    Route.ofPath p = .ok ⟨p.isAbsolute, p.parts, p.getLast? = some Path.slash⟩ := by
  rw [Route.ofPath, if_neg hne, if_neg (Nat.not_lt.mpr hle)]

theorem Route.ofPath_cases {r : Route} (h : Route.ofPath p = .ok r) :
    p ≠ [] ∧ p.length ≤ maxPath ∧ r = ⟨p.isAbsolute, p.parts, p.getLast? = some Path.slash⟩ := by
  rw [Route.ofPath] at h
  split at h
  · cases h
  split at h
  · cases h
  · rename_i hne hle
    cases h
    exact ⟨hne, Nat.not_lt.mp hle, rfl⟩

theorem lookup_eq_walk {r : Route} (hr : Route.ofPath p = .ok r) :
    fs.lookup follow p = fs.walk follow maxLinks (fs.start r) r.steps := by
  rw [lookup, hr]
  rfl

theorem exists_route_of_lookup (h : fs.lookup follow p = .ok j) :
    ∃ r, Route.ofPath p = .ok r ∧ fs.walk follow maxLinks (fs.start r) r.steps = .ok j := by
  cases hr : Route.ofPath p with
  | error e =>
    rw [lookup, hr] at h
    cases h
  | ok r => exact ⟨r, rfl, (lookup_eq_walk hr).symm.trans h⟩

/-- A path leads to a directory, and up to `room` names can be put behind it. -/
structure Leads (fs : FileSystem) (p : Path) (room : Nat) (dir : Ino) : Prop where
  zero_notMem : 0 ∉ p
  length_le : p.length + room * nameRoom ≤ maxPath
  lookup_eq : fs.lookup true p = .ok dir
  isDir : fs.isDir dir

/-- A path ends at the entry of a name in a directory. -/
structure Names (fs : FileSystem) (p : Path) (dir : Ino) (name : Bytes) : Prop where
  isName : IsName name
  isDir : fs.isDir dir
  zero_notMem : 0 ∉ p
  above : ∃ absolute parts, Route.ofPath p = .ok ⟨absolute, parts ++ [name], false⟩ ∧
    fs.Arrives true dir maxLinks (if absolute then root else fs.cwd) parts

theorem arrives_of_lookup (h : fs.lookup true p = .ok dir) :
    p ≠ [] ∧ fs.Arrives true dir maxLinks (if p.isAbsolute then root else fs.cwd) p.parts := by
  obtain ⟨r, hr, hwalk⟩ := exists_route_of_lookup h
  obtain ⟨hne, -, rfl⟩ := Route.ofPath_cases hr
  refine ⟨hne, ?_⟩
  have harrives := arrives_of_walk hwalk
  rw [Route.steps] at harrives
  split at harrives
  · exact harrives.of_append_dot
  · exact harrives

theorem names_of_lookup (hz : 0 ∉ p) (hl : fs.lookup true p = .ok dir) (hd : fs.isDir dir)
    (hn : IsName name) (hle : (p.join name).length ≤ maxPath) :
    fs.Names (p.join name) dir name where
  isName := hn
  isDir := hd
  zero_notMem := hn.zero_notMem_join (arrives_of_lookup hl).1 hz
  above := by
    obtain ⟨hne, harrives⟩ := arrives_of_lookup hl
    refine ⟨p.isAbsolute, p.parts, ?_, harrives⟩
    rw [Route.ofPath_of_le (hn.join_ne_nil hne) hle, hn.parts_join hne, hn.isAbsolute_join hne,
      decide_eq_false (hn.getLast?_join hne)]

theorem Leads.ne_nil {room : Nat} (h : fs.Leads p room dir) : p ≠ [] :=
  (arrives_of_lookup h.lookup_eq).1

theorem Leads.length_join_le {room : Nat} (h : fs.Leads p (room + 1) dir) (hn : IsName name) :
    (p.join name).length + room * nameRoom ≤ maxPath := by
  have hlength := hn.length_join_le h.ne_nil
  have hle := h.length_le
  rw [Nat.add_one_mul] at hle
  omega

theorem Leads.names {room : Nat} (h : fs.Leads p (room + 1) dir) (hn : IsName name) :
    fs.Names (p.join name) dir name :=
  names_of_lookup h.zero_notMem h.lookup_eq h.isDir hn
    (Nat.le_of_add_right_le (h.length_join_le hn))

theorem Names.lookup_eq (h : fs.Names p dir name) {result : Except Errno Ino}
    (hr : ∀ links, fs.walk follow links dir [name] = result) : fs.lookup follow p = result := by
  obtain ⟨absolute, parts, hroute, harrives⟩ := h.above
  obtain ⟨left, hwalk⟩ := harrives.exists_walk_append follow (List.cons_ne_nil name [])
  exact (lookup_eq_walk hroute).trans (hwalk.trans (hr left))

theorem Names.lookup_missing (h : fs.Names p dir name) (hc : fs.child? dir name = none) :
    fs.lookup follow p = .error .noEntry :=
  h.lookup_eq fun links ↦ by
    rw [walk.eq_def]
    simp only [walkPlain_missing h.isDir h.isName hc]

theorem Names.lookup_present (h : fs.Names p dir name) (hc : fs.child? dir name = some j)
    (hl : follow = true → ∀ n target, fs.get? j = some n → n.node ≠ .link target) :
    fs.lookup follow p = .ok j :=
  h.lookup_eq fun _ ↦ (Arrives.plain (walkPlain_present h.isDir h.isName hc hl)).walk_eq

theorem Names.place_eq (h : fs.Names p dir name) : fs.place p = .ok ⟨dir, .name name, false⟩ := by
  obtain ⟨absolute, parts, hroute, harrives⟩ := h.above
  have hn := h.isName
  rw [place, hroute]
  simp only [bind, Except.bind, placeFrom, List.getLast?_concat, List.dropLast_concat, start,
    harrives.walk_eq, h.isDir, if_neg hn.ne_dot, if_neg hn.ne_dotDot,
    if_neg (Nat.not_lt.mpr hn.length_le_maxName)]
  rfl

theorem Leads.join {room : Nat} (h : fs.Leads p (room + 1) dir) (hn : IsName name)
    (hc : fs.child? dir name = some j) (hj : fs.isDir j) : fs.Leads (p.join name) room j where
  zero_notMem := hn.zero_notMem_join h.ne_nil h.zero_notMem
  length_le := h.length_join_le hn
  lookup_eq := (h.names hn).lookup_present hc fun _ n target hget hlink ↦ by
    obtain ⟨entries, hentries⟩ := exists_entries_of_isDir hj
    obtain ⟨n', parent, hget', hnode⟩ := exists_dir_of_entries hentries
    rw [hget'] at hget
    cases hget
    rw [hnode] at hlink
    cases hlink
  isDir := hj

/-- A node with, possibly, further entries or other contents. -/
inductive NodeExtends : Node → Node → Prop
  | refl (n : Node) : NodeExtends n n
  | dir (entries added : List (Bytes × Ino)) (parent : Ino) :
      NodeExtends (.dir entries parent) (.dir (entries ++ added) parent)
  | file (content content' : Bytes) : NodeExtends (.file content) (.file content')

namespace NodeExtends

variable {node node' : Node} {parent : Ino} {target : Bytes}

theorem exists_added (h : NodeExtends (.dir entries parent) node) :
    ∃ added, node = .dir (entries ++ added) parent := by
  cases h with
  | refl => exact ⟨[], by rw [List.append_nil]⟩
  | dir _ added => exact ⟨added, rfl⟩

theorem eq_link_iff (h : NodeExtends node node') : node' = .link target ↔ node = .link target := by
  cases h with
  | refl => rfl
  | dir | file => simp

theorem trans {node'' : Node} (h : NodeExtends node node') (h' : NodeExtends node' node'') :
    NodeExtends node node'' := by
  cases h with
  | refl => exact h'
  | dir entries added parent =>
    obtain ⟨added', rfl⟩ := h'.exists_added
    rw [List.append_assoc]
    exact .dir entries (added ++ added') parent
  | file content =>
    cases h' with
    | refl content' | file _ content' => exact .file content _

end NodeExtends

/-- What there is stays, but directories may get further entries and files other contents. -/
structure LeadsOn (fs fs' : FileSystem) : Prop where
  cwd_eq : fs'.cwd = fs.cwd
  extends_of_get : ∀ i n, fs.get? i = some n →
    ∃ n', fs'.get? i = some n' ∧ NodeExtends n.node n'.node

theorem LeadsOn.refl (fs : FileSystem) : fs.LeadsOn fs := ⟨rfl, fun _ n hn ↦ ⟨n, hn, .refl _⟩⟩

theorem LeadsOn.trans {fs'' : FileSystem} (h : fs.LeadsOn fs') (h' : fs'.LeadsOn fs'') :
    fs.LeadsOn fs'' where
  cwd_eq := h'.cwd_eq.trans h.cwd_eq
  extends_of_get i n hn := by
    obtain ⟨n', hn', hext⟩ := h.extends_of_get i n hn
    obtain ⟨n'', hn'', hext'⟩ := h'.extends_of_get i n' hn'
    exact ⟨n'', hn'', hext.trans hext'⟩

theorem isSome_get_of_walkPlain (h : fs.walkPlain follow i xs = .ok stop)
    (hstop : ∀ j, stop = .arrived j → (fs.get? j).isSome) : (fs.get? i).isSome := by
  cases xs with
  | nil =>
    rw [walkPlain] at h
    cases h
    exact hstop i rfl
  | cons x xs =>
    rw [walkPlain] at h
    split at h
    · rename_i hget
      rw [hget]
      rfl
    · cases h

theorem LeadsOn.walkPlain_eq (hg : fs.LeadsOn fs') (h : fs.walkPlain follow i xs = .ok stop)
    (hstop : ∀ j, stop = .arrived j → (fs.get? j).isSome) :
    fs'.walkPlain follow i xs = .ok stop := by
  induction xs generalizing i with
  | nil => rwa [walkPlain] at h ⊢
  | cons x xs ih =>
    rw [walkPlain] at h
    split at h
    · rename_i entries parent _ _ _ _ _ _ _ _ hget
      obtain ⟨⟨node'⟩, hget', hext⟩ := hg.extends_of_get _ _ hget
      obtain ⟨added, rfl⟩ := hext.exists_added
      rw [walkPlain, hget']
      dsimp only
      by_cases hdot : x = dot
      · rw [if_pos hdot] at h ⊢
        exact ih h
      by_cases hdotDot : x = dotDot
      · rw [if_neg hdot, if_pos hdotDot] at h ⊢
        exact ih h
      by_cases hlong : maxName < x.length
      · rw [if_neg hdot, if_neg hdotDot, if_pos hlong] at h
        cases h
      rw [if_neg hdot, if_neg hdotDot, if_neg hlong] at h ⊢
      split at h
      · cases h
      rename_i j hj
      rw [List.lookup_append, hj, Option.some_or]
      dsimp only
      split at h
      · rename_i hlink
        obtain ⟨⟨node''⟩, hlink', hext'⟩ := hg.extends_of_get _ _ hlink
        obtain rfl := hext'.eq_link_iff.mpr rfl
        rw [hlink']
        exact h
      · rename_i hlink
        obtain ⟨⟨node⟩, hm⟩ := Option.isSome_iff_exists.mp (isSome_get_of_walkPlain h hstop)
        obtain ⟨⟨node''⟩, hm', hext'⟩ := hg.extends_of_get _ _ hm
        rw [hm']
        split
        · rename_i heq
          cases heq
          cases hext'.eq_link_iff.mp rfl
          exact absurd hm (hlink _ _ _ _ _ _ _ _ _)
        · exact ih h
    · cases h

theorem LeadsOn.arrives (hg : fs.LeadsOn fs') (h : fs.Arrives follow j links i xs)
    (hj : (fs.get? j).isSome) : fs'.Arrives follow j links i xs := by
  induction h with
  | plain hplain => exact .plain (hg.walkPlain_eq hplain (by rintro _ ⟨⟩; exact hj))
  | linked hplain hr _ ih => exact .linked (hg.walkPlain_eq hplain nofun) hr ih

theorem LeadsOn.lookup_eq (hg : fs.LeadsOn fs') (h : fs.lookup follow p = .ok j)
    (hj : (fs.get? j).isSome) : fs'.lookup follow p = .ok j := by
  obtain ⟨r, hr, hwalk⟩ := exists_route_of_lookup h
  rw [lookup_eq_walk hr, start, hg.cwd_eq]
  exact (hg.arrives (arrives_of_walk hwalk) hj).walk_eq

theorem isSome_get_of_isDir (h : fs.isDir dir) : (fs.get? dir).isSome := by
  obtain ⟨entries, hentries⟩ := exists_entries_of_isDir h
  obtain ⟨n, parent, hget, -⟩ := exists_dir_of_entries hentries
  rw [hget]
  rfl

theorem LeadsOn.isDir (hg : fs.LeadsOn fs') (h : fs.isDir dir) : fs'.isDir dir := by
  obtain ⟨entries, hentries⟩ := exists_entries_of_isDir h
  obtain ⟨⟨node⟩, parent, hget, hnode⟩ := exists_dir_of_entries hentries
  subst hnode
  obtain ⟨⟨node'⟩, hget', hext⟩ := hg.extends_of_get _ _ hget
  obtain ⟨added, rfl⟩ := hext.exists_added
  exact isDir_of_entries (entries_of_get hget' rfl)

theorem LeadsOn.leads {room : Nat} (hg : fs.LeadsOn fs') (h : fs.Leads p room dir) :
    fs'.Leads p room dir where
  zero_notMem := h.zero_notMem
  length_le := h.length_le
  lookup_eq := hg.lookup_eq h.lookup_eq (isSome_get_of_isDir h.isDir)
  isDir := hg.isDir h.isDir

theorem LeadsOn.names (hg : fs.LeadsOn fs') (h : fs.Names p dir name) : fs'.Names p dir name where
  isName := h.isName
  isDir := hg.isDir h.isDir
  zero_notMem := h.zero_notMem
  above := by
    obtain ⟨absolute, parts, hroute, harrives⟩ := h.above
    refine ⟨absolute, parts, hroute, ?_⟩
    rw [hg.cwd_eq]
    exact hg.arrives harrives (isSome_get_of_isDir h.isDir)

/-- What there is stays, and only directories may get further entries. -/
structure Grows (fs fs' : FileSystem) : Prop extends fs.LeadsOn fs' where
  kept : ∀ i n n', fs.get? i = some n → (∀ entries parent, n.node ≠ .dir entries parent) →
    fs'.get? i = some n' → n'.node = n.node

end MountSweep.Posix.FileSystem
