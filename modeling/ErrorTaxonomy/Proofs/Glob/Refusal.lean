import ErrorTaxonomy.Main.Glob.Search
import ErrorTaxonomy.Proofs.Traversal

/-! # Refused searches — why the search that the program brings along gives an error

A search is refused as a whole when its pattern is malformed (`Glob.search_eq_error_iff`). Otherwise it
gives paths only, or it comes to a directory that cannot be listed, and says which and why
(`Glob.search_eq_ok_iff`). -/

namespace ErrorTaxonomy.Glob

variable {fs : FileSystem} {directory : Bool} {u : Unlistable}

/-! ## Following -/

/-- What is told of a directory that **cannot be listed** is so: opening it fails with that error. -/
def Unlistable.Holds (fs : FileSystem) (u : Unlistable) : Prop := fs.openDir u.path = .error u.error

/-- What cannot be opened cannot be listed. -/
theorem holds_of_opened {path : String} (h : opened fs path = .error u) : u.Holds fs := by
  obtain ⟨error, hopen, rfl⟩ := mapError_eq_error_iff.1 h
  exact hopen

/-- The check of a place fails only at a directory that cannot be listed. -/
theorem holds_of_check {p : Place} (h : p.check fs = .error u) : u.Holds fs := by
  rw [Place.check] at h
  by_cases hdir : p.isDir
  · rw [if_pos hdir, map_eq_error_iff] at h
    exact holds_of_opened h
  · rw [if_neg hdir] at h
    cases h

/-- Continuing a place by a name fails only at a directory that cannot be listed. -/
theorem holds_of_entries {ts : List Token} {p : Place} (h : entries fs ts p = .error u) :
    u.Holds fs := by
  rw [entries] at h
  split at h
  · -- a name without wildcards is looked up, and nothing is listed for it
    cases h
  · by_cases hdir : p.isDir
    · rw [if_pos hdir, map_eq_error_iff] at h
      exact holds_of_opened h
    · rw [if_neg hdir] at h
      cases h

/-- Collecting fails only at a directory that cannot be listed, if the search at each place does. -/
theorem holds_of_collect {p : Place}
    {search : Location → Place → Except Unlistable (List String)}
    (hsearch : ∀ {route q u}, search route q = .error u → u.Holds fs)
    (h : collect fs p search = .error u) : u.Holds fs := by
  rw [collect] at h
  by_cases hdir : p.isDir
  · rw [if_pos hdir] at h
    simp only [bind_eq_error_iff, mapM_eq_error_iff] at h
    obtain h | ⟨l, -, ⟨_, route, _, -, -, h | ⟨_, -, h | ⟨_, -, h⟩⟩⟩ | ⟨_, -, h⟩⟩ := h
    · exact holds_of_opened h
    · exact hsearch h
    · exact holds_of_check h
    · cases h
    · cases h
  · rw [if_neg hdir] at h
    cases h

/-- **Following a pattern** fails only at a directory that cannot be listed. -/
theorem holds_of_follow {cs : List Component} {p : Place}
    (h : follow fs directory cs p = .error u) : u.Holds fs := by
  induction cs, p using follow.induct generalizing u with
  | case1 p => cases h
  | case2 ts cs p ih =>
    simp only [follow, bind_eq_error_iff, mapM_eq_error_iff] at h
    obtain h | ⟨_, -, ⟨_, q, _, -, -, h⟩ | ⟨_, -, h⟩⟩ := h
    · exact holds_of_entries h
    · exact ih q h
    · cases h
  | case3 p =>
    -- what is collected for a subtree are the directories themselves
    refine holds_of_collect (fun {route q u'} hsearch => ?_) h
    cases hsearch
  | case4 cs p ih => exact ih h
  | case5 ts cs p ih =>
    refine holds_of_collect (fun {route q u'} hsearch => ?_) h
    split at hsearch
    · exact ih q hsearch
    · cases hsearch

/-! ## Searching -/

/-- **A search is refused** when its pattern is malformed. -/
theorem search_eq_error_iff {pattern reason : String} :
    search fs pattern = .error reason ↔ ∃ m, Pattern.read pattern = .error m ∧ m.text = reason := by
  simp only [search, bind_eq_error_iff, mapError_eq_error_iff]
  constructor
  · rintro (h | ⟨p, -, h⟩)
    · exact h
    · split at h <;> cases h
  · exact .inl

/-- **A search gives** the paths to which the names of its pattern lead, or a directory that cannot be
listed. -/
theorem search_eq_ok_iff {pattern : String} {entries : List (Except String String)} :
    search fs pattern = .ok entries ↔ ∃ p, Pattern.read pattern = .ok p ∧
      ((∃ paths, p.paths fs = .ok paths ∧ paths.map .ok = entries) ∨
        ∃ u, p.paths fs = .error u ∧ u.Holds fs ∧ [.error u.text] = entries) := by
  simp only [search, bind_eq_ok_iff, mapError_eq_ok_iff]
  refine exists_congr fun p => and_congr_right fun _ => ?_
  cases hpaths : p.paths fs with
  | ok paths =>
    constructor
    · intro h
      exact .inl ⟨paths, rfl, Except.ok.inj h⟩
    · rintro (⟨_, h, rfl⟩ | ⟨_, h, -⟩)
      · obtain rfl := Except.ok.inj h
        rfl
      · cases h
  | error u =>
    constructor
    · intro h
      exact .inr ⟨u, rfl, holds_of_follow hpaths, Except.ok.inj h⟩
    · rintro (⟨_, h, -⟩ | ⟨_, h, -, rfl⟩)
      · cases h
      · obtain rfl := Except.error.inj h
        rfl

end ErrorTaxonomy.Glob
