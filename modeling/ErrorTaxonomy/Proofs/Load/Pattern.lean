import ErrorTaxonomy.Load.Pattern
import ErrorTaxonomy.Proofs.Traversal

/-! # Input patterns — what they name, and why some name nothing

A pattern without wildcards names itself, and the search is not asked. What one with wildcards names is
all that the search finds (`Load.Names`), unless it is malformed, an entry cannot be read, or nothing is
found (`Load.NamesNothing`); no other errors come up (`Load.expand_eq_error_iff`). -/

namespace ErrorTaxonomy.Load

variable {search : Search} {fs : FileSystem} {pattern : String}

/-- An input pattern **names** paths: itself, or all that the search finds for it, one at least. -/
inductive Names (search : Search) (fs : FileSystem) (pattern : String) : List String → Prop
  | path (plain : hasWildcard pattern = false) : Names search fs pattern [pattern]
  | found {paths : List String} (wild : hasWildcard pattern = true)
      (entries : search fs pattern = .ok (paths.map .ok)) (nonempty : paths ≠ []) :
    Names search fs pattern paths

/-- An input pattern **names nothing**, with an error. -/
inductive NamesNothing (search : Search) (fs : FileSystem) (pattern : String) : PatternError → Prop
  /-- The search refuses the pattern. -/
  | malformed {reason : String} (wild : hasWildcard pattern = true)
      (refused : search fs pattern = .error reason) :
    NamesNothing search fs pattern (.malformed pattern reason)
  /-- The search comes to an entry that cannot be read, perhaps after paths that are fine. -/
  | unreadable {paths : List String} {reason : String} {rest : List (Except String String)}
      (wild : hasWildcard pattern = true)
      (entries : search fs pattern = .ok (paths.map .ok ++ .error reason :: rest)) :
    NamesNothing search fs pattern (.unreadable reason)
  /-- The search finds nothing. -/
  | noMatch (wild : hasWildcard pattern = true) (entries : search fs pattern = .ok []) :
    NamesNothing search fs pattern (.noMatch pattern)

/-- A text without wildcards is a path of its own. -/
theorem expand_path (h : hasWildcard pattern = false) : expand search fs pattern = .ok [pattern] := by
  rw [expand, if_neg (by simp [h])]
  rfl

/-- A pattern with wildcards is expanded to what the search finds. -/
theorem expand_of_wildcard (h : hasWildcard pattern = true) : expand search fs pattern =
    (search fs pattern).mapError (.malformed pattern) >>= fun entries =>
      (entries.mapM id).mapError .unreadable >>= fun paths =>
        if paths = [] then .error (.noMatch pattern) else .ok paths := by
  rw [expand, if_pos h]
  refine congrArg _ (funext fun entries => congrArg _ (funext fun paths => ?_))
  cases paths <;> rfl

/-- **A pattern is expanded** to the paths that it names. -/
theorem expand_eq_ok_iff {paths : List String} :
    expand search fs pattern = .ok paths ↔ Names search fs pattern paths := by
  cases hwild : hasWildcard pattern with
  | false =>
    rw [expand_path hwild]
    constructor
    · intro h
      obtain rfl := Except.ok.inj h
      exact .path hwild
    · intro h
      cases h with
      | path => rfl
      | found wild => cases wild.symm.trans hwild
  | true =>
    rw [expand_of_wildcard hwild]
    simp only [bind_eq_ok_iff, mapError_eq_ok_iff, mapM_id_eq_ok_iff]
    constructor
    · rintro ⟨_, hentries, found, rfl, h⟩
      split_ifs at h with hnil
      obtain rfl := Except.ok.inj h
      exact .found hwild hentries hnil
    · intro h
      cases h with
      | path plain => cases hwild.symm.trans plain
      | found _ entries nonempty => exact ⟨_, entries, paths, rfl, if_neg nonempty⟩

/-- **A pattern cannot be expanded** exactly when it names nothing. -/
theorem expand_eq_error_iff {e : PatternError} :
    expand search fs pattern = .error e ↔ NamesNothing search fs pattern e := by
  cases hwild : hasWildcard pattern with
  | false =>
    rw [expand_path hwild]
    refine ⟨nofun, fun h => ?_⟩
    cases h with
    | malformed wild => cases wild.symm.trans hwild
    | unreadable wild => cases wild.symm.trans hwild
    | noMatch wild => cases wild.symm.trans hwild
  | true =>
    rw [expand_of_wildcard hwild]
    simp only [bind_eq_error_iff, mapError_eq_error_iff, mapError_eq_ok_iff, mapM_id_eq_ok_iff,
      mapM_id_eq_error_iff]
    constructor
    · rintro (⟨reason, hrefused, rfl⟩ |
        ⟨_, hentries, ⟨reason, ⟨paths, rest, rfl⟩, rfl⟩ | ⟨paths, rfl, h⟩⟩)
      · exact .malformed hwild hrefused
      · exact .unreadable hwild hentries
      · split_ifs at h with hnil
        subst hnil
        obtain rfl := Except.error.inj h
        exact .noMatch hwild hentries
    · intro h
      cases h with
      | malformed _ refused => exact .inl ⟨_, refused, rfl⟩
      | unreadable _ entries => exact .inr ⟨_, entries, .inl ⟨_, ⟨_, _, rfl⟩, rfl⟩⟩
      | noMatch _ entries => exact .inr ⟨_, entries, .inr ⟨[], rfl, rfl⟩⟩

end ErrorTaxonomy.Load
