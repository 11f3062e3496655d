import Mathlib.Data.List.Induction
import ErrorTaxonomy.Ident.Path
import ErrorTaxonomy.Proofs.Ident.Spelling

/-! # Item paths — which item a path denotes

The text of a path is cut at its `::` and followed segment by segment from the module it is written in
(`follow`). No identifier is cut in two or leaves a module, so the path of a type denotes, from
whichever package it is written, **the module of its package, the modules of its parents and the type**
(`follow_typePath`). -/

namespace ErrorTaxonomy.Ident

/-! ## Cutting a text -/

/-- The segments of the text of a path, cut at each `::`. -/
def cutPath : List Char → List (List Char)
  | [] => [[]]
  | ':' :: ':' :: r => [] :: cutPath r
  | c :: r =>
    match cutPath r with
    | [] => [[c]]
    | w :: ws => (c :: w) :: ws

/-- A character that is no colon goes to the first segment. -/
theorem cutPath_cons {c : Char} (h : c ≠ ':') {r w : List Char} {ws : List (List Char)}
    (hr : cutPath r = w :: ws) : cutPath (c :: r) = (c :: w) :: ws := by
  rw [cutPath.eq_def]
  split
  · next heq => cases heq
  · next heq => exact absurd (List.cons.inj heq).1 h
  · next heq =>
    obtain ⟨rfl, rfl⟩ := List.cons.inj heq
    rw [hr]

/-- A text without colons is one segment. -/
theorem cutPath_of_notMem {w : List Char} (h : ':' ∉ w) : cutPath w = [w] := by
  induction w with
  | nil => rfl
  | cons c w ih =>
    rw [List.mem_cons, not_or] at h
    exact cutPath_cons (Ne.symm h.1) (ih h.2)

/-- A text without colons is the segment before the next `::`. -/
theorem cutPath_append {w : List Char} (h : ':' ∉ w) (r : List Char) :
    cutPath (w ++ "::".toList ++ r) = w :: cutPath r := by
  induction w with
  | nil => rfl
  | cons c w ih =>
    rw [List.mem_cons, not_or] at h
    exact cutPath_cons (Ne.symm h.1) (ih h.2)

/-- **Segments without colons** that are joined can be cut apart again. -/
theorem cutPath_intercalate {ws : List (List Char)} (hne : ws ≠ []) (h : ∀ w ∈ ws, ':' ∉ w) :
    cutPath ("::".toList.intercalate ws) = ws := by
  induction ws with
  | nil => exact absurd rfl hne
  | cons w ws ih =>
    cases ws with
    | nil => rw [List.intercalate_singleton, cutPath_of_notMem (h w List.mem_cons_self)]
    | cons v ws =>
      rw [List.intercalate_cons_cons, cutPath_append (h w List.mem_cons_self),
        ih (List.cons_ne_nil v ws) fun x hx => h x (List.mem_cons_of_mem w hx)]

/-! ## Following a path -/

/-- The item that the text of a path denotes in a module; nothing when the path leaves the root. -/
def follow (module : List String) (text : String) : Option (List String) :=
  resolve module ((cutPath text.toList).map String.ofList)

/-- The segments of the text of a path. -/
def pathSegments (text : String) : List String := (cutPath text.toList).map String.ofList

/-- The text of a path is cut into its segments. -/
theorem pathSegments_render {p : ItemPath} (hne : p.down ≠ [])
    (h : ∀ s ∈ p.down, ':' ∉ s.toList) : pathSegments p.render = p.segments := by
  have hsegments : p.segments.map String.toList ≠ [] := by simp [ItemPath.segments, hne]
  have hcolon : ∀ w ∈ p.segments.map String.toList, ':' ∉ w := by
    simp only [List.forall_mem_map, ItemPath.segments, List.mem_append, List.mem_replicate]
    rintro s (⟨-, rfl⟩ | hs)
    · decide
    · exact h s hs
  rw [pathSegments, ItemPath.render, String.toList_intercalate, cutPath_intercalate hsegments hcolon,
    List.map_map]
  simp

/-- The text of a path denotes what its segments do. -/
theorem follow_render (module : List String) {p : ItemPath} (hne : p.down ≠ [])
    (h : ∀ s ∈ p.down, ':' ∉ s.toList) : follow module p.render = resolve module p.segments :=
  congrArg (resolve module) (pathSegments_render hne h)

/-- Any other name enters a module. -/
theorem resolve_cons_of_ne {s : String} (h : s ≠ "super") (m ss : List String) :
    resolve m (s :: ss) = resolve (m ++ [s]) ss := by
  rw [resolve.eq_def]
  exact if_neg h

/-- The keyword leaves the last module. -/
theorem resolve_concat_super (m : List String) (s : String) (ss : List String) :
    resolve (m ++ [s]) ("super" :: ss) = resolve m ss := by
  rw [resolve.eq_def]
  dsimp only
  rw [if_pos rfl, List.dropLast_concat]
  split
  · next heq => simp at heq
  · rfl

/-- Names that do not leave a module are entered one after the other. -/
theorem resolve_of_notMem (m : List String) {ss : List String} (h : "super" ∉ ss) :
    resolve m ss = some (m ++ ss) := by
  induction ss generalizing m with
  | nil => simp
  | cons s ss ih =>
    rw [List.mem_cons, not_or] at h
    rw [resolve_cons_of_ne (Ne.symm h.1), ih (m ++ [s]) h.2, List.append_assoc,
      List.singleton_append]

/-- Going up leaves the last modules. -/
theorem resolve_replicate_super (m n : List String) (ss : List String) :
    resolve (m ++ n) (List.replicate n.length "super" ++ ss) = resolve m ss := by
  induction n using List.reverseRecOn with
  | nil => simp
  | append_singleton n s ih =>
    rw [List.length_append, List.length_singleton, List.replicate_succ, List.cons_append,
      ← List.append_assoc, resolve_concat_super, ih]

/-- Below the modules that it leaves, the path of a type leaves no other. -/
theorem super_notMem_down (home package : String) (parents : List String) (name : String) :
    "super" ∉ (typePath home package parents name).down := by
  simp only [typePath, List.mem_append, List.mem_map, List.mem_singleton, not_or, not_exists,
    not_and]
  exact ⟨⟨fun s _ => fieldIdent_ne_super s, fun s _ => fieldIdent_ne_super s⟩,
    (typeIdent_ne_super name).symm⟩

/-- The path of a type leads, segment by segment, to the type in its own package. -/
theorem resolve_typePath (home package : String) (parents : List String) (name : String) :
    resolve (moduleOf home) (typePath home package parents name).segments =
      some (moduleOf package ++ parents.map fieldIdent ++ [typeIdent name]) := by
  have htake := take_sharedLength (packageSegments home) (packageSegments package)
  have hsuper := super_notMem_down home package parents name
  rw [typePath] at hsuper
  rw [ItemPath.segments, typePath, moduleOf, moduleOf]
  dsimp only at hsuper ⊢
  generalize packageSegments home = here at *
  generalize packageSegments package = there at *
  generalize sharedLength here there = k at *
  have hup : here.length - k = ((here.drop k).map fieldIdent).length := by simp
  -- going up leaves what the packages share, which is where the other package begins
  rw [← List.take_append_drop k here, List.map_append, List.take_append_drop, hup,
    resolve_replicate_super, resolve_of_notMem _ hsuper, htake, ← List.append_assoc,
    ← List.append_assoc, ← List.map_append, List.take_append_drop]

/-- No segment of the path of a type below the modules that are left has a colon. -/
theorem colon_notMem_of_mem_down {home package : String} {parents : List String} {name s : String}
    (h : s ∈ (typePath home package parents name).down) : ':' ∉ s.toList := by
  simp only [typePath, List.mem_append, List.mem_map, List.mem_singleton] at h
  obtain (⟨t, -, rfl⟩ | ⟨t, -, rfl⟩) | rfl := h
  · exact colon_notMem_fieldIdent t
  · exact colon_notMem_fieldIdent t
  · exact colon_notMem_typeIdent name

/-- The path of a type ends with the type. -/
theorem down_typePath_ne_nil (home package : String) (parents : List String) (name : String) :
    (typePath home package parents name).down ≠ [] := by
  simp [typePath]

/-- **The path of a type** denotes the type in its own package, from wherever it is written. -/
theorem follow_typePath (home package : String) (parents : List String) (name : String) :
    follow (moduleOf home) (typePath home package parents name).render =
      some (moduleOf package ++ parents.map fieldIdent ++ [typeIdent name]) := by
  rw [follow_render _ (down_typePath_ne_nil home package parents name)
    fun s => colon_notMem_of_mem_down, resolve_typePath]

/-! ## What two packages share -/

/-- The **longest** list that two lists both begin with. -/
structure LongestShared (as bs shared : List String) : Prop where
  left : shared <+: as
  right : shared <+: bs
  longest : ∀ p, p <+: as → p <+: bs → p <+: shared

/-- The leading elements that are counted are the longest that two lists share. -/
theorem longestShared_take (as bs : List String) :
    LongestShared as bs (as.take (sharedLength as bs)) where
  left := List.take_prefix _ as
  right := take_sharedLength as bs ▸ List.take_prefix _ bs
  longest := by
    fun_induction sharedLength as bs with
    | case1 as b bs ih =>
      intro p hleft hright
      cases p with
      | nil => exact List.nil_prefix
      | cons x p =>
        obtain ⟨rfl, hp⟩ := List.cons_prefix_cons.1 hleft
        rw [List.take_succ_cons]
        exact List.cons_prefix_cons.2 ⟨rfl, ih p hp (List.cons_prefix_cons.1 hright).2⟩
    | case2 a as b bs hne =>
      intro p hleft hright
      cases p with
      | nil => exact List.nil_prefix
      | cons x p =>
        -- the first segments differ, so nothing begins both
        obtain ⟨rfl, -⟩ := List.cons_prefix_cons.1 hleft
        exact absurd (List.cons_prefix_cons.1 hright).1 hne
    | case3 as bs hne =>
      intro p hleft hright
      cases p with
      | nil => exact List.nil_prefix
      | cons x p =>
        obtain ⟨as', rfl⟩ := hleft
        obtain ⟨bs', rfl⟩ := hright
        exact (hne x (p ++ as') x (p ++ bs') rfl rfl).elim

/-- **The path of a type leads to it.** Followed from the module it is written in, the path never leaves
the root and ends at the type, in the modules of its package and its parents. It goes up at its beginning
only, by as many modules as the package it is written in has segments after those that the two packages
share. -/
theorem typePath_leads (home package : String) (parents : List String) (name : String) :
    follow (moduleOf home) (typePath home package parents name).render =
        some (moduleOf package ++ parents.map fieldIdent ++ [typeIdent name]) ∧
      ∃ shared down, LongestShared (packageSegments home) (packageSegments package) shared ∧
        shared.length ≤ (packageSegments home).length ∧
        pathSegments (typePath home package parents name).render =
          List.replicate ((packageSegments home).length - shared.length) "super" ++ down ∧
        "super" ∉ down := by
  have hshared := longestShared_take (packageSegments home) (packageSegments package)
  have hlength : ((packageSegments home).take
      (sharedLength (packageSegments home) (packageSegments package))).length =
      sharedLength (packageSegments home) (packageSegments package) :=
    List.length_take_of_le (sharedLength_le_left _ _)
  refine ⟨follow_typePath home package parents name, _,
    (typePath home package parents name).down, hshared, hshared.left.length_le, ?_,
    super_notMem_down home package parents name⟩
  rw [pathSegments_render (down_typePath_ne_nil home package parents name)
    fun s => colon_notMem_of_mem_down, hlength]
  rfl

/-- Packages that share a keyword for their first segment. -/
example : (typePath "super.app" "super.lib.v1" ["Outer"] "self").render =
    "super::lib::v1::outer::Self_" := by
  decide +kernel

end ErrorTaxonomy.Ident
