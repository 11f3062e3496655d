import Mathlib.Data.List.Chain
import Mathlib.Data.List.Forall2
import ErrorTaxonomy.Proofs.Template.Compile

/-! # Normal form — what a compiled display format looks like

A compiled template has no empty text and no two texts in a row, and its slots and accessors are those of
the occurrences that the scan finds (`Template.Normal`). The emitter relies on this: the arguments of a
format string are as many as its slots, and a format without placeholders is its own text.

* **`normalSegments_segmentsOf`** — the segments that pieces spell are in normal form.
* **`lookup_of_resolveNames`** — names that were resolved once are found again at each occurrence.
* **`compile_normal`** — when compiling fails and with what, and the normal form of what it gives. -/

namespace ErrorTaxonomy.Template

variable {α : Type}

/-! ## Segments -/

/-- Segments in **normal form**: no text is empty, and of two segments in a row one is a slot. -/
structure NormalSegments (segs : List Segment) : Prop where
  nonempty : ∀ s, Segment.text s ∈ segs → s ≠ ""
  apart : segs.IsChain fun a b => a = .slot ∨ b = .slot

/-- A slot in front keeps the normal form. -/
theorem NormalSegments.slot {segs : List Segment} (h : NormalSegments segs) :
    NormalSegments (.slot :: segs) where
  nonempty s hs := by
    rw [List.mem_cons] at hs
    rcases hs with hs | hs
    · cases hs
    · exact h.nonempty s hs
  apart := List.isChain_cons.2 ⟨fun _ _ => .inl rfl, h.apart⟩

/-- A text with characters keeps the normal form when no other text follows it. -/
theorem NormalSegments.text {segs : List Segment} (h : NormalSegments segs) {s : String} (hs : s ≠ "")
    (hslot : ∀ seg ∈ segs.head?, seg = .slot) : NormalSegments (.text s :: segs) where
  nonempty t ht := by
    rw [List.mem_cons, Segment.text.injEq] at ht
    rcases ht with rfl | ht
    · exact hs
    · exact h.nonempty t ht
  apart := List.isChain_cons.2 ⟨fun seg hseg => .inr (hslot seg hseg), h.apart⟩

/-- A character in front joins the text that stands first, or makes one. -/
theorem NormalSegments.consChar {segs : List Segment} (h : NormalSegments segs) (c : Char) :
    NormalSegments (consChar c segs) := by
  have hne : ∀ cs, String.ofList (c :: cs) ≠ "" := by
    intro cs hempty
    have hnil := congrArg String.toList hempty
    simp at hnil
  rcases segs with _ | ⟨s | _, segs⟩
  · exact h.text (hne []) (by simp)
  · -- what follows the longer text followed the shorter one
    have hrest := List.isChain_cons.1 h.apart
    have hsegs : NormalSegments segs :=
      ⟨fun t ht => h.nonempty t (List.mem_cons_of_mem _ ht), hrest.2⟩
    refine hsegs.text (hne s.toList) ?_
    intro seg hseg
    exact (hrest.1 seg hseg).resolve_left nofun
  · exact h.text (hne []) (by simp)

/-- **The segments that pieces spell** are in normal form. -/
theorem normalSegments_segmentsOf (ps : List Piece) : NormalSegments (segmentsOf ps) := by
  induction ps with
  | nil => exact ⟨by simp [segmentsOf], .nil⟩
  | cons p ps ih =>
    cases p with
    | char c => exact ih.consChar c
    | field name => exact ih.slot

/-- A character in front of segments makes no slot. -/
theorem countP_slot_consChar (c : Char) (segs : List Segment) :
    (consChar c segs).countP (· = .slot) = segs.countP (· = .slot) := by
  rcases segs with _ | ⟨_ | _, segs⟩ <;> simp [consChar]

/-- The segments that pieces spell have a slot for each placeholder. -/
theorem countP_slot_segmentsOf (ps : List Piece) :
    (segmentsOf ps).countP (· = .slot) = (fieldNames ps).length := by
  induction ps with
  | nil => rfl
  | cons p ps ih =>
    cases p with
    | char c =>
      unfold segmentsOf
      rw [countP_slot_consChar, ih, fieldNames_char]
    | field name =>
      unfold segmentsOf
      rw [List.countP_cons_of_pos (by simp), ih, fieldNames_field, List.length_cons]

/-- A character in front of segments stands in front of their text. -/
theorem textOf?_consChar (c : Char) (segs : List Segment) :
    textOf? (consChar c segs) = (textOf? segs).map (String.ofList [c] ++ ·) := by
  rcases segs with _ | ⟨s | _, segs⟩
  · rfl
  · unfold consChar textOf?
    cases textOf? segs with
    | none => rfl
    | some rest =>
      simp only [Option.map_some, Option.some.injEq]
      apply String.toList_inj.1
      simp
  · rfl

/-- The segments that pieces spell have a text when no piece is a placeholder: the pieces themselves. -/
theorem textOf?_segmentsOf (ps : List Piece) :
    textOf? (segmentsOf ps) =
      if fieldNames ps = [] then some (String.ofList (ps.flatMap Piece.source)) else none := by
  induction ps with
  | nil => rfl
  | cons p ps ih =>
    cases p with
    | char c =>
      unfold segmentsOf
      rw [textOf?_consChar, ih, fieldNames_char]
      split
      · rw [Option.map_some, List.flatMap_cons, String.ofList_append]
        rfl
      · rfl
    | field name =>
      rw [fieldNames_field, if_neg (List.cons_ne_nil _ _)]
      rfl

/-! ## Lookups -/

variable {lookup : String → Option α} {source : String}

/-- The placeholders are the names of the occurrences. -/
theorem map_name_occurrences (source : String) :
    (occurrences source).map (·.name) = placeholders source := map_name_occurrencesFrom 0 _

/-- When names are resolved, every one of them is known. -/
theorem isSome_of_resolveNames {names : List String} {resolved : List (String × α)}
    (h : resolveNames lookup names = .ok resolved) (n : String) (hn : n ∈ names) :
    (lookup n).isSome := by
  cases hfind : names.find? fun n => (lookup n).isNone with
  | some name =>
    rw [resolveNames_of_find? hfind] at h
    cases h
  | none =>
    have hknown := List.find?_eq_none.1 hfind n hn
    rwa [Bool.not_eq_true, Option.isNone_eq_false_iff] at hknown

/-- **Names are found again.** When the distinct names of a format are resolved, the accessor of every
occurrence is found among them. -/
theorem lookup_of_resolveNames {resolved : List (String × α)}
    (h : resolveNames lookup (names source) = .ok resolved) (o : Occurrence)
    (ho : o ∈ occurrences source) :
    ∃ a, resolved.lookup o.name = some a ∧ lookup o.name = some a := by
  have hmem : o.name ∈ names source := by
    unfold names
    rw [List.mem_eraseDups, ← map_name_occurrences]
    exact List.mem_map_of_mem ho
  have hknown := isSome_of_resolveNames h
  obtain ⟨resolved', h', hlookup⟩ := exists_resolveNames hknown
  rw [h] at h'
  cases h'
  obtain ⟨a, ha⟩ := Option.isSome_iff_exists.1 (hknown o.name hmem)
  exact ⟨a, (hlookup o.name hmem).trans ha, ha⟩

/-- The first unknown placeholder is that of the first occurrence with an unknown name. -/
theorem find?_placeholders_eq_some_iff {name : String} :
    (placeholders source).find? (fun n => (lookup n).isNone) = some name ↔
      ∃ before o after, occurrences source = before ++ o :: after ∧
        (∀ b ∈ before, (lookup b.name).isSome) ∧ lookup o.name = none ∧ o.name = name := by
  rw [← map_name_occurrences, List.find?_map, Option.map_eq_some_iff]
  simp only [List.find?_eq_some_iff_append, Function.comp_apply, Option.isNone_iff_eq_none,
    Bool.not_eq_true', Option.isNone_eq_false_iff]
  constructor
  · rintro ⟨o, ⟨hnone, before, after, heq, hbefore⟩, hname⟩
    exact ⟨before, o, after, heq, hbefore, hnone, hname⟩
  · rintro ⟨before, o, after, heq, hbefore, hnone, hname⟩
    exact ⟨o, ⟨hnone, before, after, heq, hbefore⟩, hname⟩

/-- The accessors of known placeholders stand beside the occurrences. -/
theorem forall₂_filterMap_lookup {os : List Occurrence} (h : ∀ o ∈ os, (lookup o.name).isSome) :
    List.Forall₂ (fun o a => lookup o.name = some a) os
      ((os.map (·.name)).filterMap lookup) := by
  induction os with
  | nil => exact .nil
  | cons o os ih =>
    obtain ⟨a, ha⟩ := Option.isSome_iff_exists.1 (h o List.mem_cons_self)
    rw [List.map_cons, List.filterMap_cons_some ha]
    exact .cons ha (ih fun p hp => h p (List.mem_cons_of_mem o hp))

/-! ## Templates -/

/-- A template is the **normal form** of a format: its segments are in normal form, it has a slot and an
accessor for each occurrence, in order, and without occurrences it is the plain text of the format. -/
structure Normal (t : Template α) (source : String) (lookup : String → Option α) : Prop where
  segments : NormalSegments t.segments
  slotCount : t.slotCount = (occurrences source).length
  length : t.accessors.length = (occurrences source).length
  accessors : List.Forall₂ (fun o a => lookup o.name = some a) (occurrences source) t.accessors
  plain : t.literalText?.isSome ↔ occurrences source = []
  text : ∀ s, t.literalText? = some s → s = source

/-- Accessors may be changed one by one. -/
theorem Normal.map {β : Type} {t : Template α} (h : t.Normal source lookup) (f : α → β) :
    (t.map f).Normal source fun n => (lookup n).map f where
  segments := h.segments
  slotCount := h.slotCount
  length := by rw [map_accessors, List.length_map, h.length]
  accessors := by
    rw [map_accessors, List.forall₂_map_right_iff]
    refine h.accessors.imp ?_
    intro o a ha
    rw [ha, Option.map_some]
  plain := h.plain
  text := h.text

/-- **What compiling gives** is the normal form of the format. -/
theorem normal_of_compile {t : Template α} (h : compile lookup source = .ok t) :
    t.Normal source lookup := by
  rw [compile_eq] at h
  cases hfind : (placeholders source).find? fun n => (lookup n).isNone with
  | some name => simp [hfind] at h
  | none =>
    rw [hfind] at h
    obtain rfl := Except.ok.inj h
    have hknown : ∀ o ∈ occurrences source, (lookup o.name).isSome := by
      intro o ho
      have hmem : o.name ∈ placeholders source := by
        rw [← map_name_occurrences]
        exact List.mem_map_of_mem ho
      have hnone := List.find?_eq_none.1 hfind o.name hmem
      rwa [Bool.not_eq_true, Option.isNone_eq_false_iff] at hnone
    have haccessors := forall₂_filterMap_lookup hknown
    rw [map_name_occurrences] at haccessors
    have htext := textOf?_segmentsOf (pieces source.toList)
    rw [flatMap_source_pieces, String.ofList_toList] at htext
    have hnil : fieldNames (pieces source.toList) = [] ↔ occurrences source = [] := by
      show placeholders source = [] ↔ _
      rw [← map_name_occurrences, List.map_eq_nil_iff]
    refine ⟨normalSegments_segmentsOf _, ?_, haccessors.length_eq.symm, haccessors, ?_, ?_⟩
    · show (segmentsOf _).countP _ = _
      rw [countP_slot_segmentsOf]
      show (placeholders source).length = _
      rw [← map_name_occurrences, List.length_map]
    · unfold literalText?
      rw [htext, ← hnil]
      split <;> simp_all
    · intro s hs
      unfold literalText? at hs
      rw [htext] at hs
      split at hs
      · exact (Option.some.inj hs).symm
      · cases hs

/-- **Compiled formats are in normal form.** Compiling fails exactly when some placeholder is unknown, with
the first unknown name in order of first occurrence: once the distinct names are resolved, cutting the
format finds an accessor at every occurrence. What it gives is the normal form of the format: texts with
characters and apart from each other, a slot for each occurrence with what its name is looked up as, and
the format itself as its text when there is no placeholder. Changing accessors keeps all of this. -/
theorem compile_normal (lookup : String → Option α) (source : String) :
    ((∃ e, compile lookup source = .error e) ↔ ∃ n ∈ names source, lookup n = none) ∧
    (∀ e, compile lookup source = .error e ↔
      ∃ before o after, occurrences source = before ++ o :: after ∧
        (∀ b ∈ before, (lookup b.name).isSome) ∧ lookup o.name = none ∧ e = ⟨o.name⟩) ∧
    (∀ resolved, resolveNames lookup (names source) = .ok resolved →
      (∀ o ∈ occurrences source, ∃ a, resolved.lookup o.name = some a ∧ lookup o.name = some a) ∧
      ∃ t, cutFrom resolved source.toList 0 (occurrences source) = .ok t) ∧
    ∀ t, compile lookup source = .ok t → t.Normal source lookup ∧
      ∀ {β : Type} (f : α → β), (t.map f).Normal source fun n => (lookup n).map f := by
  have herror : ∀ e, compile lookup source = .error e ↔
      ∃ before o after, occurrences source = before ++ o :: after ∧
        (∀ b ∈ before, (lookup b.name).isSome) ∧ lookup o.name = none ∧ e = ⟨o.name⟩ := by
    rintro ⟨name⟩
    have hfirst : (placeholders source).find? (fun n => (lookup n).isNone) = some name ↔ _ :=
      find?_placeholders_eq_some_iff
    rw [compile_eq]
    simp only [UnknownField.mk.injEq, eq_comm (a := name), ← hfirst]
    cases (placeholders source).find? fun n => (lookup n).isNone <;> simp
  refine ⟨?_, herror, ?_, ?_⟩
  · constructor
    · rintro ⟨e, he⟩
      obtain ⟨before, o, after, heq, -, hnone, -⟩ := (herror e).1 he
      refine ⟨o.name, ?_, hnone⟩
      unfold names
      rw [List.mem_eraseDups, ← map_name_occurrences, heq]
      simp
    · rintro ⟨n, hn, hnone⟩
      -- names that are all resolved would know this one
      cases h : compile lookup source with
      | error e => exact ⟨e, rfl⟩
      | ok t =>
        unfold compile at h
        cases hresolved : resolveNames lookup (names source) with
        | error e =>
          rw [hresolved] at h
          cases h
        | ok resolved =>
          have hsome := isSome_of_resolveNames hresolved n hn
          rw [hnone] at hsome
          cases hsome
  · intro resolved hresolved
    have hlookup := lookup_of_resolveNames hresolved
    refine ⟨hlookup, ?_⟩
    cases hcut : cutFrom resolved source.toList 0 (occurrences source) with
    | ok t => exact ⟨t, rfl⟩
    | error e =>
      -- cutting is the last step of compiling, which fails with an unknown name only
      have hcompile : compile lookup source = .error e := by
        unfold compile
        rw [hresolved]
        exact hcut
      obtain ⟨before, o, after, heq, -, hnone, -⟩ := (herror e).1 hcompile
      obtain ⟨a, -, ha⟩ := hlookup o (by simp [heq])
      rw [hnone] at ha
      cases ha
  · intro t ht
    have hnormal := normal_of_compile ht
    exact ⟨hnormal, fun f => hnormal.map f⟩

end ErrorTaxonomy.Template
