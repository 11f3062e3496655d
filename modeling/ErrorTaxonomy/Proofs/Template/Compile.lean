import ErrorTaxonomy.Proofs.Distinct
import ErrorTaxonomy.Template.Basic

/-! # Compiling and filling — the round trip of a display format

`compile` walks along the byte positions of the occurrences, `substitute` along the pieces of the
format. Both are compared with `segmentsOf`, the segments that the pieces spell by themselves:

* **`cutFrom_occurrencesFrom`** — the invariant of the cursor. What lies before the cursor is used up,
  the plain characters after it are the text that comes next.
* **`compile_eq`** — compiling fails with the first name that is not known, and otherwise gives the
  segments of the pieces and the accessor of every placeholder.
* **`compile_fill_eq_substitute`** — filling a compiled format with its own accessors is
  substitution. -/

namespace ErrorTaxonomy.Template

/-! ## Segments of pieces -/

/-- Puts a character in front of segments, into the text that stands first. -/
def consChar (c : Char) : List Segment → List Segment
  | .text s :: segs => .text (String.ofList (c :: s.toList)) :: segs
  | segs => .text (String.ofList [c]) :: segs

/-- The segments that pieces spell. -/
def segmentsOf : List Piece → List Segment
  | [] => []
  | .char c :: ps => consChar c (segmentsOf ps)
  | .field _ :: ps => .slot :: segmentsOf ps

/-- Puts several characters in front of segments. -/
def consText (s : List Char) (segs : List Segment) : List Segment := s.foldr consChar segs

@[simp] theorem consText_nil (segs : List Segment) : consText [] segs = segs := rfl

@[simp] theorem consText_cons (c : Char) (s : List Char) (segs : List Segment) :
    consText (c :: s) segs = consChar c (consText s segs) := rfl

/-- A last character goes in front of the segments before the others do. -/
theorem consText_concat (s : List Char) (c : Char) (segs : List Segment) :
    consText (s ++ [c]) segs = consText s (consChar c segs) := by
  rw [consText, List.foldr_append]
  rfl

/-- Segments without a text at their start. -/
def StartsWithoutText : List Segment → Prop
  | .text _ :: _ => False
  | _ => True

/-- Characters in front of segments that start without a text make one text. -/
theorem consText_of_startsWithoutText {segs : List Segment} (h : StartsWithoutText segs)
    {s : List Char} (hs : s ≠ []) : consText s segs = .text (String.ofList s) :: segs := by
  induction s with
  | nil => exact absurd rfl hs
  | cons c s ih =>
    rw [consText_cons]
    by_cases he : s = []
    · subst he
      match segs, h with
      | [], _ => rfl
      | .slot :: _, _ => rfl
    · rw [ih he, consChar, String.toList_ofList]

/-- The gap that holds the characters `mid` of a format is the text that they make. -/
theorem gap_append (segs : List Segment) (h : StartsWithoutText segs) (pre mid post : List Char) :
    gap (pre ++ (mid ++ post)) (Text.byteCount pre) (Text.byteCount (pre ++ mid)) ++ segs =
      consText mid segs := by
  rw [gap, Text.slice_append, Text.byteCount_append]
  cases mid with
  | nil => simp
  | cons c mid =>
    have hc : 0 < c.utf8Size := c.utf8Size_pos
    have hlt : Text.byteCount pre < Text.byteCount pre + Text.byteCount (c :: mid) := by
      rw [Text.byteCount_cons]
      omega
    rw [if_pos hlt, consText_of_startsWithoutText h (List.cons_ne_nil c mid), List.singleton_append]

/-! ## The cursor -/

variable {α : Type}

/-- **The invariant of the cursor.** When `pre` is used up and `mid` are the plain characters read
since, cutting at the occurrences of the pieces that follow gives the text `mid` and the segments of
those pieces, with the accessor of each placeholder. -/
theorem cutFrom_occurrencesFrom (resolved : List (String × α)) (pre mid : List Char)
    (ps : List Piece) :
    cutFrom resolved (pre ++ (mid ++ ps.flatMap Piece.source)) (Text.byteCount pre)
        (occurrencesFrom (Text.byteCount (pre ++ mid)) ps) =
      ((fieldNames ps).mapM (access fun name => resolved.lookup name)).map fun accessors =>
        ⟨consText mid (segmentsOf ps), accessors⟩ := by
  induction ps generalizing pre mid with
  | nil =>
    have hg := gap_append [] trivial pre mid []
    simp only [List.append_nil] at hg
    simp only [List.flatMap_nil, List.append_nil, occurrencesFrom, cutFrom, hg]
    rfl
  | cons p ps ih =>
    cases p with
    | char c =>
      have hmid := ih pre (mid ++ [c])
      rw [consText_concat] at hmid
      simpa [occurrencesFrom, Piece.byteSize, Piece.source, segmentsOf, Nat.add_assoc] using hmid
    | field name =>
      -- the placeholder is used up with everything before it, and no plain character follows it yet
      have hnext := ih (pre ++ (mid ++ Piece.source (.field name))) []
      have hg := gap_append (.slot :: segmentsOf ps) trivial pre mid
        (Piece.source (.field name) ++ ps.flatMap Piece.source)
      simp only [List.append_nil, List.nil_append, List.append_assoc, consText_nil,
        Text.byteCount_append] at hnext hg
      simp only [List.flatMap_cons, occurrencesFrom, Piece.byteSize, cutFrom, fieldNames_field,
        List.mapM_cons, access, segmentsOf, Text.byteCount_append, Nat.add_assoc]
      cases resolved.lookup (String.ofList name) with
      | none => rfl
      | some a =>
        simp only [hnext]
        cases (fieldNames ps).mapM (access fun name => resolved.lookup name) with
        | error e => rfl
        | ok accessors => simp [Except.map, bind, Except.bind, pure, Except.pure, hg]

/-- The occurrences are named after the placeholders. -/
theorem map_name_occurrencesFrom (offset : Nat) (ps : List Piece) :
    (occurrencesFrom offset ps).map (·.name) = fieldNames ps := by
  induction ps generalizing offset with
  | nil => rfl
  | cons p ps ih =>
    cases p with
    | char c => exact ih _
    | field name => rw [occurrencesFrom, List.map_cons, ih, fieldNames_field]

/-! ## The lookups -/

variable {lookup : String → Option α} {names : List String}

/-- The first name that is not known is the error. -/
theorem resolveNames_of_find? {name : String}
    (h : names.find? (fun n => (lookup n).isNone) = some name) :
    resolveNames lookup names = .error ⟨name⟩ := by
  induction names with
  | nil => simp at h
  | cons n names ih =>
    rw [List.find?_cons] at h
    cases hn : lookup n with
    | none =>
      simp only [hn, Option.isNone_none, Option.some.injEq] at h
      subst h
      rw [resolveNames, List.mapM_cons, access, hn]
      rfl
    | some a =>
      simp only [hn, Option.isNone_some] at h
      have hrest := ih h
      rw [resolveNames] at hrest ⊢
      rw [List.mapM_cons, hrest, access, hn]
      rfl

/-- When every name is known, looking a name up again gives its accessor. -/
theorem exists_resolveNames (h : ∀ n ∈ names, (lookup n).isSome) :
    ∃ resolved, resolveNames lookup names = .ok resolved ∧
      ∀ n ∈ names, resolved.lookup n = lookup n := by
  induction names with
  | nil => exact ⟨[], rfl, by simp⟩
  | cons n names ih =>
    obtain ⟨resolved, hok, hlookup⟩ := ih fun m hm => h m (List.mem_cons_of_mem n hm)
    obtain ⟨a, ha⟩ := Option.isSome_iff_exists.1 (h n List.mem_cons_self)
    refine ⟨(n, a) :: resolved, ?_, fun m hm => ?_⟩
    · rw [resolveNames] at hok ⊢
      rw [List.mapM_cons, hok, access, ha]
      rfl
    · by_cases hmn : m = n
      · subst hmn
        rw [List.lookup_cons_self, ha]
      · have hm' : m ∈ names := (List.mem_cons.1 hm).resolve_left hmn
        rw [List.lookup_cons, beq_false_of_ne hmn]
        exact hlookup m hm'

/-- When every name is known, the accessors of the names are what they are looked up as. -/
theorem mapM_access (h : ∀ n ∈ names, (lookup n).isSome) :
    names.mapM (access lookup) = .ok (names.filterMap lookup) := by
  induction names with
  | nil => rfl
  | cons n names ih =>
    obtain ⟨a, ha⟩ := Option.isSome_iff_exists.1 (h n List.mem_cons_self)
    have hrest := ih fun m hm => h m (List.mem_cons_of_mem n hm)
    rw [List.mapM_cons, hrest, List.filterMap_cons_some ha, access, ha]
    rfl

/-- **Compiling** fails with the first placeholder that is not known; otherwise it gives the segments
of the pieces, with what each placeholder is looked up as. -/
theorem compile_eq (lookup : String → Option α) (source : String) :
    compile lookup source =
      match (placeholders source).find? fun n => (lookup n).isNone with
      | some name => .error ⟨name⟩
      | none => .ok ⟨segmentsOf (pieces source.toList), (placeholders source).filterMap lookup⟩ := by
  rw [← find?_eraseDups]
  cases hf : (placeholders source).eraseDups.find? fun n => (lookup n).isNone with
  | some name =>
    rw [compile, Template.names, resolveNames_of_find? hf]
  | none =>
    have hknown : ∀ n ∈ (placeholders source).eraseDups, (lookup n).isSome := fun n hn => by
      have hnone := List.find?_eq_none.1 hf n hn
      rwa [Bool.not_eq_true, Option.isNone_eq_false_iff] at hnone
    obtain ⟨resolved, hok, hlookup⟩ := exists_resolveNames hknown
    have hcut := cutFrom_occurrencesFrom resolved [] [] (pieces source.toList)
    simp only [List.nil_append, Text.byteCount_nil, flatMap_source_pieces, consText_nil] at hcut
    rw [compile, Template.names, hok]
    simp only [occurrences, hcut]
    have hsame : ∀ n ∈ placeholders source, resolved.lookup n = lookup n := fun n hn =>
      hlookup n (List.mem_eraseDups.2 hn)
    have hsome : ∀ n ∈ placeholders source, (resolved.lookup n).isSome := fun n hn => by
      rw [hsame n hn]
      exact hknown n (List.mem_eraseDups.2 hn)
    rw [← placeholders, mapM_access hsome, List.filterMap_congr hsame]
    rfl

/-! ## The round trip -/

/-- A character in front of segments stands in front of what they are filled to. -/
theorem fillSegments_consChar (c : Char) (segs : List Segment) (vs : List String) :
    fillSegments (consChar c segs) vs = String.ofList [c] ++ fillSegments segs vs := by
  match segs with
  | [] => rfl
  | .slot :: _ => rfl
  | .text s :: segs =>
    rw [consChar, fillSegments, fillSegments, ← String.append_assoc]
    congr 1
    apply String.toList_inj.1
    simp

/-- The text of a placeholder of that name. -/
def placeholderText (name : String) : String := "\x7b" ++ name ++ "\x7d"

/-- The value of a name, or the text of its placeholder when `f` does not know it. -/
def valueOrText (f : String → Option String) (name : String) : String :=
  (f name).getD (placeholderText name)

/-- The piece that is a placeholder is replaced by its value or left as it is. -/
theorem ofList_replaced_field (f : String → Option String) (name : List Char) :
    String.ofList (Piece.replaced f (.field name)) = valueOrText f (String.ofList name) := by
  rw [Piece.replaced, valueOrText]
  cases f (String.ofList name) with
  | none =>
    apply String.toList_inj.1
    simp [Piece.source, placeholderText]
  | some v => simp

/-- Filling the segments of pieces with the values of their placeholders replaces each piece by
itself. -/
theorem fillSegments_segmentsOf (f : String → Option String) (ps : List Piece) :
    fillSegments (segmentsOf ps) ((fieldNames ps).map (valueOrText f)) =
      String.ofList (ps.flatMap (Piece.replaced f)) := by
  induction ps with
  | nil => rfl
  | cons p ps ih =>
    rw [List.flatMap_cons, String.ofList_append]
    cases p with
    | char c =>
      rw [segmentsOf, fieldNames_char, fillSegments_consChar, ih]
      rfl
    | field name =>
      rw [segmentsOf, fieldNames_field, List.map_cons, fillSegments, ih, ofList_replaced_field]

/-- A lookup that knows every name gives a template of the pieces. -/
theorem compile_of_total (g : String → α) (source : String) :
    compile (fun n => some (g n)) source =
      .ok ⟨segmentsOf (pieces source.toList), (placeholders source).map g⟩ := by
  have hnone : ((placeholders source).find? fun n => (some (g n)).isNone) = none := by
    rw [List.find?_eq_none]
    simp
  rw [compile_eq, hnone, List.filterMap_eq_map']

/-- Replacing nothing leaves a format as it is. -/
theorem substitute_none (source : String) : substitute (fun _ => none) source = source := by
  have hsource : Piece.replaced (fun _ => none) = Piece.source := by
    funext p
    cases p <;> rfl
  rw [substitute, hsource, flatMap_source_pieces, String.ofList_toList]

/-- **The round trip.** Whatever names `f` knows and whatever texts it gives for them, a format
compiles when unknown names stand for their own text, and the template filled with its accessors is
the format with the known names replaced. When `f` knows nothing that is the format itself. -/
theorem compile_fill_eq_substitute (f : String → Option String) (source : String) :
    (∃ t, compile (fun n => some (valueOrText f n)) source = .ok t ∧
      t.fill t.accessors = substitute f source) ∧
    ∃ t, compile (fun n => some (placeholderText n)) source = .ok t ∧
      t.fill t.accessors = source := by
  constructor
  · exact ⟨_, compile_of_total (valueOrText f) source, fillSegments_segmentsOf f _⟩
  · refine ⟨_, compile_of_total placeholderText source, ?_⟩
    have hfill := fillSegments_segmentsOf (fun _ => none) (pieces source.toList)
    rw [← substitute, substitute_none] at hfill
    exact hfill

/-- A value is not scanned again, even when it looks like a placeholder. -/
example : substitute (fun n => if n = "a" then some "\x7bb\x7d" else some "v") "\x7ba\x7d \x7bb\x7d" =
    "\x7bb\x7d v" := by decide

end ErrorTaxonomy.Template
