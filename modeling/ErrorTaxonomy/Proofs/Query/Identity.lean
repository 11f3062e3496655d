import ErrorTaxonomy.Main.Query.Interpreter
import ErrorTaxonomy.Proofs.Json.Numeral
import ErrorTaxonomy.Proofs.Query.Run

/-! # The identity filter — a document that is written and read again

An engine keeps the numbers of a document as they are written. What its identity filter gives is the text
of the document, read again: the document itself with its numbers read back from their texts
(`exists_run_identity`). Integers of 64 bits are read back as they are, so that a document without other
numbers survives its text unchanged (`run_identity_integers`). All this is said of any engine that has the
identity; the interpreter has it (`interpreter_hasIdentity`). -/

namespace ErrorTaxonomy.Query

open Json (Number)

variable {engine : Engine}

/-! ## The interpreter -/

/-- A number that is kept is written as in a document. -/
theorem text_ofNumber (n : Number) : (Numeral.ofNumber n).text = n.text := by
  cases n with
  | int n =>
    rw [Numeral.ofNumber]
    split_ifs <;> rfl
  | real x => rfl

/-- The value of a document is written as the document is. -/
theorem text_ofJson (v : Json) : (Value.ofJson v).text = v.render style := by
  have hstyle : Value.style.comap Numeral.ofNumber = style := by
    rw [Json.Style.comap, style, Value.style]
    exact congrArg (Json.Style.mk · stringChar) (funext text_ofNumber)
  rw [Value.text, Json.Tree.render, Json.Tree.render, Value.ofJson, Json.chars_map, hstyle]

/-- **The interpreter has the identity.** -/
theorem interpreter_hasIdentity : interpreter.HasIdentity := by
  have hfilter : readFilter "." = some .self := by rfl
  have hnames : Term.self.undefinedNames [] = [] := rfl
  refine ⟨fun document => ⟨(Term.self.run [] (Value.ofJson document)).map answer, true⟩, ?_, ?_⟩
  · simp only [interpreter, hfilter, hnames]
  · intro document
    rw [← text_ofJson]
    rfl

/-! ## Documents -/

/-- The style in which a document is passed on is read back. -/
theorem readBack_style {kind : Number → Prop} {reread : Number → Number}
    (h : ∀ n : Number, kind n → Json.Spells n.text.toList (reread n)) :
    style.ReadBack kind reread where
  character c s := by
    change Json.stringBody (stringChar c ++ s) = _
    rw [stringChar]
    split_ifs with hcontrol
    · refine Json.stringBody_controlEscape ?_
      obtain rfl | rfl := hcontrol <;> decide
    · exact Json.stringBody_stringChar c
  number n hn := h n hn

/-- The text of a document is read as the document with its numbers read back. -/
theorem read_render {kind : Number → Prop} {reread : Number → Number}
    (h : ∀ n : Number, kind n → Json.Spells n.text.toList (reread n)) {v : Json}
    (hv : Json.Readable kind Json.deepest v) :
    Json.read (v.render style) = .ok (v.map reread) := by
  have hread := Json.value_chars (readBack_style h) hv [] trivial
  rw [List.append_nil] at hread
  rw [Json.read, Json.Tree.render, String.toList_ofList, hread]
  rfl

/-- The identity filter gives what the text of a document is read as. -/
theorem run_identity_of_read (hengine : engine.HasIdentity) {v w : Json}
    (h : Json.read (v.render style) = .ok w) : run engine "." v = .ok [w] := by
  obtain ⟨program, hcompile, hprogram⟩ := hengine
  refine run_eq_ok_iff.2 (.mk hcompile ?_ ?_)
  · rw [hprogram]
    exact .cons (mapError_eq_ok_iff.2 h) .nil
  · rw [hprogram]

/-- **The identity filter** gives a document that was read back once, with its numbers read again. -/
theorem exists_run_identity (hengine : engine.HasIdentity) {s rest : List Char} {v : Json}
    (hv : Json.value Json.deepest s = .ok (v, rest)) :
    ∃ reread : Number → Number, run engine "." v = .ok [v.map reread] := by
  have hspells : ∀ n : Number, ∃ m, n.Proper → Json.Spells n.text.toList m := by
    intro n
    by_cases hn : n.Proper
    · obtain ⟨m, hm⟩ := Json.exists_spells hn
      exact ⟨m, fun _ => hm⟩
    · exact ⟨n, fun h => absurd h hn⟩
  choose reread hreread using hspells
  have hreadable := Json.readable_of_value (fun _ _ _ _ => Json.proper_of_numeral) hv
  exact ⟨reread, run_identity_of_read hengine (read_render hreread hreadable)⟩

/-! ## Documents of integers -/

/-- A number is an **integer of 64 bits**, signed or not. -/
def IsInteger : Number → Prop
  | .int n => Number.fits n
  | .real _ => False

/-- **Integers survive** their text as they are. -/
theorem spells_self {n : Number} (h : IsInteger n) : Json.Spells n.text.toList n := by
  cases n with
  | int n => exact Json.spells_int h
  | real x => exact h.elim

/-- **A document of integers survives** its text: its text, in which strings, keys, order and nesting are
written out, is read as the document, and so the identity filter of an engine gives the document itself and
nothing else. -/
theorem run_identity_integers (hengine : engine.HasIdentity) {v : Json}
    (hv : Json.Readable IsInteger Json.deepest v) :
    Json.read (v.render style) = .ok v ∧ run engine "." v = .ok [v] := by
  have hread : Json.read (v.render style) = .ok v := by
    have hreread := read_render (fun n hn => show Json.Spells _ (id n) from spells_self hn) hv
    rwa [Json.map_id] at hreread
  exact ⟨hread, run_identity_of_read hengine hread⟩

/-- A document with the least and the largest integer, with characters of strings and keys that are written
with an escape, and with keys that are not in order. -/
def escapedDocument : Json := .obj [
  ("z\"\\", .arr [.num (.int (-0x8000000000000000)), .num (.int 0xFFFFFFFFFFFFFFFF)]),
  ("a\n", .obj [("", .str "\t\x01\x08/é\x7f")])]

/-- The document comes back from the interpreter with all its characters, in the same order. -/
theorem run_identity_integers_escapedDocument :
    interpreter.HasIdentity ∧ Json.Readable IsInteger Json.deepest escapedDocument ∧
      Json.read (escapedDocument.render style) = .ok escapedDocument ∧
      run interpreter "." escapedDocument = .ok [escapedDocument] := by
  have hreadable : Json.Readable IsInteger Json.deepest escapedDocument := by
    refine .obj (by decide) (List.forall_mem_cons.2 ⟨.arr ?_, List.forall_mem_singleton.2 (.obj ?_ ?_)⟩)
    · have hleast : Number.fits (-0x8000000000000000) := by decide
      have hlargest : Number.fits 0xFFFFFFFFFFFFFFFF := by decide
      exact List.forall_mem_cons.2 ⟨.num hleast, List.forall_mem_singleton.2 (.num hlargest)⟩
    · decide
    · exact List.forall_mem_singleton.2 (.str _)
  exact ⟨interpreter_hasIdentity, hreadable, run_identity_integers interpreter_hasIdentity hreadable⟩

end ErrorTaxonomy.Query
