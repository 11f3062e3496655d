import ErrorTaxonomy.Load.Basic
import ErrorTaxonomy.Proofs.Query.Identity
import ErrorTaxonomy.Proofs.Schema.Numbers
import ErrorTaxonomy.Proofs.Traversal

/-! # The identity filter on a file — two readers of one text

Without a filter a file is read up to the end of its first value; with one it must hold a single value. The
identity filter of an engine therefore gives the units of the file itself exactly where nothing but blanks
follows that value (`Load.file_identity_iff`), and refuses the file where something does. -/

namespace ErrorTaxonomy

/-! ## One value and blanks -/

/-- A text **holds one value**: nothing but blanks follows the first one. -/
def Json.HoldsOne (source : String) : Prop :=
  ∃ v rest, Json.value Json.deepest source.toList = .ok (v, rest) ∧ Json.skipBlank rest = []

/-- The reader of one value reads the first value where nothing but blanks follows it. -/
theorem Json.read_eq_ok_iff {source : String} {v : Json} :
    Json.read source = .ok v ↔ Json.readFirst source = .ok v ∧ Json.HoldsOne source := by
  rw [Json.read, Json.readFirst, Json.HoldsOne]
  cases hv : Json.value Json.deepest source.toList with
  | error f =>
    constructor
    · intro h
      cases h
    · rintro ⟨h, -⟩
      cases h
  | ok p =>
    obtain ⟨w, rest⟩ := p
    cases hblank : Json.skipBlank rest with
    | nil =>
      simp only [bind, Except.bind, hblank]
      exact ⟨fun h => ⟨h, w, rest, rfl, hblank⟩, fun h => h.1⟩
    | cons c t =>
      simp only [bind, Except.bind, hblank]
      constructor
      · intro h
        cases h
      · rintro ⟨-, w', rest', hv', hblank'⟩
        cases hv'
        rw [hblank] at hblank'
        cases hblank'

/-- The first value of a text is what the reader of values finds at its beginning. -/
theorem Json.readFirst_eq_ok_iff {source : String} {v : Json} :
    Json.readFirst source = .ok v ↔
      ∃ rest, Json.value Json.deepest source.toList = .ok (v, rest) := by
  rw [Json.readFirst, map_eq_ok_iff]
  constructor
  · rintro ⟨⟨w, rest⟩, hv, rfl⟩
    exact ⟨rest, hv⟩
  · rintro ⟨rest, hv⟩
    exact ⟨_, hv, rfl⟩

namespace Load

variable {engine : Query.Engine} {fs : FileSystem} {path origin source : String} {us : List SchemaUnit}

theorem unitsOfText_eq_ok_iff : Document.unitsOfText origin source = .ok us ↔
    ∃ v, Json.readFirst source = .ok v ∧ Schema.units v = .ok us := by
  simp only [Document.unitsOfText, Document.unitsOfJson, bind_eq_ok_iff, mapError_eq_ok_iff]

/-- The units of a single output are the units of a filtered document. -/
theorem unitsOfOutput_eq_ok_iff {v : Json} :
    ([v].mapM (Document.unitsOfJson origin)).map List.flatten = .ok us ↔
      Schema.units v = .ok us := by
  simp only [map_eq_ok_iff, mapM_eq_ok_iff, List.forall₂_cons_left_iff, List.forall₂_nil_left_iff,
    Document.unitsOfJson, mapError_eq_ok_iff]
  constructor
  · rintro ⟨_, ⟨us', _, hus', rfl, rfl⟩, rfl⟩
    rw [List.flatten_singleton]
    exact hus'
  · intro hus
    exact ⟨[us], ⟨us, [], hus, rfl, rfl⟩, List.flatten_singleton⟩

/-- A document that goes through the identity filter gives the units it gives anyway. -/
theorem filtered_identity_iff (hengine : engine.HasIdentity) : filtered engine origin source "." = .ok us ↔
    ∃ v, Json.read source = .ok v ∧ Schema.units v = .ok us := by
  rw [filtered, bind_eq_ok_iff]
  refine exists_congr fun v => ?_
  rw [mapError_eq_ok_iff]
  refine and_congr_right fun hread => ?_
  obtain ⟨rest, hv⟩ := Json.readFirst_eq_ok_iff.1 (Json.read_eq_ok_iff.1 hread).1
  -- the output may differ from the document in its numbers, but no unit holds a number
  obtain ⟨reread, hrun⟩ := Query.exists_run_identity hengine hv
  rw [hrun, ← eq_ok_iff_of_toOption_eq (Schema.units_map reread v),
    ← unitsOfOutput_eq_ok_iff, map_eq_ok_iff]
  simp only [bind_eq_ok_iff, mapError_eq_ok_iff, Except.ok.injEq, exists_eq_left']
  exact exists_congr fun parts => and_congr_right fun _ => pure_eq_ok_iff

/-- **The identity filter** gives the units of a file that holds one value, and of no other. -/
theorem file_identity_iff (hengine : engine.HasIdentity) : file engine fs (some ".") path = .ok us ↔
    file engine fs none path = .ok us ∧
      ∃ source, fs.readText path = .ok source ∧ Json.HoldsOne source := by
  simp only [file, ofText, bind_eq_ok_iff, mapError_eq_ok_iff, filtered_identity_iff hengine,
    unitsOfText_eq_ok_iff, Json.read_eq_ok_iff]
  constructor
  · rintro ⟨source, hsource, v, ⟨hv, hone⟩, hus⟩
    exact ⟨⟨source, hsource, v, hv, hus⟩, source, hsource, hone⟩
  · rintro ⟨⟨source, hsource, v, hv, hus⟩, source', hsource', hone⟩
    obtain rfl := Except.ok.inj (hsource.symm.trans hsource')
    exact ⟨source, hsource, v, ⟨hv, hone⟩, hus⟩

/-- A file with one document, and a file with two, one after the other. -/
def documents : FileSystem := ⟨["work"], [
  (["work"], .dir),
  (["work", "one.json"], .file (Text.encodeUtf8 "\x7b\"file\": \"a.proto\"\x7d\n") false),
  (["work", "two.json"], .file (Text.encodeUtf8
    "\x7b\"file\": \"a.proto\"\x7d \x7b\"file\": \"b.proto\"\x7d") false)], []⟩

/-- **A single document** gives its unit with the identity filter of the interpreter and without it. -/
theorem file_identity_oneDocument :
    Query.interpreter.HasIdentity ∧
    ∃ us, us.map SchemaUnit.file = ["a.proto"] ∧
      file Query.interpreter documents none "one.json" = .ok us ∧
      file Query.interpreter documents (some ".") "one.json" = .ok us := by
  obtain ⟨hread, hone, hfiles⟩ :
      documents.readText "one.json" = .ok "\x7b\"file\": \"a.proto\"\x7d\n" ∧
      (Json.read "\x7b\"file\": \"a.proto\"\x7d\n").isOk ∧
      (file Query.interpreter documents none "one.json").map (List.map SchemaUnit.file) =
        .ok ["a.proto"] := by
    decide +kernel
  obtain ⟨us, hus, hfiles⟩ := map_eq_ok_iff.1 hfiles
  obtain ⟨v, hv⟩ := exists_eq_ok_of_isOk hone
  refine ⟨Query.interpreter_hasIdentity, us, hfiles, hus, ?_⟩
  exact (file_identity_iff Query.interpreter_hasIdentity).2
    ⟨hus, _, hread, (Json.read_eq_ok_iff.1 hv).2⟩

/-- **A second document** is lost where there is no filter, and refused by the identity filter. -/
theorem file_loses_document :
    (file Query.interpreter documents none "two.json").map (List.map SchemaUnit.file) =
        .ok ["a.proto"] ∧
      (file Query.interpreter documents (some ".") "two.json").map (List.map SchemaUnit.file) =
        .error (.error
          (.undecodable "two.json" [] "trailing characters at line 1 column 21")) := by
  decide +kernel

end Load

end ErrorTaxonomy
