import ErrorTaxonomy.Load.Basic
import ErrorTaxonomy.Proofs.Load.Pattern
import ErrorTaxonomy.Proofs.Query.Run
import ErrorTaxonomy.Proofs.Schema.Lists
import ErrorTaxonomy.Proofs.Traversal

/-! # Loading in order — which units come first and which error is reported

A load goes through three lists, one inside the other: patterns, the paths that a pattern names, and the
values that a filter yields for a file. What a load gives and what it stops at is said here without the
program, as `Load.Loads` and `Load.Stops`; `Load.all_in_order` proves that the program does just that with
any search and any engine, and that loading two lists of patterns, one after the other, is loading both. No
file is read before every pattern is expanded, so a bad pattern is reported before a bad file, wherever the
two stand; and no output of a filter is decoded before the filter has yielded them all. -/

namespace ErrorTaxonomy

/-! ## Units of a document -/

/-- A document **holds** units: it is a list with one unit for each item, or it is a single unit. -/
inductive Document.Holds : Json → List SchemaUnit → Prop
  | list {vs : List Json} {us : List SchemaUnit}
      (items : List.Forall₂ (fun v u => Schema.unit v = .ok u) vs us) : Holds (.arr vs) us
  | single {v : Json} {u : SchemaUnit} (notList : ∀ vs, v ≠ .arr vs) (unit : Schema.unit v = .ok u) :
    Holds v [u]

/-- A document decodes to the units that it holds. -/
theorem Document.unitsOfJson_eq_ok_iff_holds {origin : String} {v : Json} {us : List SchemaUnit} :
    Document.unitsOfJson origin v = .ok us ↔ Document.Holds v us := by
  by_cases hv : ∃ vs, v = .arr vs
  · obtain ⟨vs, rfl⟩ := hv
    rw [Schema.unitsOfJson_arr_eq_ok_iff]
    refine ⟨.list, fun h => ?_⟩
    cases h with
    | list items => exact items
    | single notList => exact absurd rfl (notList vs)
  · have hnot : ∀ vs, v ≠ .arr vs := fun vs h => hv ⟨vs, h⟩
    rw [Schema.unitsOfJson_eq_ok_iff hnot]
    constructor
    · rintro ⟨u, hu, rfl⟩
      exact .single hnot hu
    · intro h
      cases h with
      | list items => exact absurd rfl (hnot _)
      | single _ unit => exact ⟨_, unit, rfl⟩

namespace Load

variable {tools : Tools} {engine : Query.Engine} {fs : FileSystem} {filter : Option String}
  {patterns : List String} {path : String} {us : List SchemaUnit} {e : NoResult LoadError}

/-! ## Files -/

/-- A file **gives** units: those of its document, or those of the values that the filter yields for it,
value by value. -/
inductive Gives (engine : Query.Engine) (fs : FileSystem) :
    Option String → String → List SchemaUnit → Prop
  | whole {path source : String} {document : Json} {us : List SchemaUnit}
      (read : fs.readText path = .ok source) (parse : Json.readFirst source = .ok document)
      (holds : Document.Holds document us) : Gives engine fs none path us
  | filtered {expr path source : String} {document : Json} {outputs : List Json}
      {parts : List (List SchemaUnit)} (read : fs.readText path = .ok source)
      (parse : Json.read source = .ok document) (yields : Query.Yields engine expr document outputs)
      (holds : List.Forall₂ Document.Holds outputs parts) :
    Gives engine fs (some expr) path parts.flatten

/-- A file **is refused** with an error, or by a filter that never ends. Where the filter gives up, nothing
is asked of its outputs. -/
inductive Refuses (engine : Query.Engine) (fs : FileSystem) :
    Option String → String → NoResult LoadError → Prop
  /-- The file cannot be read. -/
  | unreadable {filter : Option String} {path : String} {error : OsError}
      (read : fs.readText path = .error error) :
    Refuses engine fs filter path (.error (.unreadable path error))
  /-- The text does not decode. -/
  | undecodable {path source : String} {e : LoadError} (read : fs.readText path = .ok source)
      (decode : Document.unitsOfText path source = .error e) : Refuses engine fs none path (.error e)
  /-- The text is to be filtered and is no JSON. -/
  | notJson {expr path source : String} {f : Json.Failure} (read : fs.readText path = .ok source)
      (parse : Json.read source = .error f) :
    Refuses engine fs (some expr) path (.error (.undecodable path [] (f.message source.toList)))
  /-- The filter gives up. -/
  | unfiltered {expr path source : String} {document : Json} {q : NoResult Query.QueryError}
      (read : fs.readText path = .ok source) (parse : Json.read source = .ok document)
      (query : Query.GivesUp engine expr document q) :
    Refuses engine fs (some expr) path (q.map (.query path))
  /-- The filter yields all its values, and the first that does not decode is `v`. -/
  | unitless {expr path source : String} {document v : Json} {before after : List Json} {e : LoadError}
      (read : fs.readText path = .ok source) (parse : Json.read source = .ok document)
      (yields : Query.Yields engine expr document (before ++ v :: after))
      (holds : ∀ w ∈ before, ∃ us, Document.Holds w us)
      (decode : Document.unitsOfJson path v = .error e) :
    Refuses engine fs (some expr) path (.error e)

/-- A text decodes to the units of its first value. -/
theorem unitsOfText_eq_ok_iff_holds {origin source : String} :
    Document.unitsOfText origin source = .ok us ↔
      ∃ document, Json.readFirst source = .ok document ∧ Document.Holds document us := by
  simp only [Document.unitsOfText, bind_eq_ok_iff, mapError_eq_ok_iff,
    Document.unitsOfJson_eq_ok_iff_holds]

/-- A filtered text gives the units of all values that the filter yields. -/
theorem filtered_eq_ok_iff {origin source expr : String} : filtered engine origin source expr = .ok us ↔
    ∃ document, Json.read source = .ok document ∧
      ∃ outputs, Query.Yields engine expr document outputs ∧
        ∃ parts, List.Forall₂ Document.Holds outputs parts ∧ parts.flatten = us := by
  simp only [filtered, bind_eq_ok_iff, mapError_eq_ok_iff, Query.run_eq_ok_iff, mapM_eq_ok_iff,
    Document.unitsOfJson_eq_ok_iff_holds, pure_eq_ok_iff]

/-- A filtered text fails as no JSON, then with the filter, then with the first value that does not
decode. -/
theorem filtered_eq_error_iff {origin source expr : String} :
    filtered engine origin source expr = .error e ↔
      (∃ f, Json.read source = .error f ∧
        .error (.undecodable origin [] (f.message source.toList)) = e) ∨
      ∃ document, Json.read source = .ok document ∧
        ((∃ q, Query.GivesUp engine expr document q ∧ q.map (.query origin) = e) ∨
          ∃ outputs, Query.Yields engine expr document outputs ∧ ∃ e', (∃ before v after,
            outputs = before ++ v :: after ∧ (∀ w ∈ before, ∃ us, Document.Holds w us) ∧
              Document.unitsOfJson origin v = .error e') ∧ .error e' = e) := by
  simp only [filtered, bind_eq_error_iff, mapError_eq_error_iff, mapError_eq_ok_iff,
    Query.run_eq_ok_iff, Query.run_eq_error_iff, mapM_eq_error_iff,
    Document.unitsOfJson_eq_ok_iff_holds, pure_ne_error, and_false, exists_false, or_false]

/-- **A file loads** with the units that it gives. -/
theorem file_eq_ok_iff : file engine fs filter path = .ok us ↔ Gives engine fs filter path us := by
  rw [file, bind_eq_ok_iff]
  constructor
  · rintro ⟨source, hread, h⟩
    have hread := mapError_eq_ok_iff.1 hread
    cases filter with
    | none =>
      obtain ⟨document, hparse, hholds⟩ := unitsOfText_eq_ok_iff_holds.1 (mapError_eq_ok_iff.1 h)
      exact .whole hread hparse hholds
    | some expr =>
      obtain ⟨document, hparse, outputs, hyields, parts, hholds, rfl⟩ := filtered_eq_ok_iff.1 h
      exact .filtered hread hparse hyields hholds
  · intro h
    cases h with
    | whole read parse holds =>
      exact ⟨_, mapError_eq_ok_iff.2 read,
        mapError_eq_ok_iff.2 (unitsOfText_eq_ok_iff_holds.2 ⟨_, parse, holds⟩)⟩
    | filtered read parse yields holds =>
      exact ⟨_, mapError_eq_ok_iff.2 read,
        filtered_eq_ok_iff.2 ⟨_, parse, _, yields, _, holds, rfl⟩⟩

/-- **A file fails** as it is refused. -/
theorem file_eq_error_iff :
    file engine fs filter path = .error e ↔ Refuses engine fs filter path e := by
  rw [file, bind_eq_error_iff, mapError_eq_error_iff]
  constructor
  · rintro (⟨error, hread, rfl⟩ | ⟨source, hread, h⟩)
    · exact .unreadable hread
    · have hread := mapError_eq_ok_iff.1 hread
      cases filter with
      | none =>
        obtain ⟨error, hdecode, rfl⟩ := mapError_eq_error_iff.1 h
        exact .undecodable hread hdecode
      | some expr =>
        obtain ⟨f, hparse, rfl⟩ | ⟨document, hparse, ⟨q, hquery, rfl⟩ |
          ⟨_, hyields, _, ⟨before, v, after, rfl, hholds, hdecode⟩, rfl⟩⟩ := filtered_eq_error_iff.1 h
        · exact .notJson hread hparse
        · exact .unfiltered hread hparse hquery
        · exact .unitless hread hparse hyields hholds hdecode
  · intro h
    cases h with
    | unreadable read => exact .inl ⟨_, read, rfl⟩
    | undecodable read decode =>
      exact .inr ⟨_, mapError_eq_ok_iff.2 read, mapError_eq_error_iff.2 ⟨_, decode, rfl⟩⟩
    | notJson read parse =>
      exact .inr ⟨_, mapError_eq_ok_iff.2 read, filtered_eq_error_iff.2 (.inl ⟨_, parse, rfl⟩)⟩
    | unfiltered read parse query =>
      exact .inr ⟨_, mapError_eq_ok_iff.2 read,
        filtered_eq_error_iff.2 (.inr ⟨_, parse, .inl ⟨_, query, rfl⟩⟩)⟩
    | unitless read parse yields holds decode =>
      exact .inr ⟨_, mapError_eq_ok_iff.2 read, filtered_eq_error_iff.2
        (.inr ⟨_, parse, .inr ⟨_, yields, _, ⟨_, _, _, rfl, holds, decode⟩, rfl⟩⟩)⟩

/-! ## Patterns -/

/-- The files that patterns name **load** with units: those of each file, in the order in which the
patterns name them. -/
inductive Loads (tools : Tools) (fs : FileSystem) (filter : Option String) (patterns : List String) :
    List SchemaUnit → Prop
  | mk {paths : List (List String)} {parts : List (List SchemaUnit)}
      (named : List.Forall₂ (Names tools.search fs) patterns paths)
      (given : List.Forall₂ (Gives tools.engine fs filter) paths.flatten parts) :
    Loads tools fs filter patterns parts.flatten

/-- A load **stops**: at the first pattern that names nothing, or, where none is, at the first file that is
refused. -/
inductive Stops (tools : Tools) (fs : FileSystem) (filter : Option String) (patterns : List String) :
    NoResult LoadError → Prop
  | pattern {before after : List String} {p : String} {e : PatternError}
      (here : patterns = before ++ p :: after) (named : ∀ q ∈ before, ∃ ps, Names tools.search fs q ps)
      (unnamed : NamesNothing tools.search fs p e) : Stops tools fs filter patterns (.error (.pattern e))
  | file {paths : List (List String)} {before after : List String} {path : String}
      {e : NoResult LoadError} (named : List.Forall₂ (Names tools.search fs) patterns paths)
      (here : paths.flatten = before ++ path :: after)
      (given : ∀ q ∈ before, ∃ us, Gives tools.engine fs filter q us)
      (refused : Refuses tools.engine fs filter path e) : Stops tools fs filter patterns e

/-- The results of two traversals, each put together, are those of the traversal of both lists. -/
theorem map_flatten_mapM_append_iff {ε α β : Type} {f : α → Except ε (List β)} {as as' : List α}
    {bs : List β} : ((as ++ as').mapM f).map List.flatten = .ok bs ↔
      ∃ xs ys, (as.mapM f).map List.flatten = .ok xs ∧ (as'.mapM f).map List.flatten = .ok ys ∧
        xs ++ ys = bs := by
  simp only [map_eq_ok_iff, mapM_append_eq_ok_iff]
  constructor
  · rintro ⟨_, ⟨xs, ys, hxs, hys, rfl⟩, rfl⟩
    exact ⟨_, _, ⟨xs, hxs, rfl⟩, ⟨ys, hys, rfl⟩, List.flatten_append.symm⟩
  · rintro ⟨_, _, ⟨xs, hxs, rfl⟩, ⟨ys, hys, rfl⟩, rfl⟩
    exact ⟨_, ⟨xs, ys, hxs, hys, rfl⟩, List.flatten_append⟩

/-- A load is the load of the files at the paths that the patterns name. -/
theorem all_eq_ok_iff_files : all tools fs filter patterns = .ok us ↔
    ∃ paths, expandAll tools.search fs patterns = .ok paths ∧
      files tools.engine fs filter paths = .ok us := by
  simp only [all, paths, bind_eq_ok_iff, mapError_eq_ok_iff]

/-- **Loading is compositional**: two lists of patterns, one after the other, load when both do, with the
units of the first before those of the second. -/
theorem all_append_iff {ps qs : List String} : all tools fs filter (ps ++ qs) = .ok us ↔
    ∃ us₁ us₂, all tools fs filter ps = .ok us₁ ∧ all tools fs filter qs = .ok us₂ ∧
      us₁ ++ us₂ = us := by
  simp only [all_eq_ok_iff_files]
  constructor
  · rintro ⟨_, hpaths, hfiles⟩
    obtain ⟨paths₁, paths₂, hpaths₁, hpaths₂, rfl⟩ := map_flatten_mapM_append_iff.1 hpaths
    obtain ⟨us₁, us₂, hus₁, hus₂, rfl⟩ := map_flatten_mapM_append_iff.1 hfiles
    exact ⟨us₁, us₂, ⟨paths₁, hpaths₁, hus₁⟩, ⟨paths₂, hpaths₂, hus₂⟩, rfl⟩
  · rintro ⟨us₁, us₂, ⟨paths₁, hpaths₁, hus₁⟩, ⟨paths₂, hpaths₂, hus₂⟩, rfl⟩
    exact ⟨paths₁ ++ paths₂, map_flatten_mapM_append_iff.2 ⟨_, _, hpaths₁, hpaths₂, rfl⟩,
      map_flatten_mapM_append_iff.2 ⟨_, _, hus₁, hus₂, rfl⟩⟩

/-- **A load gives** the units of the files that the patterns name, in that order. -/
theorem all_eq_ok_iff : all tools fs filter patterns = .ok us ↔ Loads tools fs filter patterns us := by
  simp only [all_eq_ok_iff_files, expandAll, files, map_eq_ok_iff, mapM_eq_ok_iff, expand_eq_ok_iff,
    file_eq_ok_iff]
  constructor
  · rintro ⟨_, ⟨paths, hnamed, rfl⟩, parts, hgiven, rfl⟩
    exact .mk hnamed hgiven
  · rintro ⟨hnamed, hgiven⟩
    exact ⟨_, ⟨_, hnamed, rfl⟩, _, hgiven, rfl⟩

/-- **A load fails** at the first pattern that names nothing, or at the first file that is refused. -/
theorem all_eq_error_iff :
    all tools fs filter patterns = .error e ↔ Stops tools fs filter patterns e := by
  simp only [all, paths, bind_eq_error_iff, mapError_eq_error_iff, mapError_eq_ok_iff, expandAll, files,
    map_eq_error_iff, map_eq_ok_iff, mapM_eq_error_iff, mapM_eq_ok_iff, file_eq_ok_iff,
    file_eq_error_iff, expand_eq_ok_iff, expand_eq_error_iff]
  -- the left side of the disjunction is the expansion of all patterns, the right side the files after it
  constructor
  · rintro (⟨_, ⟨_, ⟨before, p, after, hhere, hnamed, hunnamed⟩, rfl⟩, rfl⟩ |
      ⟨_, ⟨paths, hnamed, rfl⟩, before, path, after, hhere, hgiven, hrefused⟩)
    · exact .pattern hhere hnamed hunnamed
    · exact .file hnamed hhere hgiven hrefused
  · intro h
    cases h with
    | pattern here named unnamed =>
      exact .inl ⟨_, ⟨_, ⟨_, _, _, here, named, unnamed⟩, rfl⟩, rfl⟩
    | file named here given refused =>
      exact .inr ⟨_, ⟨_, named, rfl⟩, _, _, _, here, given, refused⟩

/-- **Loading in order**, with any search for files and any engine for filters: a load of two lists of
patterns is the load of the first followed by the load of the second; it gives the units of each file in the
order in which the patterns name the files, and stops at the first pattern that names nothing or else at the
first file that is refused; and a file gives the units of all the values that the filter yields, and is
refused where the filter gives up before any value is decoded. -/
theorem all_in_order (tools : Tools) (fs : FileSystem) (filter : Option String) :
    (∀ ps qs us, all tools fs filter (ps ++ qs) = .ok us ↔
      ∃ us₁ us₂, all tools fs filter ps = .ok us₁ ∧ all tools fs filter qs = .ok us₂ ∧
        us₁ ++ us₂ = us) ∧
    (∀ patterns us, all tools fs filter patterns = .ok us ↔ Loads tools fs filter patterns us) ∧
    (∀ patterns e, all tools fs filter patterns = .error e ↔ Stops tools fs filter patterns e) ∧
    (∀ path us, file tools.engine fs filter path = .ok us ↔ Gives tools.engine fs filter path us) ∧
    ∀ path e, file tools.engine fs filter path = .error e ↔ Refuses tools.engine fs filter path e :=
  ⟨fun _ _ _ => all_append_iff, fun _ _ => all_eq_ok_iff, fun _ _ => all_eq_error_iff,
    fun _ _ => file_eq_ok_iff, fun _ _ => file_eq_error_iff⟩

/-- A directory with a file that holds a unit, and one that may not be read. -/
def partlyReadable : FileSystem := ⟨["work"], [
  (["work"], .dir),
  (["work", "a.json"], .file (Text.encodeUtf8 "\x7b\"file\": \"a.proto\"\x7d") false),
  (["work", "b.json"], .file [] false)],
  [((.read, ["work", "b.json"]), .permissionDenied)]⟩

/-- Tools whose search finds the two files for one pattern and nothing for any other. -/
def findsBoth : Tools where
  search _ pattern := .ok (if pattern = "*.json" then [.ok "a.json", .ok "b.json"] else [])
  engine := ⟨fun _ => .error (.unreadable [])⟩

-- a file may not be read, but the pattern behind it is what the load stops at
example : (all findsBoth partlyReadable none ["a.json", "*.json"]).map List.length =
      .error (.error (.unreadable "b.json" .permissionDenied)) ∧
    (all findsBoth partlyReadable none ["b.json", "*.json", "*.txt"]).map List.length =
      .error (.error (.pattern (.noMatch "*.txt"))) := by
  decide +kernel

end Load

end ErrorTaxonomy
