import ErrorTaxonomy.Load.Basic
import ErrorTaxonomy.Proofs.Traversal

/-! # Load failures — what keeps units from being loaded

Patterns are expanded first and files read after that, each file through the stages of its own: it is
read, parsed, filtered if there is a filter, and decoded. A file that fails in one of them **spoils** the
load (`Load.Spoils`), and a load **breaks** at a pattern or at a spoiled file, wherever it stands
(`Load.fails_all_iff`). -/

namespace ErrorTaxonomy.Load

variable {tools : Tools} {engine : Query.Engine} {fs : FileSystem} {filter : Option String}

/-- A file **spoils** a load: one of the stages it goes through fails. -/
inductive Spoils (engine : Query.Engine) (fs : FileSystem) : Option String → String → Prop
  /-- The file cannot be read, or is no text. -/
  | unreadable {filter path} (read : Fails (fs.readText path)) : Spoils engine fs filter path
  /-- The text is no document. -/
  | undecodable {path source} (read : fs.readText path = .ok source)
      (decode : Fails (Document.unitsOfText path source)) : Spoils engine fs none path
  /-- The text is to be filtered and is no JSON. -/
  | notJson {filter path source} (read : fs.readText path = .ok source)
      (parse : Fails (Json.read source)) : Spoils engine fs (some filter) path
  /-- The filter fails on the document, or never ends. -/
  | unfiltered {filter path source document} (read : fs.readText path = .ok source)
      (parse : Json.read source = .ok document) (query : Fails (Query.run engine filter document)) :
    Spoils engine fs (some filter) path
  /-- The filter gives a value that holds no units. -/
  | unitless {filter path source document outputs v} (read : fs.readText path = .ok source)
      (parse : Json.read source = .ok document) (query : Query.run engine filter document = .ok outputs)
      (output : v ∈ outputs) (decode : Fails (Document.unitsOfJson path v)) :
    Spoils engine fs (some filter) path

/-- A filtered text gives no units when it is no JSON, when the filter fails on it, or when some output
holds none. -/
theorem fails_filtered_iff {origin source expr : String} : Fails (filtered engine origin source expr) ↔
    Fails (Json.read source) ∨ ∃ document, Json.read source = .ok document ∧
      (Fails (Query.run engine expr document) ∨ ∃ outputs, Query.run engine expr document = .ok outputs ∧
        ∃ v ∈ outputs, Fails (Document.unitsOfJson origin v)) := by
  simp only [filtered, fails_bind_iff, fails_mapError_iff, mapError_eq_ok_iff, fails_mapM_iff,
    not_fails_pure, and_false, exists_false, or_false]

/-- **A file fails** when it spoils the load. -/
theorem fails_file_iff {path : String} :
    Fails (file engine fs filter path) ↔ Spoils engine fs filter path := by
  rw [file, fails_bind_iff, fails_mapError_iff]
  constructor
  · rintro (hread | ⟨source, hread, hunits⟩)
    · exact .unreadable hread
    · have hread := mapError_eq_ok_iff.1 hread
      cases filter with
      | none => exact .undecodable hread (fails_mapError_iff.1 hunits)
      | some expr =>
        obtain hparse | ⟨document, hparse, hquery | ⟨outputs, hquery, v, hv, hdecode⟩⟩ :=
          fails_filtered_iff.1 hunits
        · exact .notJson hread hparse
        · exact .unfiltered hread hparse hquery
        · exact .unitless hread hparse hquery hv hdecode
  · intro h
    cases h with
    | unreadable read => exact .inl read
    | undecodable read decode =>
      exact .inr ⟨_, mapError_eq_ok_iff.2 read, fails_mapError_iff.2 decode⟩
    | notJson read parse =>
      exact .inr ⟨_, mapError_eq_ok_iff.2 read, fails_filtered_iff.2 (.inl parse)⟩
    | unfiltered read parse query =>
      exact .inr ⟨_, mapError_eq_ok_iff.2 read, fails_filtered_iff.2 (.inr ⟨_, parse, .inl query⟩)⟩
    | unitless read parse query output decode =>
      exact .inr ⟨_, mapError_eq_ok_iff.2 read,
        fails_filtered_iff.2 (.inr ⟨_, parse, .inr ⟨_, query, _, output, decode⟩⟩)⟩

/-- A load **breaks**: some pattern cannot be expanded, or some file that the patterns name spoils it. -/
inductive Breaks (tools : Tools) (fs : FileSystem) (filter : Option String) (patterns : List String) :
    Prop
  | pattern {pattern} (mem : pattern ∈ patterns) (expand : Fails (expand tools.search fs pattern))
  | file {paths path} (expand : expandAll tools.search fs patterns = .ok paths) (mem : path ∈ paths)
      (spoils : Spoils tools.engine fs filter path)

/-- **A load fails** when it breaks at a pattern or at a file. -/
theorem fails_all_iff {patterns : List String} :
    Fails (all tools fs filter patterns) ↔ Breaks tools fs filter patterns := by
  rw [all, fails_bind_iff, fails_mapError_iff, paths, fails_mapError_iff]
  simp only [mapError_eq_ok_iff]
  constructor
  · rintro (hexpand | ⟨paths, hexpand, hfiles⟩)
    · rw [expandAll, fails_map_iff, fails_mapM_iff] at hexpand
      obtain ⟨pattern, hmem, hfails⟩ := hexpand
      exact .pattern hmem hfails
    · rw [files, fails_map_iff, fails_mapM_iff] at hfiles
      obtain ⟨path, hmem, hfails⟩ := hfiles
      exact .file hexpand hmem (fails_file_iff.1 hfails)
  · intro h
    cases h with
    | pattern mem expand =>
      refine .inl ?_
      rw [expandAll, fails_map_iff, fails_mapM_iff]
      exact ⟨_, mem, expand⟩
    | file expand mem spoils =>
      refine .inr ⟨_, expand, ?_⟩
      rw [files, fails_map_iff, fails_mapM_iff]
      exact ⟨_, mem, fails_file_iff.2 spoils⟩

end ErrorTaxonomy.Load
