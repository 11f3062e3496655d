import ErrorTaxonomy.Proofs.Generate.Delegation
import ErrorTaxonomy.Proofs.Ident.Dotted
import ErrorTaxonomy.Proofs.Ident.Path
import ErrorTaxonomy.Proofs.Schema.Package
import ErrorTaxonomy.Proofs.Schema.Snapshot

/-! # Guessed paths — the split of a name does not matter

A type name that the index does not know is split into a package and the path in it, at a loaded package
or at a capital. The two parts are spelled alike, and going up from the package they are written in cancels
what it shares with the guess. So **the path denotes the spelled segments of the name**, wherever the name
was split (`follow_guessPath`). An entry of the index has its own full name spelled the same way, so its
indexed path, its guessed path and the path of its plan denote one item (`paths_denote_entry`). -/

namespace ErrorTaxonomy

/-! ## Spelled names -/

/-- The item that segments are **spelled** as: modules, and a type at the end. -/
def Ident.spell (segments : List String) : List String :=
  segments.dropLast.map fieldIdent ++ (segments.getLast?.map typeIdent).toList

/-- The last segment is spelled as a type and all others as modules. -/
theorem Ident.spell_concat (ss : List String) (s : String) :
    spell (ss ++ [s]) = ss.map fieldIdent ++ [typeIdent s] := by
  rw [spell, List.dropLast_concat, List.getLast?_concat]
  rfl

/-! ## Guesses -/

/-- Segments are cut in two at the guessed place, with something left for the type. -/
theorem Context.guessSplit_spec (name : String) : ∃ n,
    guessSplit name = ((Text.dotted name).take n, (Text.dotted name).drop n) ∧
      (Text.dotted name).drop n ≠ [] := by
  refine ⟨_, rfl, ?_⟩
  have hpos := List.length_pos_iff.2 (Text.dotted_ne_nil name)
  have hle := (List.takeWhile_prefix (!isCapitalized ·)
    (l := (Text.dotted name).dropLast)).length_le
  rw [List.length_dropLast] at hle
  rw [← List.length_pos_iff, List.length_drop]
  omega

/-- **A guess** cuts the segments of a name into a package and the path in it. -/
theorem Context.guessPath_spec (c : Context) {t : String}
    (h : ∀ s ∈ Text.dotted (Text.withoutDot t), s ≠ "") : ∃ package parents last,
      Ident.packageSegments package ++ (parents ++ [last]) = Text.dotted (Text.withoutDot t) ∧
        c.guessPath t = (last, Ident.typePath c.package package parents last) := by
  rw [guessPath]
  generalize Text.withoutDot t = name at *
  have hlast : ∀ {path : List String}, path ≠ [] →
      path.dropLast ++ [path.getLast?.getD name] = path := fun hne => by
    rw [List.getLast?_eq_some_getLast hne, Option.getD_some, List.dropLast_append_getLast]
  dsimp only
  cases hsplit : c.index.splitPackage? name with
  | some split =>
    obtain ⟨package, inner⟩ := split
    obtain ⟨-, hname, -⟩ := (splitPackage?_eq_some_iff _ _ _ _).1 hsplit
    rw [Text.withoutDot_eq_self h] at hname
    have hdotted : Text.dotted name = Text.dotted package ++ Text.dotted inner := by
      rw [hname, Text.dotted_append]
    have hpackage := Ident.packageSegments_eq_dotted fun s hs =>
      h s (hdotted ▸ List.mem_append_left _ hs)
    refine ⟨package, (Text.dotted inner).dropLast, (Text.dotted inner).getLast?.getD name, ?_, rfl⟩
    rw [hlast (Text.dotted_ne_nil inner), hpackage, hdotted]
  | none =>
    obtain ⟨n, hguess, hne⟩ := guessSplit_spec name
    rw [hguess]
    have hsegments : ∀ s ∈ (Text.dotted name).take n, s ≠ "" ∧ '.' ∉ s.toList := fun s hs =>
      ⟨h s (List.mem_of_mem_take hs), Text.dot_notMem_of_mem_dotted (List.mem_of_mem_take hs)⟩
    refine ⟨_, _, _, ?_, rfl⟩
    rw [hlast hne, Ident.packageSegments_intercalate hsegments, List.take_append_drop]

/-- **A guessed path denotes the spelled name**, whichever packages are loaded. -/
theorem follow_guessPath (c : Context) {t : String}
    (h : ∀ s ∈ Text.dotted (Text.withoutDot t), s ≠ "") :
    Ident.follow (Ident.moduleOf c.package) (c.guessPath t).2.render =
      some (Ident.spell (Text.dotted (Text.withoutDot t))) := by
  obtain ⟨package, parents, last, hsegments, hguess⟩ := c.guessPath_spec h
  rw [hguess, Ident.follow_typePath, ← hsegments, ← List.append_assoc, Ident.spell_concat,
    List.map_append, Ident.moduleOf]

/-! ## Entries -/

/-- An entry is **well named**: the segments of its package, its parents and its message have names that
are not empty, and without dots. -/
structure IndexEntry.WellNamed (e : IndexEntry) : Prop where
  package : e.unit.package = "" ∨ ∀ s ∈ Text.dotted e.unit.package, s ≠ ""
  names : ∀ s ∈ e.parents ++ [e.message.name], s ≠ "" ∧ '.' ∉ s.toList

/-- Names that are not empty are joined behind what is before them. -/
theorem dotted_join {ss : List String} (h : ∀ s ∈ ss, s ≠ "" ∧ '.' ∉ s.toList) (name : String) :
    Text.dotted (String.join ((ss.filter (· ≠ "")).map (· ++ ".")) ++ name) =
      ss ++ Text.dotted name := by
  induction ss with
  | nil => simp
  | cons s ss ih =>
    obtain ⟨hne, hdot⟩ := h s List.mem_cons_self
    rw [List.filter_cons_of_pos (by simpa using hne), List.map_cons, String.join_cons,
      String.append_assoc, Text.dotted_append, Text.dotted_of_notMem hdot,
      ih fun t ht => h t (List.mem_cons_of_mem s ht)]
    rfl

/-- **The full name** of an entry that is well named has the segments of its package, its parents and
its message. -/
theorem IndexEntry.WellNamed.dotted_fullName {e : IndexEntry} (h : e.WellNamed) :
    Text.dotted e.fullName =
      Ident.packageSegments e.unit.package ++ (e.parents ++ [e.message.name]) := by
  have hname := (h.names e.message.name (by simp)).2
  have hparents : ∀ s ∈ e.parents, s ≠ "" ∧ '.' ∉ s.toList := fun s hs =>
    h.names s (List.mem_append_left _ hs)
  have hrest := dotted_join hparents e.message.name
  rw [Text.dotted_of_notMem hname] at hrest
  rw [IndexEntry.fullName, ErrorTaxonomy.fullName, List.filter_cons]
  by_cases hroot : e.unit.package = ""
  · simp only [hroot, ne_eq, not_true_eq_false, decide_false, Bool.false_eq_true, if_false]
    exact hrest
  · simp only [ne_eq, hroot, not_false_eq_true, decide_true, if_true, List.map_cons,
      String.join_cons]
    rw [String.append_assoc, Text.dotted_append, hrest,
      Ident.packageSegments_eq_dotted (h.package.resolve_left hroot)]

/-- The path of the type of an entry denotes its spelled full name, from wherever it is written. -/
theorem IndexEntry.WellNamed.follow_typePath {e : IndexEntry} (h : e.WellNamed) (home : String) :
    Ident.follow (Ident.moduleOf home)
        (Ident.typePath home e.unit.package e.parents e.message.name).render =
      some (Ident.spell (Text.dotted e.fullName)) := by
  rw [Ident.follow_typePath, h.dotted_fullName, ← List.append_assoc,
    Ident.spell_concat, List.map_append, Ident.moduleOf]

/-- The segments of the full name of an entry that is well named are not empty. -/
theorem IndexEntry.WellNamed.ne_empty_of_mem_dotted {e : IndexEntry} (h : e.WellNamed) :
    ∀ s ∈ Text.dotted e.fullName, s ≠ "" := by
  intro s hs
  rw [h.dotted_fullName, Ident.packageSegments_eq_filter] at hs
  obtain hs | hs := List.mem_append.1 hs
  · simpa using (List.mem_filter.1 hs).2
  · exact (h.names s hs).1

/-- **Guessed and indexed paths denote one item.** In any package and with any packages loaded, a guessed
path denotes the spelled segments of the name. When the name is the full name of an entry that is well
named, the path of the type denotes the same item, and so does the path of every plan of the entry in
its own package. -/
theorem paths_denote_entry :
    (∀ (c : Context) t, (∀ s ∈ Text.dotted (Text.withoutDot t), s ≠ "") →
      Ident.follow (Ident.moduleOf c.package) (c.guessPath t).2.render =
        some (Ident.spell (Text.dotted (Text.withoutDot t)))) ∧
    ∀ us (c : Context) t e, c.index = .build us →
      c.index.entries.lookup (Text.withoutDot t) = some e → e.WellNamed → ∃ item,
        Ident.follow (Ident.moduleOf c.package) (c.typeOf t).2.render = some item ∧
        Ident.follow (Ident.moduleOf c.package) (c.guessPath t).2.render = some item ∧
        Ident.follow (Ident.moduleOf e.unit.package) e.path.render = some item ∧
        ∀ ix o plan, Placed.plan e.unit ix o ⟨e.parents, e.message⟩ = .ok plan →
          Ident.follow (Ident.moduleOf e.unit.package) plan.path.render = some item := by
  refine ⟨fun c t => follow_guessPath c, fun us c t e hc hlookup hwell => ?_⟩
  have hname : e.fullName = Text.withoutDot t := by
    rw [hc, lookup_build] at hlookup
    simpa using List.find?_some hlookup
  have hresolve : c.index.resolve? t c.package = some e := by
    rw [SchemaIndex.resolve?]
    simp only [hlookup]
  have hown := hwell.follow_typePath e.unit.package
  refine ⟨Ident.spell (Text.dotted e.fullName), ?_, ?_, hown, fun ix o plan hplan => ?_⟩
  · rw [Context.typeOf, hresolve]
    exact hwell.follow_typePath c.package
  · rw [hname]
    exact follow_guessPath c (hname ▸ hwell.ne_empty_of_mem_dotted)
  · have hpath : plan.path = e.path := by
      rw [path_of_plan hplan]
      rfl
    rw [hpath]
    exact hown

/-- The entry of the error that is nested in another message. -/
def missingEntry : IndexEntry :=
  ⟨storageUnit, ["Store"], ⟨"MissingError", [⟨"key", .scalar .string, .singular, none⟩],
    [("errors.display", "missing: \x7bkey\x7d")], [], false⟩⟩

/-- A unit of another package names the nested error by its full name, and the three paths of it denote
one item. -/
theorem paths_denote_missingEntry :
    (SchemaIndex.build [storageUnit, lookupUnit]).entries.lookup
        (Text.withoutDot ".example.storage.Store.MissingError") = some missingEntry ∧
      missingEntry.WellNamed ∧
      ∃ item,
        Ident.follow (Ident.moduleOf "example.lookup")
          (Context.typeOf ⟨.build [storageUnit, lookupUnit], "example.lookup", [], {}⟩
            ".example.storage.Store.MissingError").2.render = some item ∧
        Ident.follow (Ident.moduleOf "example.lookup")
          (Context.guessPath ⟨.build [storageUnit, lookupUnit], "example.lookup", [], {}⟩
            ".example.storage.Store.MissingError").2.render = some item ∧
        Ident.follow (Ident.moduleOf "example.storage") missingEntry.path.render = some item := by
  have hlookup : (SchemaIndex.build [storageUnit, lookupUnit]).entries.lookup
      (Text.withoutDot ".example.storage.Store.MissingError") = some missingEntry := rfl
  have hwell : missingEntry.WellNamed := ⟨.inr (by decide), by decide⟩
  obtain ⟨item, htype, hguess, hown, -⟩ := paths_denote_entry.2 [storageUnit, lookupUnit]
    ⟨.build [storageUnit, lookupUnit], "example.lookup", [], {}⟩
    ".example.storage.Store.MissingError" missingEntry rfl hlookup hwell
  exact ⟨hlookup, hwell, item, htype, hguess, hown⟩

end ErrorTaxonomy
