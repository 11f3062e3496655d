import ErrorTaxonomy.Schema.Index

/-! # Packages — the longest one that starts a name

`SchemaIndex.splitPackage?` keeps the longest split while it walks along the packages. Of two splits of
one name with packages of one size the packages are the same text, so the order of the packages does not
matter:

* **`splitPackage?_eq_some_iff`**, **`splitPackage?_eq_none_iff`** say what is found in terms of the
  packages that are there.
* **`names_split_at_longest_package`** says it of the units whose packages these are, in any order and however
  often they are listed. -/

namespace ErrorTaxonomy

/-! ## The longest split -/

/-- The size of the package of a split. -/
def splitSize (s : String × String) : Nat := s.1.utf8ByteSize

/-- What is kept of a split and one more. -/
theorem longer_some (a b : String × String) :
    SchemaIndex.longer (some a) b = some (if splitSize b < splitSize a then a else b) := by
  rw [SchemaIndex.longer, splitSize, splitSize]
  split <;> rfl

/-- What is kept of a first split and others is one of them, and none of them is longer. -/
theorem exists_foldl_longer (a : String × String) (ss : List (String × String)) :
    ∃ b, ss.foldl SchemaIndex.longer (some a) = some b ∧ b ∈ a :: ss ∧
      ∀ x ∈ a :: ss, splitSize x ≤ splitSize b := by
  induction ss generalizing a with
  | nil => exact ⟨a, rfl, by simp, by simp⟩
  | cons s ss ih =>
    rw [List.foldl_cons, longer_some]
    obtain ⟨b, hb, hmem, hmax⟩ := ih (if splitSize s < splitSize a then a else s)
    have hkept := hmax _ List.mem_cons_self
    refine ⟨b, hb, ?_, fun x hx => ?_⟩
    · split at hmem
      · exact (List.mem_cons.1 hmem).elim (· ▸ by simp) fun h => by simp [h]
      · exact List.mem_cons_of_mem _ hmem
    · -- the first two are both no longer than the one that is kept of them
      obtain hx | hx | hx := (List.mem_cons.1 hx).imp_right List.mem_cons.1
      · split at hkept <;> subst hx <;> omega
      · split at hkept <;> subst hx <;> omega
      · exact hmax x (List.mem_cons_of_mem _ hx)

/-- What is kept of splits, if there is one. -/
theorem foldl_longer_cases (ss : List (String × String)) :
    (ss = [] ∧ ss.foldl SchemaIndex.longer none = none) ∨
      ∃ b ∈ ss, ss.foldl SchemaIndex.longer none = some b ∧
        ∀ x ∈ ss, splitSize x ≤ splitSize b := by
  cases ss with
  | nil => exact .inl ⟨rfl, rfl⟩
  | cons s ss =>
    obtain ⟨b, hb, hmem, hmax⟩ := exists_foldl_longer s ss
    exact .inr ⟨b, hmem, hb, hmax⟩

/-! ## Splits of a name -/

/-- A package starts a name, with a dot and the rest behind it. -/
theorem inside?_eq_some_iff {name package rest : String} :
    SchemaIndex.inside? name package = some rest ↔ name = package ++ "." ++ rest := by
  rw [SchemaIndex.inside?, Text.afterPrefix?_eq_some_iff]

/-- Two packages of one size that start one name are the same. -/
theorem eq_of_append_eq_of_size_eq {p q r s : String} (h : p ++ "." ++ r = q ++ "." ++ s)
    (hsize : p.utf8ByteSize = q.utf8ByteSize) : p = q ∧ r = s := by
  rw [String.append_assoc, String.append_assoc] at h
  have hbytes := congrArg String.toByteArray h
  rw [String.toByteArray_append, String.toByteArray_append] at hbytes
  obtain rfl := String.toByteArray_inj.1 (ByteArray.append_inj_left hbytes hsize)
  rw [← String.append_assoc, ← String.append_assoc, String.append_right_inj] at h
  exact ⟨rfl, h⟩

/-- The splits of a name at the packages of an index. -/
def SchemaIndex.splits (ix : SchemaIndex) (name : String) : List (String × String) :=
  ix.packages.filterMap fun p => (inside? name p).map (p, ·)

/-- A name is split at each package that starts it. -/
theorem mem_splits_iff {ix : SchemaIndex} {name package rest : String} :
    (package, rest) ∈ ix.splits name ↔ package ∈ ix.packages ∧ name = package ++ "." ++ rest := by
  simp only [SchemaIndex.splits, List.mem_filterMap, Option.map_eq_some_iff, inside?_eq_some_iff,
    Prod.mk.injEq]
  constructor
  · rintro ⟨p, hp, r, hr, rfl, rfl⟩
    exact ⟨hp, hr⟩
  · rintro ⟨hp, hr⟩
    exact ⟨package, hp, rest, hr, rfl, rfl⟩

/-- **The split of a name**: no package starts it, or it is split at one of them that none is longer
than. -/
theorem splitPackage?_cases (ix : SchemaIndex) (name : String) :
    (ix.splitPackage? name = none ∧
      ∀ p ∈ ix.packages, ∀ r, Text.withoutDot name ≠ p ++ "." ++ r) ∨
    ∃ p r, ix.splitPackage? name = some (p, r) ∧ p ∈ ix.packages ∧
      Text.withoutDot name = p ++ "." ++ r ∧
        ∀ q ∈ ix.packages, ∀ s, Text.withoutDot name = q ++ "." ++ s →
          q.utf8ByteSize ≤ p.utf8ByteSize := by
  have hfold : ix.splitPackage? name =
      (ix.splits (Text.withoutDot name)).foldl SchemaIndex.longer none := rfl
  rw [hfold]
  rcases foldl_longer_cases (ix.splits (Text.withoutDot name)) with
    ⟨hnil, hnone⟩ | ⟨⟨p, r⟩, hin, hsome, hmax⟩
  · refine .inl ⟨hnone, fun p hp r hname => ?_⟩
    have hmem := mem_splits_iff.2 ⟨hp, hname⟩
    rw [hnil] at hmem
    cases hmem
  · obtain ⟨hp, hname⟩ := mem_splits_iff.1 hin
    refine .inr ⟨p, r, hsome, hp, hname, fun q hq s hs => ?_⟩
    exact hmax (q, s) (mem_splits_iff.2 ⟨hq, hs⟩)

/-- **A name is split** at the longest of the packages that start it. -/
theorem splitPackage?_eq_some_iff (ix : SchemaIndex) (name package rest : String) :
    ix.splitPackage? name = some (package, rest) ↔
      package ∈ ix.packages ∧ Text.withoutDot name = package ++ "." ++ rest ∧
        ∀ q ∈ ix.packages, ∀ s, Text.withoutDot name = q ++ "." ++ s →
          q.utf8ByteSize ≤ package.utf8ByteSize := by
  rcases splitPackage?_cases ix name with ⟨hnone, hnot⟩ | ⟨p, r, hsome, hp, hname, hmax⟩
  · rw [hnone]
    exact ⟨nofun, fun ⟨hpackage, hn, _⟩ => absurd hn (hnot package hpackage rest)⟩
  · rw [hsome]
    constructor
    · rintro h
      cases h
      exact ⟨hp, hname, hmax⟩
    · rintro ⟨hpackage, hn, hlongest⟩
      -- neither of the two packages is longer than the other, so they are one beginning of the name
      have hle := hmax package hpackage rest hn
      have hge := hlongest p hp r hname
      obtain ⟨rfl, rfl⟩ := eq_of_append_eq_of_size_eq (hname.symm.trans hn) (Nat.le_antisymm hge hle)
      rfl

/-- **A name is not split** when no package starts it. -/
theorem splitPackage?_eq_none_iff (ix : SchemaIndex) (name : String) :
    ix.splitPackage? name = none ↔
      ∀ p ∈ ix.packages, ∀ rest, Text.withoutDot name ≠ p ++ "." ++ rest := by
  rcases splitPackage?_cases ix name with ⟨hnone, hnot⟩ | ⟨p, r, hsome, hp, hname, -⟩
  · exact ⟨fun _ => hnot, fun _ => hnone⟩
  · rw [hsome]
    exact ⟨nofun, fun h => absurd hname (h p hp r)⟩

/-- **Splitting a name** asks for the packages that are there, not for their order. -/
theorem splitPackage?_congr {ix jx : SchemaIndex} (h : ∀ p, p ∈ ix.packages ↔ p ∈ jx.packages)
    (name : String) : ix.splitPackage? name = jx.splitPackage? name := by
  apply Option.ext
  rintro ⟨package, rest⟩
  simp only [splitPackage?_eq_some_iff, h]

/-! ## Packages of units -/

/-- A package is **loaded** when it is that of a unit; the root package is not. -/
def LoadsPackage (us : List SchemaUnit) (package : String) : Prop :=
  package ≠ "" ∧ ∃ u ∈ us, u.package = package

/-- The packages of an index are those that its units load. -/
theorem SchemaIndex.mem_packages_build {us : List SchemaUnit} {p : String} :
    p ∈ (build us).packages ↔ LoadsPackage us p := by
  rw [build, List.mem_eraseDups, List.mem_filter, List.mem_map, decide_eq_true_eq, and_comm,
    LoadsPackage]

/-- The **longest loaded package** that starts a name, with a dot and the rest behind it. -/
structure LongestPackage (us : List SchemaUnit) (name package rest : String) : Prop where
  loaded : LoadsPackage us package
  starts : name = package ++ "." ++ rest
  longest : ∀ q s, LoadsPackage us q → name = q ++ "." ++ s → q.utf8ByteSize ≤ package.utf8ByteSize

/-- There is one longest package. -/
theorem LongestPackage.unique {us : List SchemaUnit} {name p q r s : String}
    (hp : LongestPackage us name p r) (hq : LongestPackage us name q s) : p = q ∧ r = s := by
  have hle := hq.longest p r hp.loaded hp.starts
  have hge := hp.longest q s hq.loaded hq.starts
  exact eq_of_append_eq_of_size_eq (hp.starts.symm.trans hq.starts) (Nat.le_antisymm hle hge)

/-- **Longest package.** A type name, without its leading dot, is split at the longest loaded package
that ends before one of its dots, and at none when there is no such package. The split is the only one
of its kind, and it is the same in every list of the same units, in any order and with any repeats. -/
theorem names_split_at_longest_package (us : List SchemaUnit) (t : String) :
    (∀ package rest, (SchemaIndex.build us).splitPackage? t = some (package, rest) ↔
      LongestPackage us (Text.withoutDot t) package rest) ∧
    ((SchemaIndex.build us).splitPackage? t = none ↔
      ∀ package rest, LoadsPackage us package → Text.withoutDot t ≠ package ++ "." ++ rest) ∧
    (∀ p q r s, LongestPackage us (Text.withoutDot t) p r →
      LongestPackage us (Text.withoutDot t) q s → p = q ∧ r = s) ∧
    ∀ vs, us ⊆ vs → vs ⊆ us →
      (SchemaIndex.build vs).splitPackage? t = (SchemaIndex.build us).splitPackage? t := by
  refine ⟨fun package rest => ?_, ?_, fun _ _ _ _ hp hq => hp.unique hq, fun vs hus hvs => ?_⟩
  · rw [splitPackage?_eq_some_iff]
    simp only [SchemaIndex.mem_packages_build]
    exact ⟨fun ⟨hl, hs, hmax⟩ => ⟨hl, hs, fun q s hq => hmax q hq s⟩,
      fun h => ⟨h.loaded, h.starts, fun q hq s => h.longest q s hq⟩⟩
  · rw [splitPackage?_eq_none_iff]
    simp only [SchemaIndex.mem_packages_build]
    exact forall_congr' fun p => forall_comm
  · apply splitPackage?_congr
    intro p
    simp only [SchemaIndex.mem_packages_build, LoadsPackage]
    exact and_congr_right fun _ =>
      ⟨fun ⟨u, hu, hp⟩ => ⟨u, hvs hu, hp⟩, fun ⟨u, hu, hp⟩ => ⟨u, hus hu, hp⟩⟩

/-- A unit of a package. -/
def outerUnit : SchemaUnit := ⟨"a.proto", "example", []⟩

/-- A unit of a package below that one. -/
def innerUnit : SchemaUnit := ⟨"b.proto", "example.app", []⟩

/-- Both packages start the name; it is split at the inner one, in either order of the units. -/
theorem names_split_at_longest_package_nested :
    LongestPackage [outerUnit, innerUnit] "example.app.Outer.Kind" "example.app" "Outer.Kind" ∧
      (SchemaIndex.build [innerUnit, outerUnit, innerUnit]).splitPackage?
        ".example.app.Outer.Kind" = some ("example.app", "Outer.Kind") := by
  obtain ⟨hsome, -, -, hsame⟩ := names_split_at_longest_package [outerUnit, innerUnit]
    ".example.app.Outer.Kind"
  have hsplit : (SchemaIndex.build [outerUnit, innerUnit]).splitPackage?
      ".example.app.Outer.Kind" = some ("example.app", "Outer.Kind") := by decide
  exact ⟨(hsome _ _).1 hsplit, (hsame _ (by simp) (by simp)).trans hsplit⟩

end ErrorTaxonomy
