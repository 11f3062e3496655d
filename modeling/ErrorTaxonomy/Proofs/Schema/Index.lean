import ErrorTaxonomy.Proofs.Json.Members
import ErrorTaxonomy.Schema.Index

/-! # Index — where its entries come from

An index is written entry by entry, and a later entry of one name replaces an earlier one
(`Json.lookup_ofPairs`). So a type name resolves to a message that stands in one of the units
(`standsIn_of_resolve?`). -/

namespace ErrorTaxonomy

/-- An entry stands for a message of a unit. -/
def IndexEntry.StandsIn (e : IndexEntry) (us : List SchemaUnit) : Prop :=
  e.unit ∈ us ∧ ⟨e.parents, e.message⟩ ∈ e.unit.placed

/-- What the index has under a name stands in a unit. -/
theorem standsIn_of_lookup {us : List SchemaUnit} {name : String} {e : IndexEntry}
    (h : (SchemaIndex.build us).entries.lookup name = some e) : e.StandsIn us := by
  obtain ⟨u, hu, he⟩ := List.mem_flatMap.1 (Json.mem_of_lookup_ofPairs h)
  obtain ⟨p, hp, heq⟩ := List.mem_map.1 he
  obtain ⟨-, rfl⟩ := Prod.mk.inj heq
  exact ⟨hu, hp⟩

/-- **A type name resolves** to a message of a unit. -/
theorem standsIn_of_resolve? {us : List SchemaUnit} {t package : String} {e : IndexEntry}
    (h : (SchemaIndex.build us).resolve? t package = some e) : e.StandsIn us := by
  rw [SchemaIndex.resolve?] at h
  split at h
  · next e' hfull =>
    obtain rfl := Option.some.inj h
    exact standsIn_of_lookup hfull
  · split at h
    · cases h
    · exact standsIn_of_lookup h

end ErrorTaxonomy
