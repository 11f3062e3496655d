import ErrorTaxonomy.Proofs.Json.Members
import ErrorTaxonomy.Proofs.Schema.Lists
import ErrorTaxonomy.Schema.Decode

/-! # Slots — where the members of a record go

Units, messages and fields are decoded alike: a draft starts with the defaults, each member that the record
knows is read into a **slot** of the draft, and the others are passed over. `Record` names the three kinds,
`Record.slots` lists their slots, and `decode_obj`, `decode_arr` say that decoding them is nothing else.

So what a record holds can be said member by member (`membersInto_eq_ok_iff`): a slot holds the value of its
member where the object has one, and its default where it has none. -/

namespace ErrorTaxonomy.Schema

open Json (Step)

/-! ## Slots of a draft -/

/-- A **slot** of a draft: the key of its member, how the member is read and where it is kept. -/
structure Slot (δ : Type) where
  key : String
  Value : Type
  read : Json → Decoded Value
  get : δ → Value
  set : Value → δ → δ

/-- Reads one member into the slot of its key, if there is one. -/
def putSlot {δ : Type} (slots : List (Slot δ)) (s : Step) (k : String) (v : Json) (d : δ) : Decoded δ :=
  match slots.find? (·.key = k) with
  | some t => within s ((t.read v).map fun a => t.set a d)
  | none => .ok d

/-- Slots **lie apart** when each keeps what is written to it and no other slot is changed by that, and
when they make up the whole draft. -/
structure LieApart {δ : Type} (slots : List (Slot δ)) : Prop where
  keys : (slots.map Slot.key).Nodup
  get_set : ∀ t ∈ slots, ∀ a d, t.get (t.set a d) = a
  get_set_of_ne : ∀ t ∈ slots, ∀ u ∈ slots, u.key ≠ t.key → ∀ a d, u.get (t.set a d) = u.get d
  eq_of_get : ∀ d e, (∀ t ∈ slots, t.get d = t.get e) → d = e

/-- A slot **holds** what is read from its member, or what it held before when there is no member. -/
def Slot.Holds {δ : Type} (t : Slot δ) (member : Option Json) (old new : δ) : Prop :=
  match member with
  | some v => t.read v = .ok (t.get new)
  | none => t.get new = t.get old

section Slots

variable {δ : Type} {slots : List (Slot δ)} {s : Step} {k : String} {v : Json} {d d' e : δ}

theorem putSlot_of_notMem (h : k ∉ slots.map Slot.key) : putSlot slots s k v d = .ok d := by
  have hnone : slots.find? (·.key = k) = none := by
    rw [List.find?_eq_none]
    rintro t ht htk
    exact h (List.mem_map.2 ⟨t, ht, of_decide_eq_true htk⟩)
  rw [putSlot, hnone]

theorem putSlot_eq_ok_iff (h : LieApart slots) {t : Slot δ} (ht : t ∈ slots) :
    putSlot slots s t.key v d = .ok e ↔ ∃ a, t.read v = .ok a ∧ t.set a d = e := by
  have hsome : slots.find? (·.key = t.key) = some t := by
    cases hfind : slots.find? (·.key = t.key) with
    | none => exact absurd (List.find?_eq_none.1 hfind t ht) (by simp)
    | some u =>
      -- no other slot has the key
      have hkey : u.key = t.key := by simpa using List.find?_some hfind
      rw [List.inj_on_of_nodup_map h.keys (List.mem_of_find?_eq_some hfind) ht hkey]
  rw [putSlot, hsome]
  simp only [within_eq_ok_iff, map_eq_ok_iff]

/-- What a slot held before matters only as far as the slot goes. -/
theorem Slot.holds_congr {t : Slot δ} {member : Option Json} (h : t.get d = t.get d') :
    t.Holds member d e ↔ t.Holds member d' e := by
  cases member with
  | none => simp only [Slot.Holds, h]
  | some v => exact Iff.rfl

/-- A slot whose member comes first, and only there, holds what is read from it. -/
theorem forall_holds_cons_iff (h : LieApart slots) {t : Slot δ} (ht : t ∈ slots)
    {ms : List (String × Json)} (hnone : ms.lookup t.key = none) :
    (∃ a, t.read v = .ok a ∧ ∀ u ∈ slots, u.Holds (ms.lookup u.key) (t.set a d) e) ↔
      ∀ u ∈ slots, u.Holds (((t.key, v) :: ms).lookup u.key) d e := by
  have hself : ((t.key, v) :: ms).lookup t.key = some v := by
    rw [List.lookup_cons, beq_self_eq_true]
  have hother : ∀ {u : Slot δ}, u.key ≠ t.key → ((t.key, v) :: ms).lookup u.key = ms.lookup u.key := by
    intro u hne
    rw [List.lookup_cons, beq_false_of_ne hne]
  have hsame : ∀ {u : Slot δ}, u ∈ slots → u.key = t.key → u = t :=
    fun hu hkey => List.inj_on_of_nodup_map h.keys hu ht hkey
  constructor
  · rintro ⟨a, ha, hall⟩ u hu
    by_cases hkey : u.key = t.key
    · obtain rfl := hsame hu hkey
      have hget := hall u hu
      rw [hnone] at hget
      rw [hself]
      -- nothing behind the member changes the slot again
      show u.read v = .ok (u.get e)
      rw [ha, show u.get e = u.get (u.set a d) from hget, h.get_set u hu]
    · rw [hother hkey]
      exact (Slot.holds_congr (h.get_set_of_ne t ht u hu hkey a d)).1 (hall u hu)
  · intro hall
    have hread := hall t ht
    rw [hself] at hread
    refine ⟨t.get e, hread, fun u hu => ?_⟩
    by_cases hkey : u.key = t.key
    · obtain rfl := hsame hu hkey
      rw [hnone]
      exact (h.get_set u hu _ d).symm
    · have hrest := hall u hu
      rw [hother hkey] at hrest
      exact (Slot.holds_congr (h.get_set_of_ne t ht u hu hkey _ d)).2 hrest

/-- **What a draft holds** after the members of an object have been read, whose keys are distinct: each
slot holds its member, and the slots without a member are as they were. -/
theorem membersInto_eq_ok_iff (h : LieApart slots) {ms : List (String × Json)}
    (hms : (ms.map Prod.fst).Nodup) :
    membersInto (putSlot slots) ms d = .ok e ↔ ∀ t ∈ slots, t.Holds (ms.lookup t.key) d e := by
  induction ms generalizing d with
  | nil =>
    rw [membersInto, Except.ok.injEq]
    constructor
    · rintro rfl t ht
      rfl
    · exact fun hget => h.eq_of_get d e fun t ht => (hget t ht).symm
  | cons m ms ih =>
    obtain ⟨k, v⟩ := m
    rw [List.map_cons, List.nodup_cons] at hms
    rw [membersInto, bind_eq_ok_iff]
    simp only [ih hms.2]
    by_cases hk : k ∈ slots.map Slot.key
    · obtain ⟨t, ht, rfl⟩ := List.mem_map.1 hk
      rw [← forall_holds_cons_iff h ht (Json.lookup_eq_none_iff_notMem.2 hms.1)]
      simp only [putSlot_eq_ok_iff h ht]
      constructor
      · rintro ⟨_, ⟨a, ha, rfl⟩, hall⟩
        exact ⟨a, ha, hall⟩
      · rintro ⟨a, ha, hall⟩
        exact ⟨_, ⟨a, ha, rfl⟩, hall⟩
    · -- the member is passed over, and no slot looks for it
      simp only [putSlot_of_notMem hk, Except.ok.injEq, exists_eq_left']
      refine forall₂_congr fun t ht => ?_
      have hne : t.key ≠ k := by
        rintro rfl
        exact hk (List.mem_map.2 ⟨t, ht, rfl⟩)
      rw [List.lookup_cons, beq_false_of_ne hne]

end Slots

/-! ## Units, messages and fields -/

/-- The slots of a unit. -/
def unitSlots : List (Slot UnitDraft) := [
  ⟨"file", _, fun v => (text v).map some, UnitDraft.file, fun a d => { d with file := a }⟩,
  ⟨"package", _, text, UnitDraft.package, fun a d => { d with package := a }⟩,
  ⟨"messages", _, messages, UnitDraft.messages, fun a d => { d with messages := a }⟩]

/-- The slots of a message. -/
def messageSlots : List (Slot MessageDraft) := [
  ⟨"name", _, fun v => (text v).map some, MessageDraft.name, fun a d => { d with name := a }⟩,
  ⟨"fields", _, list field, MessageDraft.fields, fun a d => { d with fields := a }⟩,
  ⟨"options", _, options, MessageDraft.options, fun a d => { d with options := a }⟩,
  ⟨"nested", _, messages, MessageDraft.nested, fun a d => { d with nested := a }⟩,
  ⟨"map_entry", _, boolean, MessageDraft.mapEntry, fun a d => { d with mapEntry := a }⟩]

/-- The slots of a field. -/
def fieldSlots : List (Slot FieldDraft) := [
  ⟨"name", _, fun v => (text v).map some, FieldDraft.name, fun a d => { d with name := a }⟩,
  ⟨"type", _, fun v => (fieldType v).map some, FieldDraft.type, fun a d => { d with type := a }⟩,
  ⟨"label", _, label, FieldDraft.label, fun a d => { d with label := a }⟩,
  ⟨"oneof", _, optionalText, FieldDraft.oneof, fun a d => { d with oneof := a }⟩]

theorem lieApart_unitSlots : LieApart unitSlots where
  keys := by decide
  get_set := by simp [unitSlots]
  get_set_of_ne := by simp [unitSlots]
  eq_of_get := by
    rintro ⟨file, package, messages⟩ ⟨file', package', messages'⟩ h
    simpa [unitSlots] using h

theorem lieApart_messageSlots : LieApart messageSlots where
  keys := by decide
  get_set := by simp [messageSlots]
  get_set_of_ne := by simp [messageSlots]
  eq_of_get := by
    rintro ⟨name, fields, options, nested, mapEntry⟩ ⟨name', fields', options', nested', mapEntry'⟩ h
    simpa [messageSlots] using h

theorem lieApart_fieldSlots : LieApart fieldSlots where
  keys := by decide
  get_set := by simp [fieldSlots]
  get_set_of_ne := by simp [fieldSlots]
  eq_of_get := by
    rintro ⟨name, type, label, oneof⟩ ⟨name', type', label', oneof'⟩ h
    simpa [fieldSlots] using h

/-- A required member is absent until it is read. -/
theorem within_map_some {α δ : Type} (s : Step) (r : Decoded α) (f : Option α → δ) :
    within s (r.map fun a => f (some a)) = within s ((r.map some).map f) := by
  cases r <;> rfl

/-- A member of a unit goes into its slot. -/
theorem UnitDraft.put_eq : UnitDraft.put = putSlot unitSlots := by
  funext s k v d
  unfold UnitDraft.put
  split
  · exact within_map_some s (text v) fun a => { d with file := a }
  · rfl
  · rfl
  · refine (putSlot_of_notMem ?_).symm
    simp_all [unitSlots]

/-- A member of a field goes into its slot. -/
theorem FieldDraft.put_eq : FieldDraft.put = putSlot fieldSlots := by
  funext s k v d
  unfold FieldDraft.put
  split
  · exact within_map_some s (text v) fun a => { d with name := a }
  · exact within_map_some s (fieldType v) fun a => { d with type := a }
  · rfl
  · rfl
  · refine (putSlot_of_notMem ?_).symm
    simp_all [fieldSlots]

/-- A member of a message goes into its slot; the nested messages are read apart from the others. -/
theorem MessageDraft.put_eq (s : Step) (k : String) (v : Json) (d : MessageDraft) :
    (if k = "nested" then within s ((messages v).map fun a => { d with nested := a })
      else d.put s k v) = putSlot messageSlots s k v d := by
  split_ifs with hnested
  · subst hnested
    rfl
  · unfold MessageDraft.put
    split
    · exact within_map_some s (text v) fun a => { d with name := a }
    · rfl
    · rfl
    · rfl
    · refine (putSlot_of_notMem ?_).symm
      simp_all [messageSlots]

/-- The members of a message go into their slots. -/
theorem messageMembers_eq (ms : List (String × Json)) (d : MessageDraft) :
    messageMembers ms d = membersInto (putSlot messageSlots) ms d := by
  induction ms generalizing d with
  | nil => rw [messageMembers, membersInto]
  | cons m ms ih =>
    rw [messageMembers, membersInto, ← MessageDraft.put_eq]
    split_ifs
    · simp only [ih]
    · simp only [ih]

/-- The members of a message by position go into their slots. -/
theorem messageItems_eq (ks : List String) (i : Nat) (vs : List Json) (d : MessageDraft) :
    messageItems ks i vs d = itemsInto (putSlot messageSlots) ks i vs d := by
  induction ks generalizing i vs d with
  | nil => cases vs <;> rfl
  | cons k ks ih =>
    cases vs with
    | nil => rfl
    | cons v vs =>
      rw [messageItems, itemsInto, ← MessageDraft.put_eq]
      split_ifs
      · simp only [ih]
      · simp only [ih]

/-! ## The three kinds of records -/

/-- The kinds of **records** in a document. -/
inductive Record where
  | unit
  | message
  | field
  deriving DecidableEq

namespace Record

/-- What a record is decoded to. -/
def Result : Record → Type
  | .unit => SchemaUnit
  | .message => Message
  | .field => Field

/-- Decodes a record. -/
def decode : (r : Record) → Json → Decoded r.Result
  | .unit => Schema.unit
  | .message => Schema.message
  | .field => Schema.field

/-- What has been read of a record. -/
def Draft : Record → Type
  | .unit => UnitDraft
  | .message => MessageDraft
  | .field => FieldDraft

/-- The draft in which nothing has been read. -/
def start : (r : Record) → r.Draft
  | .unit => ({} : UnitDraft)
  | .message => ({} : MessageDraft)
  | .field => ({} : FieldDraft)

/-- The record that a draft holds. -/
def finish : (r : Record) → Layout → r.Draft → Decoded r.Result
  | .unit => UnitDraft.finish
  | .message => MessageDraft.finish
  | .field => FieldDraft.finish

/-- **The slots** of a record, in the order of its members by position. -/
def slots : (r : Record) → List (Slot r.Draft)
  | .unit => unitSlots
  | .message => messageSlots
  | .field => fieldSlots

/-- The keys of the members of a record. -/
def keys (r : Record) : List String := r.slots.map Slot.key

theorem lieApart_slots : (r : Record) → LieApart r.slots
  | .unit => lieApart_unitSlots
  | .message => lieApart_messageSlots
  | .field => lieApart_fieldSlots

/-- **A record given by members** is made of the slots that its members were read into. -/
theorem decode_obj (r : Record) (ms : List (String × Json)) :
    r.decode (.obj ms) = membersInto (putSlot r.slots) ms r.start >>= r.finish .byName := by
  cases r with
  | unit =>
    show Schema.unit (.obj ms) = membersInto (putSlot unitSlots) ms {} >>= UnitDraft.finish .byName
    rw [Schema.unit, UnitDraft.put_eq]
  | message =>
    show Schema.message (.obj ms) =
      membersInto (putSlot messageSlots) ms {} >>= MessageDraft.finish .byName
    rw [Schema.message, messageMembers_eq]
  | field =>
    show Schema.field (.obj ms) = membersInto (putSlot fieldSlots) ms {} >>= FieldDraft.finish .byName
    rw [Schema.field, FieldDraft.put_eq]

/-- **A record given by position** is made of the same slots, taken in order. -/
theorem decode_arr (r : Record) (vs : List Json) :
    r.decode (.arr vs) = (do
      let d ← itemsInto (putSlot r.slots) r.keys 0 vs r.start
      let a ← r.finish .byPosition d
      noMoreThan r.keys.length vs
      pure a) := by
  cases r with
  | unit =>
    show Schema.unit (.arr vs) = (do
      let d ← itemsInto (putSlot unitSlots) ["file", "package", "messages"] 0 vs {}
      let a ← d.finish .byPosition
      noMoreThan 3 vs
      pure a)
    rw [Schema.unit, UnitDraft.put_eq]
  | message =>
    show Schema.message (.arr vs) = (do
      let d ← itemsInto (putSlot messageSlots)
        ["name", "fields", "options", "nested", "map_entry"] 0 vs {}
      let a ← d.finish .byPosition
      noMoreThan 5 vs
      pure a)
    rw [Schema.message, messageItems_eq]
  | field =>
    show Schema.field (.arr vs) = (do
      let d ← itemsInto (putSlot fieldSlots) ["name", "type", "label", "oneof"] 0 vs {}
      let a ← d.finish .byPosition
      noMoreThan 4 vs
      pure a)
    rw [Schema.field, FieldDraft.put_eq]

end Record

end ErrorTaxonomy.Schema
