import ErrorTaxonomy.Proofs.Json.Tree
import ErrorTaxonomy.Proofs.Traversal
import ErrorTaxonomy.Schema.Decode

/-! # Numbers in documents — they are never part of units

No part of a unit is a number. A number where a part is read makes decoding fail, whatever number it is, and
anywhere else it is passed over. So a document gives the same units, or none, however its numbers are
changed (`units_map`). Failures themselves may differ, since they name the number; two outcomes are compared
by their results alone. -/

namespace ErrorTaxonomy.Schema

open Json (Step)

/-! ## Results -/

section Results

variable {α β : Type}

theorem toOption_bind (r : Decoded α) (f : α → Decoded β) :
    (r >>= f).toOption = r.toOption.bind fun a => (f a).toOption := by
  cases r <;> rfl

theorem toOption_map (r : Decoded α) (f : α → β) : (r.map f).toOption = r.toOption.map f := by
  cases r <;> rfl

theorem toOption_within (s : Step) (r : Decoded α) : (within s r).toOption = r.toOption := by
  cases r <;> rfl

/-- Steps that go on alike from the same results have the same results. -/
theorem toOption_bind_congr {r r' : Decoded α} {f f' : α → Decoded β} (h : r.toOption = r'.toOption)
    (hf : ∀ a, (f a).toOption = (f' a).toOption) : (r >>= f).toOption = (r' >>= f').toOption := by
  rw [toOption_bind, toOption_bind, h, funext hf]

/-- A part that is read into something has the same results if the part has. -/
theorem toOption_within_map_congr {r r' : Decoded α} (h : r.toOption = r'.toOption) (s : Step)
    (f : α → β) : (within s (r.map f)).toOption = (within s (r'.map f)).toOption := by
  rw [toOption_within, toOption_within, toOption_map, toOption_map, h]

end Results

variable (f : Json.Number → Json.Number)

/-! ## Leaves -/

theorem text_map (v : Json) : (text (v.map f)).toOption = (text v).toOption := by
  cases v <;> rfl

theorem boolean_map (v : Json) : (boolean (v.map f)).toOption = (boolean v).toOption := by
  cases v <;> rfl

theorem optionalText_map (v : Json) :
    (optionalText (v.map f)).toOption = (optionalText v).toOption := by
  cases v <;> rfl

theorem nothing_map (v : Json) : (nothing (v.map f)).toOption = (nothing v).toOption := by
  cases v <;> rfl

theorem options_map (v : Json) : (options (v.map f)).toOption = (options v).toOption := by
  cases v with
  | obj ms =>
    rw [Json.Tree.map, Json.mapMembers_eq, options, options]
    induction ms with
    | nil => rfl
    | cons m ms ih =>
      rw [List.map_cons, List.mapM_cons, List.mapM_cons]
      refine toOption_bind_congr (toOption_within_map_congr (text_map f m.2) _ _) fun a => ?_
      exact toOption_bind_congr ih fun as => rfl
  | _ => rfl

/-- A variant is the same, and its payload is changed. -/
theorem variant_map (v : Json) :
    (variant (v.map f)).toOption =
      (variant v).toOption.map fun p => (p.1, p.2.map (Json.Tree.map f)) := by
  cases v with
  | obj ms =>
    rw [Json.Tree.map, Json.mapMembers_eq]
    cases ms with
    | nil => rfl
    | cons m ms => cases ms <;> rfl
  | _ => rfl

theorem plainVariant_map {α : Type} (name : String) (payload : Option Json) (a : α) :
    (plainVariant name (payload.map (Json.Tree.map f)) a).toOption =
      (plainVariant name payload a).toOption := by
  cases payload with
  | none => rfl
  | some v => exact toOption_within_map_congr (nothing_map f v) _ _

theorem namedVariant_map (name : String) (payload : Option Json) :
    (namedVariant name (payload.map (Json.Tree.map f))).toOption =
      (namedVariant name payload).toOption := by
  cases payload with
  | none => rfl
  | some v =>
    rw [Option.map_some, namedVariant, namedVariant, toOption_within, toOption_within, text_map]

/-- What is read from a variant is the same if it is so for each name and payload. -/
theorem toOption_variant_bind {α : Type} (v : Json) {k : String × Option Json → Decoded α}
    (hk : ∀ name payload, (k (name, payload.map (Json.Tree.map f))).toOption =
      (k (name, payload)).toOption) :
    (variant (v.map f) >>= k).toOption = (variant v >>= k).toOption := by
  rw [toOption_bind, toOption_bind, variant_map]
  cases (variant v).toOption with
  | none => rfl
  | some p => exact hk p.1 p.2

theorem fieldType_map (v : Json) : (fieldType (v.map f)).toOption = (fieldType v).toOption := by
  refine toOption_variant_bind f v fun name payload => ?_
  simp only
  split
  · exact plainVariant_map f name payload _
  · split_ifs
    · rw [toOption_map, toOption_map, namedVariant_map]
    · rw [toOption_map, toOption_map, namedVariant_map]
    · rfl

theorem label_map (v : Json) : (label (v.map f)).toOption = (label v).toOption := by
  refine toOption_variant_bind f v fun name payload => ?_
  simp only
  split
  · exact plainVariant_map f name payload _
  · rfl

/-! ## Lists and records -/

section Records

variable {α δ : Type} {put : Step → String → Json → δ → Decoded δ}

/-- The items of a list are the same if each item is. -/
theorem toOption_itemsFrom_map {item : Json → Decoded α} {vs : List Json}
    (h : ∀ v ∈ vs, (item (v.map f)).toOption = (item v).toOption) (i : Nat) :
    (itemsFrom item i (vs.map (Json.Tree.map f))).toOption = (itemsFrom item i vs).toOption := by
  induction vs generalizing i with
  | nil => rfl
  | cons v vs ih =>
    rw [List.map_cons, itemsFrom, itemsFrom]
    refine toOption_bind_congr ?_ fun a => ?_
    · rw [toOption_within, toOption_within, h v List.mem_cons_self]
    · exact toOption_bind_congr (ih (fun u hu => h u (List.mem_cons_of_mem v hu)) (i + 1)) fun as => rfl

theorem list_map {item : Json → Decoded α}
    (h : ∀ v, (item (v.map f)).toOption = (item v).toOption) (v : Json) :
    (list item (v.map f)).toOption = (list item v).toOption := by
  cases v with
  | arr vs =>
    rw [Json.Tree.map, Json.mapItems_eq, list, list]
    exact toOption_itemsFrom_map f (fun v _ => h v) 0
  | _ => rfl

/-- A record that is read by members is the same if each member is read alike. -/
theorem membersInto_map (h : ∀ s k v d, (put s k (v.map f) d).toOption = (put s k v d).toOption)
    (ms : List (String × Json)) (d : δ) :
    (membersInto put (ms.map fun m => (m.1, m.2.map f)) d).toOption =
      (membersInto put ms d).toOption := by
  induction ms generalizing d with
  | nil => rfl
  | cons m ms ih =>
    rw [List.map_cons, membersInto, membersInto]
    exact toOption_bind_congr (h (.key m.1) m.1 m.2 d) ih

/-- A record that is read by position is the same if each member is read alike. -/
theorem itemsInto_map (h : ∀ s k v d, (put s k (v.map f) d).toOption = (put s k v d).toOption)
    (ks : List String) (i : Nat) (vs : List Json) (d : δ) :
    (itemsInto put ks i (vs.map (Json.Tree.map f)) d).toOption = (itemsInto put ks i vs d).toOption := by
  induction ks generalizing i vs d with
  | nil => cases vs <;> rfl
  | cons k ks ih =>
    cases vs with
    | nil => rfl
    | cons v vs =>
      rw [List.map_cons, itemsInto, itemsInto]
      exact toOption_bind_congr (h (.index i) k v d) fun d => ih (i + 1) vs d

/-- How many items a record by position has does not depend on numbers. -/
theorem noMoreThan_map (size : Nat) (vs : List Json) :
    (noMoreThan size (vs.map (Json.Tree.map f))).toOption = (noMoreThan size vs).toOption := by
  rw [noMoreThan, noMoreThan, List.length_map]

/-- What is made of a record by position is the same if its draft is. -/
theorem byPosition_map {r r' : Decoded δ} (h : r.toOption = r'.toOption) (finish : δ → Decoded α)
    (size : Nat) (vs : List Json) :
    (do let d ← r; let a ← finish d; noMoreThan size (vs.map (Json.Tree.map f)); pure a).toOption =
      (do let d ← r'; let a ← finish d; noMoreThan size vs; pure a).toOption :=
  toOption_bind_congr h fun _ => toOption_bind_congr rfl fun _ =>
    toOption_bind_congr (noMoreThan_map f size vs) fun _ => rfl

end Records

/-! ## Fields, messages and units -/

theorem FieldDraft.put_map (s : Step) (k : String) (v : Json) (d : FieldDraft) :
    (d.put s k (v.map f)).toOption = (d.put s k v).toOption := by
  unfold FieldDraft.put
  split
  · exact toOption_within_map_congr (text_map f v) _ _
  · exact toOption_within_map_congr (fieldType_map f v) _ _
  · exact toOption_within_map_congr (label_map f v) _ _
  · exact toOption_within_map_congr (optionalText_map f v) _ _
  · rfl

theorem field_map (v : Json) : (field (v.map f)).toOption = (field v).toOption := by
  cases v with
  | obj ms =>
    rw [Json.Tree.map, Json.mapMembers_eq, field, field]
    exact toOption_bind_congr (membersInto_map f (FieldDraft.put_map f) ms _) fun d => rfl
  | arr vs =>
    rw [Json.Tree.map, Json.mapItems_eq, field, field]
    exact byPosition_map f (itemsInto_map f (FieldDraft.put_map f) _ 0 vs _) _ 4 vs
  | _ => rfl

theorem MessageDraft.put_map (s : Step) (k : String) (v : Json) (d : MessageDraft) :
    (d.put s k (v.map f)).toOption = (d.put s k v).toOption := by
  unfold MessageDraft.put
  split
  · exact toOption_within_map_congr (text_map f v) _ _
  · exact toOption_within_map_congr (list_map f (field_map f) v) _ _
  · exact toOption_within_map_congr (options_map f v) _ _
  · exact toOption_within_map_congr (boolean_map f v) _ _
  · rfl

section Messages

/-- A message and a list of messages are both read from `v` as they are from it with other numbers. -/
def MessagesAlike (v : Json) : Prop :=
  (message (v.map f)).toOption = (message v).toOption ∧
    (messages (v.map f)).toOption = (messages v).toOption

variable {f}

theorem messagesFrom_map {vs : List Json} (h : ∀ v ∈ vs, MessagesAlike f v) (i : Nat) :
    (messagesFrom i (vs.map (Json.Tree.map f))).toOption = (messagesFrom i vs).toOption := by
  induction vs generalizing i with
  | nil => rfl
  | cons v vs ih =>
    rw [List.map_cons, messagesFrom, messagesFrom]
    refine toOption_bind_congr ?_ fun a => ?_
    · rw [toOption_within, toOption_within, (h v List.mem_cons_self).1]
    · exact toOption_bind_congr (ih (fun u hu => h u (List.mem_cons_of_mem v hu)) (i + 1)) fun as => rfl

/-- One member of a message is read, nested messages included, and then the others. -/
theorem messageStep_map {v : Json} (h : MessagesAlike f v) (s : Step) (k : String) (d : MessageDraft)
    {next next' : MessageDraft → Decoded MessageDraft}
    (hnext : ∀ d, (next' d).toOption = (next d).toOption) :
    (if k = "nested" then within s ((messages (v.map f)).map fun a => { d with nested := a }) >>= next'
      else d.put s k (v.map f) >>= next').toOption =
    (if k = "nested" then within s ((messages v).map fun a => { d with nested := a }) >>= next
      else d.put s k v >>= next).toOption := by
  split_ifs
  · exact toOption_bind_congr (toOption_within_map_congr h.2 _ _) hnext
  · exact toOption_bind_congr (MessageDraft.put_map f s k v d) hnext

theorem messageMembers_map {ms : List (String × Json)} (h : ∀ m ∈ ms, MessagesAlike f m.2)
    (d : MessageDraft) : (messageMembers (ms.map fun m => (m.1, m.2.map f)) d).toOption =
      (messageMembers ms d).toOption := by
  induction ms generalizing d with
  | nil => rfl
  | cons m ms ih =>
    rw [List.map_cons, messageMembers, messageMembers]
    exact messageStep_map (h m List.mem_cons_self) (.key m.1) m.1 d
      (ih fun n hn => h n (List.mem_cons_of_mem m hn))

theorem messageItems_map {vs : List Json} (h : ∀ v ∈ vs, MessagesAlike f v) (ks : List String)
    (i : Nat) (d : MessageDraft) : (messageItems ks i (vs.map (Json.Tree.map f)) d).toOption =
      (messageItems ks i vs d).toOption := by
  induction ks generalizing i vs d with
  | nil => cases vs <;> rfl
  | cons k ks ih =>
    cases vs with
    | nil => rfl
    | cons v vs =>
      rw [List.map_cons, messageItems, messageItems]
      exact messageStep_map (h v List.mem_cons_self) (.index i) k d fun d =>
        ih (fun u hu => h u (List.mem_cons_of_mem v hu)) (i + 1) d

end Messages

/-- **Messages**, by induction over the value: what is nested in a message stands inside its value. -/
theorem messagesAlike (v : Json) : MessagesAlike f v := by
  induction v using Json.Tree.induct with
  | arr vs ih =>
    rw [MessagesAlike, Json.Tree.map, Json.mapItems_eq, message, message, messages, messages]
    exact ⟨byPosition_map f (messageItems_map ih _ 0 _) _ 5 vs, messagesFrom_map ih 0⟩
  | obj ms ih =>
    rw [MessagesAlike, Json.Tree.map, Json.mapMembers_eq, message, message, messages, messages]
    · exact ⟨toOption_bind_congr (messageMembers_map ih _) fun d => rfl, rfl⟩
    all_goals
      intro vs h
      cases h
  | null => exact ⟨rfl, rfl⟩
  | bool b => exact ⟨rfl, rfl⟩
  | num n => exact ⟨rfl, rfl⟩
  | str s => exact ⟨rfl, rfl⟩

theorem UnitDraft.put_map (s : Step) (k : String) (v : Json) (d : UnitDraft) :
    (d.put s k (v.map f)).toOption = (d.put s k v).toOption := by
  unfold UnitDraft.put
  split
  · exact toOption_within_map_congr (text_map f v) _ _
  · exact toOption_within_map_congr (text_map f v) _ _
  · exact toOption_within_map_congr (messagesAlike f v).2 _ _
  · rfl

theorem unit_map (v : Json) : (unit (v.map f)).toOption = (unit v).toOption := by
  cases v with
  | obj ms =>
    rw [Json.Tree.map, Json.mapMembers_eq, unit, unit]
    exact toOption_bind_congr (membersInto_map f (UnitDraft.put_map f) ms _) fun d => rfl
  | arr vs =>
    rw [Json.Tree.map, Json.mapItems_eq, unit, unit]
    exact byPosition_map f (itemsInto_map f (UnitDraft.put_map f) _ 0 vs _) _ 3 vs
  | _ => rfl

/-- **Units do not depend on numbers**: a document gives the same ones, or none, whatever numbers stand
in it. -/
theorem units_map (v : Json) : (units (v.map f)).toOption = (units v).toOption := by
  have hunit : ((unit (v.map f)).map fun u => [u]).toOption = ((unit v).map fun u => [u]).toOption := by
    rw [toOption_map, toOption_map, unit_map]
  cases v with
  | arr vs =>
    rw [Json.Tree.map, Json.mapItems_eq, units, units]
    exact toOption_itemsFrom_map f (fun v _ => unit_map f v) 0
  | _ => exact hunit

end ErrorTaxonomy.Schema
