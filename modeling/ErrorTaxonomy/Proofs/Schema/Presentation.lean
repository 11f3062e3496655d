import Mathlib.Logic.Relation
import ErrorTaxonomy.Proofs.Schema.Slots

/-! # Presentation — what decoding does not see

The same units can be written in many documents. An **edit** changes how a record is presented: it moves the
members of an object, puts in or takes out a member that the record does not know, or one that only states
its default. Edits may be made at a unit or at any record inside it (`Edit`), one after the other. A document
that decodes still decodes to the same units afterwards (`presentation_ignored`): an object is read slot by
slot, and no edit changes what a slot holds. -/

namespace ErrorTaxonomy.Schema

open Json (Step)

/-! ## Edits -/

namespace Record

/-- The members of a record that may be left out, with their defaults. -/
def defaults : Record → List (String × Json)
  | .unit => [("package", .str ""), ("messages", .arr [])]
  | .message => [("fields", .arr []), ("options", .obj []), ("nested", .arr []),
    ("map_entry", .bool false)]
  | .field => [("label", .str "singular"), ("oneof", .null)]

/-- The members of a record that are lists of other records. -/
def parts : Record → List (String × Record)
  | .unit => [("messages", .message)]
  | .message => [("fields", .field), ("nested", .message)]
  | .field => []

/-- A member is **inessential** when the record does not know it or when it holds its default. -/
def Inessential (r : Record) (k : String) (v : Json) : Prop := k ∉ r.keys ∨ (k, v) ∈ r.defaults

end Record

/-- **One edit** of a record, at the record itself or at a record inside it. An object that is edited has
each key once, before and after. -/
inductive Edit : Record → Json → Json → Prop
  /-- The members of an object change places. -/
  | reorder {r : Record} {ms ms' : List (String × Json)} (keys : (ms.map Prod.fst).Nodup)
      (perm : ms.Perm ms') : Edit r (.obj ms) (.obj ms')
  /-- An inessential member is put in. -/
  | add {r : Record} {k : String} {v : Json} {before after : List (String × Json)}
      (keys : ((before ++ (k, v) :: after).map Prod.fst).Nodup) (inessential : r.Inessential k v) :
      Edit r (.obj (before ++ after)) (.obj (before ++ (k, v) :: after))
  /-- An inessential member is taken out. -/
  | remove {r : Record} {k : String} {v : Json} {before after : List (String × Json)}
      (keys : ((before ++ (k, v) :: after).map Prod.fst).Nodup) (inessential : r.Inessential k v) :
      Edit r (.obj (before ++ (k, v) :: after)) (.obj (before ++ after))
  /-- A record in a list that is a member of an object is edited. -/
  | member {r part : Record} {k : String} {v v' : Json} {before after : List (String × Json)}
      {vs ws : List Json} (mem : (k, part) ∈ r.parts) (edit : Edit part v v') :
      Edit r (.obj (before ++ (k, .arr (vs ++ v :: ws)) :: after))
        (.obj (before ++ (k, .arr (vs ++ v' :: ws)) :: after))
  /-- A record in a list that is a member by position is edited. -/
  | position {r part : Record} {k : String} {v v' : Json} {before after vs ws : List Json}
      (key : r.keys[before.length]? = some k) (mem : (k, part) ∈ r.parts) (edit : Edit part v v') :
      Edit r (.arr (before ++ .arr (vs ++ v :: ws) :: after))
        (.arr (before ++ .arr (vs ++ v' :: ws) :: after))

/-- **One edit** of a document: of the unit that it is, or of a unit in the list that it is. -/
inductive DocumentEdit : Json → Json → Prop
  | single {v v' : Json} (single : ∀ vs, v ≠ .arr vs) (edit : Edit .unit v v') : DocumentEdit v v'
  | item {v v' : Json} {vs ws : List Json} (edit : Edit .unit v v') :
      DocumentEdit (.arr (vs ++ v :: ws)) (.arr (vs ++ v' :: ws))

/-! ## Members that are edited -/

/-- **What an object holds**: its slots hold its members, and make up a record. -/
theorem Record.decode_obj_eq_ok_iff {r : Record} {ms : List (String × Json)}
    (hms : (ms.map Prod.fst).Nodup) {a : r.Result} :
    r.decode (.obj ms) = .ok a ↔
      ∃ d, (∀ t ∈ r.slots, t.Holds (ms.lookup t.key) r.start d) ∧ r.finish .byName d = .ok a := by
  simp only [r.decode_obj, bind_eq_ok_iff, membersInto_eq_ok_iff r.lieApart_slots hms]

/-- **Defaults** of some slots: each is read as what its slot holds from the start. -/
def AreDefaults {δ : Type} (slots : List (Slot δ)) (start : δ) (ms : List (String × Json)) : Prop :=
  ∀ m ∈ ms, ∀ t ∈ slots, t.key = m.1 → t.read m.2 = .ok (t.get start)

theorem areDefaults_unit : AreDefaults unitSlots {} (Record.defaults .unit) := by
  simp [AreDefaults, unitSlots, Record.defaults, text, messages, messagesFrom]

theorem areDefaults_message : AreDefaults messageSlots {} (Record.defaults .message) := by
  have hoptions : options (.obj []) = .ok [] := rfl
  simp [AreDefaults, messageSlots, Record.defaults, list, itemsFrom, messages, messagesFrom, boolean,
    hoptions]

theorem areDefaults_field : AreDefaults fieldSlots {} (Record.defaults .field) := by
  have hlabel : label (.str "singular") = .ok .singular := rfl
  simp [AreDefaults, fieldSlots, Record.defaults, optionalText, hlabel]

theorem Record.areDefaults : (r : Record) → AreDefaults r.slots r.start r.defaults
  | .unit => areDefaults_unit
  | .message => areDefaults_message
  | .field => areDefaults_field

/-- **An inessential member** may be there or not. -/
theorem Record.decode_inessential_iff {r : Record} {k : String} {v : Json}
    {before after : List (String × Json)}
    (hms : ((before ++ (k, v) :: after).map Prod.fst).Nodup) (h : r.Inessential k v) {a : r.Result} :
    r.decode (.obj (before ++ (k, v) :: after)) = .ok a ↔
      r.decode (.obj (before ++ after)) = .ok a := by
  have hrest : ((before ++ after).map Prod.fst).Nodup :=
    hms.sublist (((List.sublist_cons_self _ _).append_left before).map Prod.fst)
  rw [decode_obj_eq_ok_iff hms, decode_obj_eq_ok_iff hrest]
  refine exists_congr fun d => and_congr_left' (forall₂_congr fun t ht => ?_)
  rw [Json.lookup_middle hms]
  split_ifs with hkey
  · -- the slot of the member: nothing else is read into it, and the member is its default
    have hdefault : (k, v) ∈ r.defaults := by
      refine h.resolve_left fun hunknown => hunknown ?_
      rw [← hkey]
      exact List.mem_map_of_mem ht
    rw [hkey, Json.lookup_middle_self hms]
    show t.read v = .ok (t.get d) ↔ t.get d = t.get r.start
    rw [r.areDefaults _ hdefault t ht hkey, Except.ok.injEq, eq_comm]
  · exact Iff.rfl

/-! ## Records in lists -/

/-- A value **stands for** another where it is decoded to whatever the other one is decoded to. -/
def StandsFor {α : Type} (read : Json → Decoded α) (v' v : Json) : Prop :=
  ∀ a, read v = .ok a → read v' = .ok a

section StandsFor

variable {α δ : Type} {v v' : Json}

/-- A list with an item that stands for another one stands for the list with the other one. -/
theorem StandsFor.items {item : Json → Decoded α} (h : StandsFor item v' v) (vs ws : List Json)
    (i : Nat) {as : List α} (hitems : itemsFrom item i (vs ++ v :: ws) = .ok as) :
    itemsFrom item i (vs ++ v' :: ws) = .ok as := by
  rw [itemsFrom_eq_ok_iff] at hitems ⊢
  induction vs generalizing as with
  | nil =>
    obtain ⟨a, as, ha, has, rfl⟩ := List.forall₂_cons_left_iff.1 hitems
    exact .cons (h a ha) has
  | cons u vs ih =>
    obtain ⟨a, as, ha, has, rfl⟩ := List.forall₂_cons_left_iff.1 hitems
    exact .cons ha (ih has)

variable {slots : List (Slot δ)} {d e : δ}

/-- A member that stands for another one in its slot is read alike. -/
theorem StandsFor.put (hslots : LieApart slots) {t : Slot δ} (ht : t ∈ slots)
    (h : StandsFor t.read v' v) {s : Step} (hput : putSlot slots s t.key v d = .ok e) :
    putSlot slots s t.key v' d = .ok e := by
  rw [putSlot_eq_ok_iff hslots ht] at hput ⊢
  obtain ⟨a, ha, rfl⟩ := hput
  exact ⟨a, h a ha, rfl⟩

/-- Members may be replaced by ones that stand for them. -/
theorem StandsFor.byName (hslots : LieApart slots) {t : Slot δ} (ht : t ∈ slots)
    (h : StandsFor t.read v' v) {before after : List (String × Json)}
    (hread : membersInto (putSlot slots) (before ++ (t.key, v) :: after) d = .ok e) :
    membersInto (putSlot slots) (before ++ (t.key, v') :: after) d = .ok e := by
  induction before generalizing d with
  | nil =>
    simp only [List.nil_append, membersInto, bind_eq_ok_iff] at hread ⊢
    obtain ⟨d', hput, hrest⟩ := hread
    exact ⟨d', h.put hslots ht hput, hrest⟩
  | cons m before ih =>
    simp only [List.cons_append, membersInto, bind_eq_ok_iff] at hread ⊢
    obtain ⟨d', hput, hrest⟩ := hread
    exact ⟨d', hput, ih hrest⟩

/-- Members by position may be replaced by ones that stand for them. -/
theorem StandsFor.byPosition (hslots : LieApart slots) {t : Slot δ} (ht : t ∈ slots)
    (h : StandsFor t.read v' v) {ks : List String} {i : Nat} {before after : List Json}
    (hkey : ks[before.length]? = some t.key)
    (hread : itemsInto (putSlot slots) ks i (before ++ v :: after) d = .ok e) :
    itemsInto (putSlot slots) ks i (before ++ v' :: after) d = .ok e := by
  induction before generalizing ks i d with
  | nil =>
    cases ks with
    | nil => cases hkey
    | cons k ks =>
      obtain rfl := Option.some.inj hkey
      simp only [List.nil_append, itemsInto, bind_eq_ok_iff] at hread ⊢
      obtain ⟨d', hput, hrest⟩ := hread
      exact ⟨d', h.put hslots ht hput, hrest⟩
  | cons u before ih =>
    cases ks with
    | nil => cases hkey
    | cons k ks =>
      simp only [List.cons_append, itemsInto, bind_eq_ok_iff] at hread ⊢
      obtain ⟨d', hput, hrest⟩ := hread
      exact ⟨d', hput, ih hkey hrest⟩

end StandsFor

/-- Nested messages are a list of messages. -/
theorem messages_eq : messages = list message := by
  have hitems : ∀ (vs : List Json) (i : Nat), messagesFrom i vs = itemsFrom message i vs := by
    intro vs
    induction vs with
    | nil =>
      intro i
      rw [messagesFrom, itemsFrom]
    | cons v vs ih =>
      intro i
      rw [messagesFrom, itemsFrom, ih]
  funext v
  cases v with
  | arr vs => rw [messages, list, hitems]
  | null | bool b | num n | str s | obj ms => rfl

/-- **A part** has a slot, which reads lists of records: a record in such a list may be replaced by one that
stands for it. -/
theorem Record.exists_slot_of_part {r part : Record} {k : String} (h : (k, part) ∈ r.parts) :
    ∃ t ∈ r.slots, t.key = k ∧ ∀ (v v' : Json) (vs ws : List Json), StandsFor part.decode v' v →
      StandsFor t.read (.arr (vs ++ v' :: ws)) (.arr (vs ++ v :: ws)) := by
  have hlist : ∀ {α : Type} (item : Json → Decoded α) (v v' : Json) (vs ws : List Json),
      StandsFor item v' v → StandsFor (list item) (.arr (vs ++ v' :: ws)) (.arr (vs ++ v :: ws)) :=
    fun item v v' vs ws hv as has => hv.items vs ws 0 has
  cases r with
  | unit =>
    simp only [parts, List.mem_singleton, Prod.mk.injEq] at h
    obtain ⟨rfl, rfl⟩ := h
    refine ⟨_, .tail _ (.tail _ (.head _)), rfl, ?_⟩
    show ∀ (v v' : Json) (vs ws : List Json), StandsFor Schema.message v' v → StandsFor messages _ _
    rw [messages_eq]
    exact hlist Schema.message
  | message =>
    simp only [parts, List.mem_cons, List.not_mem_nil, or_false, Prod.mk.injEq] at h
    obtain ⟨rfl, rfl⟩ | ⟨rfl, rfl⟩ := h
    · exact ⟨_, .tail _ (.head _), rfl, hlist Schema.field⟩
    · refine ⟨_, .tail _ (.tail _ (.tail _ (.head _))), rfl, ?_⟩
      show ∀ (v v' : Json) (vs ws : List Json), StandsFor Schema.message v' v → StandsFor messages _ _
      rw [messages_eq]
      exact hlist Schema.message
  | field => cases h

/-! ## Edits keep records -/

/-- **One edit** keeps what a record is decoded to. -/
theorem Edit.standsFor {r : Record} {v v' : Json} (h : Edit r v v') : StandsFor r.decode v' v := by
  induction h with
  | @reorder r ms ms' keys perm =>
    intro a ha
    have keys' : (ms'.map Prod.fst).Nodup := (perm.map Prod.fst).nodup keys
    rw [Record.decode_obj_eq_ok_iff keys] at ha
    rw [Record.decode_obj_eq_ok_iff keys']
    simpa only [Json.lookup_perm keys perm] using ha
  | add keys inessential =>
    exact fun a ha => (Record.decode_inessential_iff keys inessential).2 ha
  | remove keys inessential =>
    exact fun a ha => (Record.decode_inessential_iff keys inessential).1 ha
  | @member r part k v v' before after vs ws mem edit ih =>
    obtain ⟨t, ht, rfl, hpart⟩ := Record.exists_slot_of_part mem
    intro a ha
    rw [Record.decode_obj, bind_eq_ok_iff] at ha ⊢
    obtain ⟨d, hd, hfinish⟩ := ha
    exact ⟨d, (hpart v v' vs ws ih).byName r.lieApart_slots ht hd, hfinish⟩
  | @position r part k v v' before after vs ws key mem edit ih =>
    obtain ⟨t, ht, rfl, hpart⟩ := Record.exists_slot_of_part mem
    intro a ha
    rw [Record.decode_arr, bind_eq_ok_iff] at ha ⊢
    obtain ⟨d, hd, hfinish⟩ := ha
    refine ⟨d, (hpart v v' vs ws ih).byPosition r.lieApart_slots ht key hd, ?_⟩
    -- as many members stand there as before
    have hlength : (before ++ .arr (vs ++ v' :: ws) :: after).length =
        (before ++ .arr (vs ++ v :: ws) :: after).length := by
      simp only [List.length_append, List.length_cons]
    rw [noMoreThan, hlength]
    exact hfinish

/-- No edit makes a list of an object. -/
theorem Edit.not_list {r : Record} {v v' : Json} (h : Edit r v v') (hv : ∀ vs, v ≠ .arr vs) :
    ∀ vs, v' ≠ .arr vs := by
  cases h with
  | position key mem edit => exact absurd rfl (hv _)
  | reorder | add | remove | member => exact nofun

/-- One edit of a document keeps its units. -/
theorem DocumentEdit.standsFor {v v' : Json} (h : DocumentEdit v v') : StandsFor units v' v := by
  cases h with
  | single single edit =>
    intro us hus
    rw [units_of_not_list single, map_eq_ok_iff] at hus
    rw [units_of_not_list (edit.not_list single), map_eq_ok_iff]
    obtain ⟨u, hu, rfl⟩ := hus
    exact ⟨u, edit.standsFor u hu, rfl⟩
  | item edit => exact fun us hus => edit.standsFor.items _ _ 0 hus

/-- **Presentation is ignored**: a document that decodes still decodes to the same units when it has been
edited, however often and at whatever depth. -/
theorem presentation_ignored {origin : String} {v v' : Json} {us : List SchemaUnit}
    (hv : Document.unitsOfJson origin v = .ok us) (hedits : Relation.ReflTransGen DocumentEdit v v') :
    Document.unitsOfJson origin v' = .ok us := by
  induction hedits with
  | refl => exact hv
  | tail _ edit ih =>
    rw [Document.unitsOfJson, mapError_eq_ok_iff] at ih ⊢
    exact edit.standsFor us ih

/-- A unit with one message, whose field states its label. -/
def statedUnit : Json := .obj [("file", .str "app.proto"), ("messages", .arr [.obj [
  ("name", .str "IoError"), ("fields", .arr [.obj [
    ("name", .str "code"), ("type", .str "int32"), ("label", .str "singular")]])]])]

/-- The same unit with its members in another order, a comment in the message and no label. -/
def rearrangedUnit : Json := .obj [("messages", .arr [.obj [
  ("comment", .null), ("name", .str "IoError"), ("fields", .arr [.obj [
    ("name", .str "code"), ("type", .str "int32")]])]]), ("file", .str "app.proto")]

/-- Three edits at three depths keep the unit. -/
theorem presentation_ignored_rearrangedUnit :
    let us : List SchemaUnit :=
      [⟨"app.proto", "", [⟨"IoError", [⟨"code", .scalar .int32, .singular, none⟩], [], [], false⟩]⟩]
    Document.unitsOfJson "app.json" statedUnit = .ok us ∧
      Relation.ReflTransGen DocumentEdit statedUnit rearrangedUnit ∧
      Document.unitsOfJson "app.json" rearrangedUnit = .ok us := by
  -- the label is taken out of the field, the comment put into the message, and the unit is turned round
  have hfield := @Edit.remove .field "label" (.str "singular")
    [("name", .str "code"), ("type", .str "int32")] [] (by decide) (.inr (.head _))
  have hfields := @Edit.member .message .field "fields" _ _ [("name", .str "IoError")] [] [] []
    (.head _) hfield
  have hcomment := @Edit.add .message "comment" .null []
    [("name", .str "IoError"), ("fields", .arr [.obj [("name", .str "code"), ("type", .str "int32")]])]
    (by decide) (.inl (by decide))
  have hmessage := @Edit.member .unit .message "messages" _ _ [("file", .str "app.proto")] [] [] []
    (.head _) hfields
  have hmessage' := @Edit.member .unit .message "messages" _ _ [("file", .str "app.proto")] [] [] []
    (.head _) hcomment
  have hunit := @Edit.reorder .unit [("file", .str "app.proto"), ("messages", .arr [.obj [
    ("comment", .null), ("name", .str "IoError"), ("fields", .arr [.obj [
      ("name", .str "code"), ("type", .str "int32")]])]])] _ (by decide) (.swap _ _ _)
  have hedits : Relation.ReflTransGen DocumentEdit statedUnit rearrangedUnit :=
    .head (.single nofun hmessage) (.head (.single nofun hmessage') (.single (.single nofun hunit)))
  exact ⟨rfl, hedits, presentation_ignored rfl hedits⟩

end ErrorTaxonomy.Schema
