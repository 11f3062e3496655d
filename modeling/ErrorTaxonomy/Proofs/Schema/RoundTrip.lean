import ErrorTaxonomy.Load.Document
import ErrorTaxonomy.Schema.Encode
import ErrorTaxonomy.Proofs.Traversal

/-! # Round trip — units are decoded as they were encoded

The encoded form of a record is an object with all its members in declared order. Decoding reads them one
by one into a draft, each with the reader of its own part, so that **the decoder of every part undoes its
encoder**: leaves first, then fields, then messages by induction over what is nested in them, and units at
the end (`unitsOfJson_toJson`). -/

namespace ErrorTaxonomy.Schema

/-! ## Parts -/

@[simp] theorem within_ok {α : Type} (s : Json.Step) (a : α) : within s (.ok a) = .ok a := rfl

/-- A text that may be absent is decoded as it was encoded. -/
theorem optionalText_ofOption (o : Option String) : optionalText (Json.ofOption o) = .ok o := by
  cases o <;> rfl

/-- **A field type** is decoded as it was encoded; a scalar type is not taken for the other two. -/
theorem fieldType_toJson (t : FieldType) : fieldType t.toJson = .ok t := by
  cases t with
  | scalar t =>
    have hvariant : variant (FieldType.scalar t).toJson = .ok (t.name, none) := rfl
    rw [fieldType, hvariant]
    refine bind_eq_ok_iff.2 ⟨_, rfl, ?_⟩
    simp only [ScalarType.ofName?_name]
    rfl
  | enum name =>
    have hscalar : ScalarType.ofName? "enum" = none := by decide
    refine bind_eq_ok_iff.2 ⟨("enum", some (.str name)), rfl, ?_⟩
    simp only [hscalar]
    rfl
  | message name =>
    have hscalar : ScalarType.ofName? "message" = none := by decide
    refine bind_eq_ok_iff.2 ⟨("message", some (.str name)), rfl, ?_⟩
    simp only [hscalar]
    rfl

/-- A label is decoded as it was encoded. -/
theorem label_name (l : Label) : label (.str l.name) = .ok l := by
  refine bind_eq_ok_iff.2 ⟨(l.name, none), rfl, ?_⟩
  simp only [Label.ofName?_name]
  rfl

/-- Options are decoded as they were encoded, in their order. -/
theorem options_optionsToJson (os : List (String × String)) : options (optionsToJson os) = .ok os := by
  rw [optionsToJson, options, List.mapM_map]
  induction os with
  | nil => rfl
  | cons o os ih =>
    rw [List.mapM_cons]
    exact bind_eq_ok_iff.2 ⟨o, rfl, bind_eq_ok_iff.2 ⟨os, ih, rfl⟩⟩

/-- **A list** is decoded as it was encoded when its items are. -/
theorem itemsFrom_map {α : Type} {item : Json → Decoded α} {encode : α → Json} {as : List α}
    (h : ∀ a ∈ as, item (encode a) = .ok a) (i : Nat) : itemsFrom item i (as.map encode) = .ok as := by
  induction as generalizing i with
  | nil => rfl
  | cons a as ih =>
    rw [List.map_cons, itemsFrom, h a List.mem_cons_self]
    exact bind_eq_ok_iff.2 ⟨a, rfl, bind_eq_ok_iff.2
      ⟨as, ih (fun b hb => h b (List.mem_cons_of_mem a hb)) (i + 1), rfl⟩⟩

/-! ## Records

Each member that is read changes one place of a draft; the members of an encoded record change all of
them. -/

/-- Members are read one after the other. -/
theorem membersInto_cons {δ : Type} {put : Json.Step → String → Json → δ → Decoded δ} {k : String}
    {v : Json} {ms : List (String × Json)} {d d' : δ} (h : put (.key k) k v d = .ok d') :
    membersInto put ((k, v) :: ms) d = membersInto put ms d' := by
  rw [membersInto, h]
  rfl

/-- **A field** is decoded as it was encoded. -/
theorem field_toJson (f : Field) : field f.toJson = .ok f := by
  have hmembers : membersInto FieldDraft.put
      [("name", .str f.name), ("type", f.type.toJson), ("label", .str f.label.name),
        ("oneof", Json.ofOption f.oneof)] {} =
      .ok ⟨some f.name, some f.type, f.label, f.oneof⟩ := by
    have htype : FieldDraft.put (.key "type") "type" f.type.toJson { name := some f.name } =
        .ok { name := some f.name, type := some f.type } := by
      rw [FieldDraft.put, fieldType_toJson]
      rfl
    have hlabel : FieldDraft.put (.key "label") "label" (.str f.label.name)
        { name := some f.name, type := some f.type } =
        .ok { name := some f.name, type := some f.type, label := f.label } := by
      rw [FieldDraft.put, label_name]
      rfl
    have honeof : FieldDraft.put (.key "oneof") "oneof" (Json.ofOption f.oneof)
        { name := some f.name, type := some f.type, label := f.label } =
        .ok ⟨some f.name, some f.type, f.label, f.oneof⟩ := by
      rw [FieldDraft.put, optionalText_ofOption]
      rfl
    rw [membersInto_cons rfl, membersInto_cons htype, membersInto_cons hlabel,
      membersInto_cons honeof]
    rfl
  exact bind_eq_ok_iff.2 ⟨_, hmembers, rfl⟩

/-! ## Messages -/

/-- Members of a message other than the nested messages are read one after the other. -/
theorem messageMembers_cons {k : String} {v : Json} {ms : List (String × Json)} {d d' : MessageDraft}
    (hnested : k ≠ "nested") (h : d.put (.key k) k v = .ok d') :
    messageMembers ((k, v) :: ms) d = messageMembers ms d' := by
  rw [messageMembers, if_neg hnested, h]
  rfl

/-- Nested messages are read into their place of the draft. -/
theorem messageMembers_nested {v : Json} {ms : List (String × Json)} {d : MessageDraft}
    {nested : List Message} (h : messages v = .ok nested) :
    messageMembers (("nested", v) :: ms) d = messageMembers ms { d with nested := nested } := by
  rw [messageMembers, if_pos rfl, h]
  rfl

/-- A message is decoded as it was encoded when what is nested in it is. -/
theorem message_toJson_of_nested {m : Message}
    (h : messages (.arr (Message.listToJson m.nested)) = .ok m.nested) :
    message m.toJson = .ok m := by
  obtain ⟨name, fields, options, nested, mapEntry⟩ := m
  have hfields : MessageDraft.put (.key "fields") "fields" (.arr (fields.map Field.toJson))
      { name := some name } = .ok { name := some name, fields := fields } := by
    rw [MessageDraft.put, list, itemsFrom_map fun f _ => field_toJson f]
    rfl
  have hoptions : MessageDraft.put (.key "options") "options" (optionsToJson options)
      { name := some name, fields := fields } =
      .ok { name := some name, fields := fields, options := options } := by
    rw [MessageDraft.put, options_optionsToJson]
    rfl
  have hmembers : messageMembers
      [("name", .str name), ("fields", .arr (fields.map Field.toJson)),
        ("options", optionsToJson options), ("nested", .arr (Message.listToJson nested)),
        ("map_entry", .bool mapEntry)] {} =
      .ok ⟨some name, fields, options, nested, mapEntry⟩ := by
    rw [messageMembers_cons (by decide) rfl, messageMembers_cons (by decide) hfields,
      messageMembers_cons (by decide) hoptions, messageMembers_nested h,
      messageMembers_cons (by decide) rfl]
    rfl
  rw [Message.toJson, message]
  exact bind_eq_ok_iff.2 ⟨_, hmembers, rfl⟩

mutual

/-- **A message** is decoded as it was encoded, with all that is nested in it. -/
theorem message_toJson : ∀ m : Message, message m.toJson = .ok m
  | ⟨_, _, _, nested, _⟩ => message_toJson_of_nested (messagesFrom_listToJson nested 0)

/-- A list of messages is decoded as it was encoded. -/
theorem messagesFrom_listToJson : ∀ (ms : List Message) (i : Nat),
    messagesFrom i (Message.listToJson ms) = .ok ms
  | [], i => by
    rw [Message.listToJson, messagesFrom]
  | m :: ms, i => by
    rw [Message.listToJson, messagesFrom, message_toJson m, within_ok]
    exact bind_eq_ok_iff.2 ⟨m, rfl, bind_eq_ok_iff.2
      ⟨ms, messagesFrom_listToJson ms (i + 1), rfl⟩⟩

end

/-! ## Units -/

/-- **A unit** is decoded as it was encoded. -/
theorem unit_toJson (u : SchemaUnit) : unit u.toJson = .ok u := by
  have hmessages : UnitDraft.put (.key "messages") "messages" (.arr (Message.listToJson u.messages))
      { file := some u.file, package := u.package } = .ok ⟨some u.file, u.package, u.messages⟩ := by
    rw [UnitDraft.put, messages, messagesFrom_listToJson]
    rfl
  have hmembers : membersInto UnitDraft.put
      [("file", .str u.file), ("package", .str u.package),
        ("messages", .arr (Message.listToJson u.messages))] {} =
      .ok ⟨some u.file, u.package, u.messages⟩ := by
    rw [membersInto_cons rfl, membersInto_cons rfl, membersInto_cons hmessages]
    rfl
  exact bind_eq_ok_iff.2 ⟨_, hmembers, rfl⟩

/-- **Round trip.** The encoded form of units is decoded as exactly these units, with their options in
order, and so is the encoded form of a single unit, which is not taken for a list. -/
theorem unitsOfJson_toJson (origin : String) :
    (∀ us : List SchemaUnit, Document.unitsOfJson origin (unitsToJson us) = .ok us) ∧
      ∀ u : SchemaUnit, Document.unitsOfJson origin u.toJson = .ok [u] := by
  constructor
  · intro us
    have hunits : units (unitsToJson us) = .ok us := itemsFrom_map (fun u _ => unit_toJson u) 0
    exact mapError_eq_ok_iff.2 hunits
  · intro u
    have hunit : units u.toJson = .ok [u] := by
      have hsingle : units u.toJson = (unit u.toJson).map fun u => [u] := rfl
      rw [hsingle, unit_toJson]
      rfl
    exact mapError_eq_ok_iff.2 hunit

end ErrorTaxonomy.Schema
