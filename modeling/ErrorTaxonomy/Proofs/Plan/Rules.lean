import ErrorTaxonomy.Plan.Basic
import ErrorTaxonomy.Proofs.Schema.Unions
import ErrorTaxonomy.Proofs.Template.Compile

/-! # Rules — what planning asks of a message

Each check of the planner is compared with a **rule** about the fields and options of the message alone:

* **`duplicate?_eq_none_iff`** — no two members of a union share a constructor.
* **`annotation?_eq_some_iff`** — the display format is an option that is not empty.
* **`find?_unknown_eq_some_iff`** — the first placeholder that names no field.
* **`mem_causeCandidates`**, **`resolveCause_cases`** — the fields that a leaf error could unwrap to,
  and what comes of none, one or several of them. -/

namespace ErrorTaxonomy

/-! ## Two of a list -/

/-- A list has **two** items with a property, one after the other. -/
def HasTwo {α : Type} (P : α → Prop) (l : List α) : Prop := ∃ a b, [a, b].Sublist l ∧ P a ∧ P b

/-- A list has two items with a property when at least two are left of it. -/
theorem hasTwo_iff_length_filter {α : Type} (p : α → Bool) (l : List α) :
    HasTwo (fun a => p a = true) l ↔ 2 ≤ (l.filter p).length := by
  constructor
  · rintro ⟨a, b, hsub, ha, hb⟩
    have hfilter := hsub.filter p
    rw [List.filter_cons_of_pos ha, List.filter_cons_of_pos hb, List.filter_nil] at hfilter
    exact hfilter.length_le
  · intro hlen
    match h : l.filter p with
    | [] => simp [h] at hlen
    | [_] => simp [h] at hlen
    | a :: b :: rest =>
      have hmem : ∀ x ∈ a :: b :: rest, p x = true := fun x hx =>
        (List.mem_filter.1 (h ▸ hx)).2
      have hsub : [a, b].Sublist (l.filter p) := by
        rw [h]
        exact (List.nil_sublist rest).cons_cons b |>.cons_cons a
      exact ⟨a, b, hsub.trans List.filter_sublist, hmem a (by simp), hmem b (by simp)⟩

/-! ## Constructors -/

/-- The constructor that a field of a union gives its sum, if it holds a message. -/
def Context.constructor? (c : Context) (f : Field) : Option String :=
  f.messageType?.map fun t => (c.memberType t).constructor

/-- Two fields have one constructor. -/
def Context.SharesConstructor (c : Context) (fs : List Field) : Prop :=
  ∃ k, HasTwo (fun f => c.constructor? f = some k) fs

/-- A field makes a member with that constructor. -/
theorem constructs_member_iff (c : Context) (f : Field) (k : String) :
    (c.member f).constructs k = true ↔ c.constructor? f = some k := by
  rw [SumMember.constructs, Context.member, Context.constructor?]
  cases f.messageType? with
  | none => simp
  | some t => simp

/-- The planner finds no duplicate when no member constructs what a later one does. -/
theorem duplicate?_eq_none_iff_pairwise (ms : List SumMember) :
    duplicate? ms = none ↔
      ms.Pairwise fun a b => ∀ k, a.constructs k = true → ¬ b.constructs k = true := by
  induction ms with
  | nil => simp [duplicate?]
  | cons m ms ih =>
    rw [duplicate?, List.pairwise_cons]
    cases ht : m.type? with
    | none =>
      have hnever : ∀ k, ¬ m.constructs k = true := by simp [SumMember.constructs, ht]
      simp only [ih]
      exact ⟨fun h => ⟨fun _ _ k hk => absurd hk (hnever k), h⟩, fun h => h.2⟩
    | some t =>
      -- the head constructs one thing, and what is left of the rest constructs it as well
      have hconstructs : ∀ k, m.constructs k = true ↔ t.constructor = k := by
        simp [SumMember.constructs, ht]
      have hhead : ms.filter (·.constructs t.constructor) = [] ↔
          ∀ b ∈ ms, ∀ k, m.constructs k = true → ¬ b.constructs k = true := by
        rw [List.filter_eq_nil_iff]
        constructor
        · intro h b hb k hk
          rw [hconstructs] at hk
          exact hk ▸ h b hb
        · intro h b hb
          exact h b hb _ ((hconstructs _).2 rfl)
      rw [← hhead, ← ih]
      cases hsame : ms.filter (·.constructs t.constructor) with
      | nil => simp only [hsame, true_and]
      | cons same more => simp [hsame]

/-- **Constructors.** The planner finds no duplicate among the members that fields make exactly when no
two of the fields have one constructor. -/
theorem duplicate?_eq_none_iff (c : Context) (fs : List Field) :
    duplicate? (fs.map c.member) = none ↔ ¬ c.SharesConstructor fs := by
  rw [duplicate?_eq_none_iff_pairwise, List.pairwise_map, List.pairwise_iff_forall_sublist]
  simp only [constructs_member_iff]
  constructor
  · rintro h ⟨k, a, b, hsub, ha, hb⟩
    exact h hsub k ha hb
  · intro h a b hsub k ha hb
    exact h ⟨k, a, b, hsub, ha, hb⟩

/-! ## Formats -/

namespace Message

/-- The option `key` of a message is `format`, which is not empty. -/
def HasFormat (m : Message) (key format : String) : Prop :=
  m.options.lookup key = some format ∧ format ≠ ""

/-- Every placeholder of a format is the name of a field. -/
def KnowsAll (m : Message) (format : String) : Prop :=
  ∀ n ∈ Template.placeholders format, ∃ f ∈ m.fields, f.name = n

/-- The first placeholder of a format that is not the name of a field. -/
def FirstUnknown (m : Message) (format name : String) : Prop :=
  ∃ before after, Template.placeholders format = before ++ name :: after ∧
    (∀ n ∈ before, ∃ f ∈ m.fields, f.name = n) ∧ ∀ f ∈ m.fields, f.name ≠ name

/-- An annotation is an option that is not empty. -/
theorem annotation?_eq_some_iff (m : Message) (key format : String) :
    m.annotation? key = some format ↔ m.HasFormat key format := by
  rw [annotation?, Option.filter_eq_some_iff, decide_eq_true_eq, HasFormat]

/-- There is no annotation when the option is missing or empty. -/
theorem annotation?_eq_none_iff (m : Message) (key : String) :
    m.annotation? key = none ↔ ¬ ∃ format, m.HasFormat key format := by
  simp only [← annotation?_eq_some_iff, ← Option.isSome_iff_exists, Bool.not_eq_true,
    Option.isSome_eq_false_iff, Option.isNone_iff_eq_none]

/-- A message has a field of a name or has none. -/
theorem isNone_field?_iff (m : Message) (name : String) :
    (m.field? name).isNone = true ↔ ∀ f ∈ m.fields, f.name ≠ name := by
  simp [field?, List.find?_eq_none]

/-- A field that is found has the name looked for. -/
theorem name_of_field? {m : Message} {name : String} {f : Field} (h : m.field? name = some f) :
    f.name = name := by
  rw [field?] at h
  simpa using List.find?_some h

/-- No placeholder is unknown when the fields have all of the names. -/
theorem find?_unknown_eq_none_iff (m : Message) (format : String) :
    (Template.placeholders format).find? (fun n => (m.field? n).isNone) = none ↔
      m.KnowsAll format := by
  simp only [List.find?_eq_none, isNone_field?_iff, KnowsAll, not_forall, not_not, exists_prop]

/-- The planner looks for the first placeholder without a field. -/
theorem find?_unknown_eq_some_iff (m : Message) (format name : String) :
    (Template.placeholders format).find? (fun n => (m.field? n).isNone) = some name ↔
      m.FirstUnknown format name := by
  simp only [List.find?_eq_some_iff_append, isNone_field?_iff, Bool.not_eq_true', FirstUnknown,
    ← Bool.not_eq_true, not_forall, not_not, exists_prop]
  constructor
  · rintro ⟨hname, before, after, heq, hbefore⟩
    exact ⟨before, after, heq, hbefore, hname⟩
  · rintro ⟨before, after, heq, hbefore, hname⟩
    exact ⟨hname, before, after, heq, hbefore⟩

end Message

/-! ## Causes -/

/-- A field that a leaf error could unwrap to: the format mentions it, it holds at most one message, and
that message has a format of its own. -/
structure Context.IsCause (c : Context) (format : String) (f : Field) : Prop where
  mentioned : f.name ∈ Template.placeholders format
  single : f.label ≠ .repeated
  hasFormat : ∃ t e own, f.type = .message t ∧ c.index.resolve? t c.package = some e ∧
    e.message.HasFormat c.options.displayKey own

/-- A field holds at most one message. -/
theorem messageType?_eq_some_iff (f : Field) (t : String) :
    f.messageType? = some t ↔ f.type = .message t ∧ f.label ≠ .repeated := by
  rw [Field.messageType?]
  cases f.type <;> cases f.label <;> simp

/-- The type of a field resolves to a message with a format. -/
theorem hasFormat_iff (ix : SchemaIndex) (package key t : String) :
    hasFormat ix package key t = true ↔
      ∃ e own, ix.resolve? t package = some e ∧ e.message.HasFormat key own := by
  simp only [hasFormat, Option.any_eq_true, Option.isSome_iff_exists, Message.annotation?_eq_some_iff]
  constructor
  · rintro ⟨e, he, own, hown⟩
    exact ⟨e, own, he, hown⟩
  · rintro ⟨e, own, he, hown⟩
    exact ⟨e, he, own, hown⟩

/-- Whether a field is a possible cause. -/
def Context.isCause (c : Context) (format : String) (f : Field) : Bool :=
  Template.mentions format f.name &&
    f.messageType?.any (hasFormat c.index c.package c.options.displayKey)

/-- The possible causes are computed from the field and the index. -/
theorem isCause_iff (c : Context) (format : String) (f : Field) :
    c.isCause format f = true ↔ c.IsCause format f := by
  rw [Context.isCause, Bool.and_eq_true, Template.mentions, List.contains_iff_mem,
    Option.any_eq_true]
  constructor
  · rintro ⟨hmem, t, ht, hfmt⟩
    obtain ⟨htype, hlabel⟩ := (messageType?_eq_some_iff f t).1 ht
    obtain ⟨e, own, he, hown⟩ := (hasFormat_iff _ _ _ _).1 hfmt
    exact ⟨hmem, hlabel, t, e, own, htype, he, hown⟩
  · rintro ⟨hmem, hlabel, t, e, own, htype, he, hown⟩
    exact ⟨hmem, t, (messageType?_eq_some_iff f t).2 ⟨htype, hlabel⟩,
      (hasFormat_iff _ _ _ _).2 ⟨e, own, he, hown⟩⟩

/-- The mentioned messages whose type has a property are those of fields, in declared order. -/
theorem map_fst_filter_mentionedMessages (m : Message) (format : String) (q : String → Bool) :
    ((mentionedMessages m format).filter fun p => q p.2).map Prod.fst =
      m.fields.filter fun f => Template.mentions format f.name && f.messageType?.any q := by
  rw [mentionedMessages]
  induction m.fields with
  | nil => rfl
  | cons f fs ih =>
    rw [List.filterMap_cons, List.filter_cons, ← ih]
    cases Template.mentions format f.name with
    | false => simp
    | true =>
      cases f.messageType? with
      | none => simp
      | some t => cases ht : q t <;> simp [ht]

/-- The candidates are the possible causes among the fields, in declared order. -/
theorem causeCandidates_eq (c : Context) (m : Message) (format : String) :
    causeCandidates m format c.index c.package c.options.displayKey =
      m.fields.filter (c.isCause format) :=
  map_fst_filter_mentionedMessages m format (hasFormat c.index c.package c.options.displayKey)

/-- Two possible causes are two candidates. -/
theorem hasTwo_isCause_iff (c : Context) (m : Message) (format : String) :
    HasTwo (c.IsCause format) m.fields ↔
      2 ≤ (causeCandidates m format c.index c.package c.options.displayKey).length := by
  have hcause : c.IsCause format = fun f => c.isCause format f = true :=
    funext fun f => propext (isCause_iff c format f).symm
  rw [hcause, hasTwo_iff_length_filter, causeCandidates_eq]

/-- Two possible causes are ambiguous. -/
theorem resolveCause_of_hasTwo {c : Context} {m : Message} {format : String}
    (h : HasTwo (c.IsCause format) m.fields) :
    ∃ names, resolveCause m format c.index c.package c.options.displayKey =
      .error (.ambiguousCause m.name names) := by
  rw [hasTwo_isCause_iff] at h
  rw [resolveCause]
  match hc : causeCandidates m format c.index c.package c.options.displayKey with
  | [] => simp [hc] at h
  | [_] => simp [hc] at h
  | a :: b :: rest => exact ⟨_, rfl⟩

/-- Without two possible causes, the one there is becomes the cause. -/
theorem resolveCause_of_not_hasTwo {c : Context} {m : Message} {format : String}
    (h : ¬ HasTwo (c.IsCause format) m.fields) :
    ∃ cause, resolveCause m format c.index c.package c.options.displayKey = .ok cause ∧
      ∀ f, cause = some f ↔ f ∈ m.fields ∧ c.IsCause format f := by
  have hmem : ∀ f, f ∈ causeCandidates m format c.index c.package c.options.displayKey ↔
      f ∈ m.fields ∧ c.IsCause format f := fun f => by
    rw [causeCandidates_eq, List.mem_filter, isCause_iff]
  rw [hasTwo_isCause_iff] at h
  rw [resolveCause]
  match hc : causeCandidates m format c.index c.package c.options.displayKey with
  | [] =>
    refine ⟨none, rfl, fun f => ?_⟩
    rw [← hmem, hc]
    simp
  | [a] =>
    refine ⟨some a, rfl, fun f => ?_⟩
    rw [← hmem, hc, List.mem_singleton, Option.some.injEq, eq_comm]
  | a :: b :: rest => simp [hc] at h

end ErrorTaxonomy
