import Mathlib.Data.List.Forall2
import ErrorTaxonomy.Plan.Unit
import ErrorTaxonomy.Proofs.Plan.Rules

/-! # Causes — the field that is chosen and the fields that are reported

Of the fields that a format mentions and that hold at most one message, those whose type has a format of
its own could be the cause (`Context.IsCause`), and those whose type is not loaded are reported
(`Context.IsUnresolved`). **`causes_exact`** says what comes of them: the choice depends on how many
possible causes there are, every unresolved field is reported once, and of the format only the set of its
placeholders matters. -/

namespace ErrorTaxonomy

variable {c : Context} {m : Message} {format : String}

/-! ## Fields -/

instance (c : Context) (format : String) (f : Field) : Decidable (c.IsCause format f) :=
  decidable_of_iff _ (isCause_iff c format f)

/-- The **possible causes** among the fields of a message, in declared order. -/
def Context.causes (c : Context) (m : Message) (format : String) : List Field :=
  m.fields.filter fun f => c.IsCause format f

/-- A field is **unresolved**: the format mentions it, it holds at most one message, and the type of that
message is not loaded. -/
structure Context.IsUnresolved (c : Context) (format : String) (f : Field) : Prop where
  mentioned : f.name ∈ Template.placeholders format
  single : f.label ≠ .repeated
  unknown : ∃ t, f.type = .message t ∧ c.index.resolve? t c.package = none

/-- Whether a field is unresolved. -/
def Context.isUnresolved (c : Context) (format : String) (f : Field) : Bool :=
  Template.mentions format f.name &&
    f.messageType?.any fun t => (c.index.resolve? t c.package).isNone

/-- Unresolved fields are computed from the field and the index. -/
theorem isUnresolved_iff (c : Context) (format : String) (f : Field) :
    c.isUnresolved format f = true ↔ c.IsUnresolved format f := by
  rw [Context.isUnresolved, Bool.and_eq_true, Template.mentions, List.contains_iff_mem,
    Option.any_eq_true]
  simp only [Option.isNone_iff_eq_none, messageType?_eq_some_iff]
  constructor
  · rintro ⟨hmem, t, ⟨htype, hlabel⟩, hnone⟩
    exact ⟨hmem, hlabel, t, htype, hnone⟩
  · rintro ⟨hmem, hlabel, t, htype, hnone⟩
    exact ⟨hmem, t, ⟨htype, hlabel⟩, hnone⟩

instance (c : Context) (format : String) (f : Field) : Decidable (c.IsUnresolved format f) :=
  decidable_of_iff _ (isUnresolved_iff c format f)

/-! ## The choice -/

/-- The planner chooses among the possible causes. -/
theorem causeCandidates_eq_causes (c : Context) (m : Message) (format : String) :
    causeCandidates m format c.index c.package c.options.displayKey = c.causes m format := by
  rw [causeCandidates_eq, Context.causes]
  apply List.filter_congr
  intro f _
  rw [Bool.eq_iff_iff, isCause_iff, decide_eq_true_eq]

/-- **The choice** has three ends: no cause, the only one, and an error that names them all. -/
theorem resolveCause_cases (c : Context) (m : Message) (format : String) :
    c.causes m format = [] ∧
      resolveCause m format c.index c.package c.options.displayKey = .ok none ∨
    (∃ f, c.causes m format = [f] ∧
      resolveCause m format c.index c.package c.options.displayKey = .ok (some f)) ∨
    2 ≤ (c.causes m format).length ∧
      resolveCause m format c.index c.package c.options.displayKey =
        .error (.ambiguousCause m.name ((c.causes m format).map (·.name))) := by
  rw [resolveCause, causeCandidates_eq_causes]
  rcases c.causes m format with _ | ⟨f, _ | ⟨g, fs⟩⟩
  · exact .inl ⟨rfl, rfl⟩
  · exact .inr (.inl ⟨f, rfl, rfl⟩)
  · exact .inr (.inr ⟨by simp, rfl⟩)

/-- Each end says how many possible causes there are. -/
theorem resolveCause_eq_iff (c : Context) (m : Message) (format : String) :
    (resolveCause m format c.index c.package c.options.displayKey = .ok none ↔
      c.causes m format = []) ∧
    (∀ f, resolveCause m format c.index c.package c.options.displayKey = .ok (some f) ↔
      c.causes m format = [f]) ∧
    ∀ e, resolveCause m format c.index c.package c.options.displayKey = .error e ↔
      2 ≤ (c.causes m format).length ∧
        e = .ambiguousCause m.name ((c.causes m format).map (·.name)) := by
  rcases resolveCause_cases c m format with ⟨hc, hr⟩ | ⟨g, hc, hr⟩ | ⟨hc, hr⟩
  · simp [hc, hr]
  · simp [hc, hr]
  · have hnil : c.causes m format ≠ [] := fun h => by simp [h] at hc
    have hone : ∀ f, c.causes m format ≠ [f] := fun f h => by simp [h] at hc
    simp [hr, hnil, hone, hc, eq_comm]

/-! ## Reports -/

/-- The event that reports an unresolved field of a message. -/
def ReportsField (m : Message) (f : Field) (e : Event) : Prop :=
  e.level = .warning ∧ ∃ t, f.type = .message t ∧ e = .unresolvedCause m.name f.name t

/-- The unresolved types are those of the unresolved fields, in declared order. -/
theorem map_fst_unresolvedCauses (c : Context) (m : Message) (format : String) :
    (unresolvedCauses m format c.index c.package).map Prod.fst =
      m.fields.filter fun f => c.IsUnresolved format f := by
  have hfilter := map_fst_filter_mentionedMessages m format
    fun t => (c.index.resolve? t c.package).isNone
  rw [unresolvedCauses, hfilter]
  apply List.filter_congr
  intro f _
  rw [Bool.eq_iff_iff, decide_eq_true_eq]
  exact isUnresolved_iff c format f

/-- A mentioned message is the type of its field. -/
theorem type_of_mem_mentionedMessages {p : Field × String} (h : p ∈ mentionedMessages m format) :
    p.1.type = .message p.2 := by
  obtain ⟨f, -, hf⟩ := List.mem_filterMap.1 h
  split_ifs at hf
  obtain ⟨t, ht, rfl⟩ := Option.map_eq_some_iff.1 hf
  exact ((messageType?_eq_some_iff f t).1 ht).1

/-- **Every unresolved field is reported** once, in declared order, and nothing else is. -/
theorem forall₂_reportsField (c : Context) (m : Message) (format : String) :
    List.Forall₂ (ReportsField m) (m.fields.filter fun f => c.IsUnresolved format f)
      (causeEvents m format c.index c.package) := by
  rw [← map_fst_unresolvedCauses, causeEvents, List.forall₂_map_left_iff, List.forall₂_map_right_iff,
    List.forall₂_same]
  intro p hp
  exact ⟨rfl, p.2, type_of_mem_mentionedMessages (List.mem_filter.1 hp).1, rfl⟩

/-! ## Formats -/

/-- Formats with the same placeholders, in any order and however often, mention the same messages. -/
theorem mentionedMessages_congr {other : String} (m : Message)
    (h : ∀ n, n ∈ Template.placeholders other ↔ n ∈ Template.placeholders format) :
    mentionedMessages m other = mentionedMessages m format := by
  have hmentions : Template.mentions other = Template.mentions format := by
    funext n
    rw [Template.mentions, Template.mentions, Bool.eq_iff_iff, List.contains_iff_mem,
      List.contains_iff_mem]
    exact h n
  rw [mentionedMessages, mentionedMessages, hmentions]

/-- **Causes.** Without a possible cause there is none; a single one is the cause; several are an error
that names them all in declared order. Each unresolved field is reported by one warning, in declared order,
whatever is chosen, and nothing else is. A format whose placeholders are the same, in another order or
repeated, gives the same choice and the same warnings. -/
theorem causes_exact (c : Context) (m : Message) (format : String) :
    (resolveCause m format c.index c.package c.options.displayKey = .ok none ↔
      c.causes m format = []) ∧
    (∀ f, resolveCause m format c.index c.package c.options.displayKey = .ok (some f) ↔
      c.causes m format = [f]) ∧
    (∀ e, resolveCause m format c.index c.package c.options.displayKey = .error e ↔
      2 ≤ (c.causes m format).length ∧
        e = .ambiguousCause m.name ((c.causes m format).map (·.name))) ∧
    List.Forall₂ (ReportsField m) (m.fields.filter fun f => c.IsUnresolved format f)
      (causeEvents m format c.index c.package) ∧
    ∀ other, (∀ n, n ∈ Template.placeholders other ↔ n ∈ Template.placeholders format) →
      resolveCause m other c.index c.package c.options.displayKey =
        resolveCause m format c.index c.package c.options.displayKey ∧
      causeEvents m other c.index c.package = causeEvents m format c.index c.package := by
  obtain ⟨hnone, hone, hseveral⟩ := resolveCause_eq_iff c m format
  refine ⟨hnone, hone, hseveral, forall₂_reportsField c m format, fun other h => ?_⟩
  have hmentioned := mentionedMessages_congr m h
  constructor
  · rw [resolveCause, resolveCause, causeCandidates, causeCandidates, hmentioned]
  · rw [causeEvents, causeEvents, unresolvedCauses, unresolvedCauses, hmentioned]

/-- An error whose fields hold a message with a format, one that is not loaded, and a text. -/
def retryError : Message := ⟨"RetryError", [
  ⟨"cause", .message "TimeoutError", .optional, none⟩,
  ⟨"trace", .message ".ops.Trace", .singular, none⟩,
  ⟨"tries", .message "TimeoutError", .repeated, none⟩,
  ⟨"host", .scalar .string, .singular, none⟩], [], [], false⟩

/-- The unit of that error and of its cause. -/
def retryUnit : SchemaUnit := ⟨"retry.proto", "net", [retryError,
  ⟨"TimeoutError", [], [("errors.display", "timed out")], [], false⟩]⟩

/-- The place of that error. -/
def retryContext : Context := ⟨.build [retryUnit], "net", [], {}⟩

/-- However the placeholders are ordered and repeated, the error has one cause and one warning. -/
theorem causes_exact_reordered :
    resolveCause retryError "{trace}{host}{cause}, {tries} {cause}" retryContext.index "net"
        "errors.display" = .ok (some ⟨"cause", .message "TimeoutError", .optional, none⟩) ∧
      causeEvents retryError "{trace}{host}{cause}, {tries} {cause}" retryContext.index "net" =
        [.unresolvedCause "RetryError" "trace" ".ops.Trace"] := by
  obtain ⟨-, hone, -, -, hsame⟩ := causes_exact retryContext retryError "{cause}{trace}{tries}{host}"
  have hnames : ∀ n,
      n ∈ Template.placeholders "{trace}{host}{cause}, {tries} {cause}" ↔
        n ∈ Template.placeholders "{cause}{trace}{tries}{host}" := by
    have hleft : Template.placeholders "{trace}{host}{cause}, {tries} {cause}" =
        ["trace", "host", "cause", "tries", "cause"] := by decide
    have hright : Template.placeholders "{cause}{trace}{tries}{host}" =
        ["cause", "trace", "tries", "host"] := by decide
    intro n
    rw [hleft, hright]
    simp only [List.mem_cons, List.not_mem_nil]
    tauto
  obtain ⟨hresult, hevents⟩ := hsame _ hnames
  exact ⟨hresult.trans ((hone _).2 (by decide)), hevents.trans (by decide)⟩

end ErrorTaxonomy
