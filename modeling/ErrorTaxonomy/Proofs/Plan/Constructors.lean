import ErrorTaxonomy.Proofs.Plan.Rules

/-! # Constructors — the members of a sum that share one

The planner looks for a shared constructor member by member, and only behind the member it has reached.
That is enough: a member that shares its constructor with one before it is not reached any more. So what
is found is the **first** member that shares its constructor at all, together with every member of that
constructor (`duplicate?_cases`).

* **`duplicate_constructors_reported`** — when a sum has no plan, what the error says, and what holds of the
  members of a plan. -/

namespace ErrorTaxonomy

/-! ## Shared items -/

/-- The item at position `i` is **shared**: there is one, and the same one stands at another position. -/
def SharedAt {α : Type} (ks : List (Option α)) (i : Nat) : Prop :=
  ∃ k j, j ≠ i ∧ ks[i]? = some (some k) ∧ ks[j]? = some (some k)

/-- The item at position `i` is the **first** that is shared. -/
def FirstShared {α : Type} (ks : List (Option α)) (i : Nat) : Prop :=
  SharedAt ks i ∧ ∀ j < i, ¬ SharedAt ks j

section Shared

variable {α : Type} {a : Option α} {ks : List (Option α)}

/-- The head is shared when it stands among the others. -/
theorem sharedAt_cons_zero : SharedAt (a :: ks) 0 ↔ ∃ k, a = some k ∧ some k ∈ ks := by
  constructor
  · rintro ⟨k, j, hj, hk, hjk⟩
    obtain ⟨j, rfl⟩ := Nat.exists_eq_succ_of_ne_zero hj
    exact ⟨k, Option.some.inj hk, List.mem_of_getElem? hjk⟩
  · rintro ⟨k, rfl, hk⟩
    obtain ⟨j, hj⟩ := List.getElem?_of_mem hk
    exact ⟨k, j + 1, by omega, rfl, hj⟩

/-- A head that is not shared does not matter for the others. -/
theorem sharedAt_cons_succ (h : ¬ SharedAt (a :: ks) 0) (i : Nat) :
    SharedAt (a :: ks) (i + 1) ↔ SharedAt ks i := by
  constructor
  · rintro ⟨k, j, hj, hi, hjk⟩
    rw [List.getElem?_cons_succ] at hi
    -- the other position is not that of the head, which would be shared too
    cases j with
    | zero => exact absurd (sharedAt_cons_zero.2 ⟨k, Option.some.inj hjk, List.mem_of_getElem? hi⟩) h
    | succ j => exact ⟨k, j, by omega, hi, hjk⟩
  · rintro ⟨k, j, hj, hi, hjk⟩
    exact ⟨k, j + 1, by omega, hi, hjk⟩

/-- The first shared item stays the first behind a head that is not shared. -/
theorem firstShared_cons_succ (h : ¬ SharedAt (a :: ks) 0) {i : Nat} (hi : FirstShared ks i) :
    FirstShared (a :: ks) (i + 1) := by
  refine ⟨(sharedAt_cons_succ h i).2 hi.1, fun j hj => ?_⟩
  cases j with
  | zero => exact h
  | succ j =>
    rw [sharedAt_cons_succ h]
    exact hi.2 j (by omega)

end Shared

/-! ## Members -/

/-- The constructor of a member, if it holds a message. -/
def SumMember.constructor? (m : SumMember) : Option String := m.type?.map (·.constructor)

/-- The members with that constructor. -/
def constructedBy (ms : List SumMember) (constructor : String) : List SumMember :=
  ms.filter (·.constructs constructor)

section Members

variable {m : SumMember} {ms : List SumMember}

/-- A member has the constructor that it constructs. -/
theorem constructs_iff {k : String} : m.constructs k = true ↔ m.constructor? = some k := by
  rw [SumMember.constructs, SumMember.constructor?]
  cases m.type? <;> simp

/-- A constructor is among those of members when one of them has it. -/
theorem mem_map_constructor?_iff {k : String} :
    some k ∈ ms.map SumMember.constructor? ↔ constructedBy ms k ≠ [] := by
  rw [List.mem_map, Ne, constructedBy, List.filter_eq_nil_iff]
  simp only [constructs_iff, not_forall, not_not, exists_prop]

/-- The search goes on behind a member that shares its constructor with none. -/
theorem duplicate?_cons_of_not_shared
    (h : ¬ SharedAt ((m :: ms).map SumMember.constructor?) 0) : duplicate? (m :: ms) = duplicate? ms := by
  rw [duplicate?]
  cases ht : m.type? with
  | none => rfl
  | some t =>
    have hnone : constructedBy ms t.constructor = [] := by
      by_contra hne
      apply h
      rw [List.map_cons, sharedAt_cons_zero]
      exact ⟨t.constructor, by rw [SumMember.constructor?, ht]; rfl, mem_map_constructor?_iff.2 hne⟩
    rw [constructedBy] at hnone
    simp only [hnone]

/-- The search ends at a member that shares its constructor with a later one. -/
theorem duplicate?_cons_of_shared (h : SharedAt ((m :: ms).map SumMember.constructor?) 0) :
    ∃ t, m.type? = some t ∧ 2 ≤ (constructedBy (m :: ms) t.constructor).length ∧
      duplicate? (m :: ms) = some (t, (constructedBy (m :: ms) t.constructor).map (·.field)) := by
  rw [List.map_cons, sharedAt_cons_zero] at h
  obtain ⟨k, hk, hmem⟩ := h
  obtain ⟨t, ht, rfl⟩ := Option.map_eq_some_iff.1 hk
  refine ⟨t, ht, ?_⟩
  have hself : constructedBy (m :: ms) t.constructor = m :: constructedBy ms t.constructor :=
    List.filter_cons_of_pos (constructs_iff.2 hk)
  rw [hself, duplicate?, ht]
  cases hlater : constructedBy ms t.constructor with
  | nil => exact absurd hlater (mem_map_constructor?_iff.1 hmem)
  | cons n ns =>
    rw [constructedBy] at hlater
    simp only [hlater]
    exact ⟨by simp, rfl⟩

/-- **The search** finds nothing or the first member that shares its constructor, with the fields of all
members of that constructor. -/
theorem duplicate?_cases (ms : List SumMember) :
    duplicate? ms = none ∨
      ∃ i m t, FirstShared (ms.map SumMember.constructor?) i ∧ ms[i]? = some m ∧ m.type? = some t ∧
        2 ≤ (constructedBy ms t.constructor).length ∧
        duplicate? ms = some (t, (constructedBy ms t.constructor).map (·.field)) := by
  induction ms with
  | nil => exact .inl rfl
  | cons m ms ih =>
    by_cases hm : SharedAt ((m :: ms).map SumMember.constructor?) 0
    · obtain ⟨t, ht, hlen, hd⟩ := duplicate?_cons_of_shared hm
      exact .inr ⟨0, m, t, ⟨hm, fun j hj => absurd hj (Nat.not_lt_zero j)⟩, rfl, ht, hlen, hd⟩
    · rw [duplicate?_cons_of_not_shared hm]
      rcases ih with hd | ⟨i, n, t, hfirst, hn, ht, hlen, hd⟩
      · exact .inl hd
      · -- the head has another constructor, or it would share it with the member that is found
        have hskip : m.constructs t.constructor = false := by
          rw [Bool.eq_false_iff]
          intro hc
          apply hm
          rw [List.map_cons, sharedAt_cons_zero]
          refine ⟨t.constructor, constructs_iff.1 hc, List.mem_map.2 ⟨n, List.mem_of_getElem? hn, ?_⟩⟩
          rw [SumMember.constructor?, ht, Option.map_some]
        have hsame : constructedBy (m :: ms) t.constructor = constructedBy ms t.constructor :=
          List.filter_cons_of_neg (by simp [hskip])
        refine .inr ⟨i + 1, n, t, firstShared_cons_succ hm hfirst, hn, ht, ?_⟩
        rw [hsame]
        exact ⟨hlen, hd⟩

end Members

/-! ## Sums -/

section Sums

variable {c : Context}

/-- The constructor of a member is named after its type. -/
theorem constructor_memberType (c : Context) (t : String) :
    (c.memberType t).constructor = "from_" ++ Ident.snakeCase (c.typeOf t).1 := rfl

/-- A member has the constructor of its field. -/
theorem constructor?_member (c : Context) (f : Field) :
    (c.member f).constructor? = c.constructor? f := by
  rw [SumMember.constructor?, Context.member, Context.constructor?, Option.map_map]
  rfl

/-- Fields that share no constructor have different ones. -/
theorem pairwise_constructor_ne {fs : List Field} (h : ¬ c.SharesConstructor fs) :
    fs.Pairwise fun f g => ∀ s t, f.messageType? = some s → g.messageType? = some t →
      (c.memberType s).constructor ≠ (c.memberType t).constructor := by
  rw [List.pairwise_iff_forall_sublist]
  intro f g hsub s t hs ht heq
  refine h ⟨(c.memberType t).constructor, f, g, hsub, ?_, ?_⟩
  · simp only [Context.constructor?, hs, Option.map_some, heq]
  · simp only [Context.constructor?, ht, Option.map_some]

/-- A type that resolves has the name of the message it resolves to, however it is spelled. -/
theorem typeOf_of_resolve? {t : String} {e : IndexEntry} (h : c.index.resolve? t c.package = some e) :
    (c.typeOf t).1 = e.message.name := by
  rw [Context.typeOf, h]

/-- Fields that share no constructor resolve to different messages. -/
theorem pairwise_resolve?_ne {fs : List Field} (h : ¬ c.SharesConstructor fs) :
    fs.Pairwise fun f g => ∀ s t e, f.messageType? = some s → g.messageType? = some t →
      c.index.resolve? s c.package = some e → c.index.resolve? t c.package ≠ some e := by
  apply (pairwise_constructor_ne h).imp
  intro f g hne s t e hs ht hse hte
  apply hne s t hs ht
  rw [constructor_memberType, constructor_memberType, typeOf_of_resolve? hse, typeOf_of_resolve? hte]

/-- The constructors of fields that share none stand once each. -/
theorem nodup_constructors {fs : List Field} (h : ¬ c.SharesConstructor fs) :
    ((fs.map c.member).filterMap SumMember.constructor?).Nodup := by
  rw [List.filterMap_map, List.Nodup, List.pairwise_filterMap]
  apply (pairwise_constructor_ne h).imp
  intro f g hne k hf k' hg
  rw [Function.comp_apply, constructor?_member] at hf hg
  obtain ⟨s, hs, rfl⟩ := Option.map_eq_some_iff.1 hf
  obtain ⟨t, ht, rfl⟩ := Option.map_eq_some_iff.1 hg
  exact hne s t hs ht

/-- The fields of a union that have the constructor of `f`. -/
def Context.sharers (c : Context) (fs : List Field) (f : Field) : List Field :=
  fs.filter fun g => c.constructor? g = c.constructor? f

/-- The members with the constructor of a field are made of the fields that share it. -/
theorem map_field_constructedBy {f : Field} {k : String} (h : c.constructor? f = some k)
    (fs : List Field) :
    (constructedBy (fs.map c.member) k).map (·.field) = (c.sharers fs f).map (·.name) := by
  rw [constructedBy, List.filter_map, List.map_map, Context.sharers, h]
  have hsame : ((·.constructs k) ∘ c.member : Field → Bool) =
      fun g => decide (c.constructor? g = some k) := by
    funext g
    rw [Function.comp_apply, Bool.eq_iff_iff, constructs_member_iff, decide_eq_true_eq]
  rw [hsame]
  rfl

/-- **The members of a union** share no constructor, or the planner finds the first field that shares its
constructor and all fields that share it. -/
theorem duplicate?_member_cases (c : Context) (fs : List Field) :
    (duplicate? (fs.map c.member) = none ∧ ¬ c.SharesConstructor fs) ∨
      c.SharesConstructor fs ∧ ∃ i f t, FirstShared (fs.map c.constructor?) i ∧ fs[i]? = some f ∧
        f.messageType? = some t ∧ 2 ≤ (c.sharers fs f).length ∧
        duplicate? (fs.map c.member) = some (c.memberType t, (c.sharers fs f).map (·.name)) := by
  have hkeys : (fs.map c.member).map SumMember.constructor? = fs.map c.constructor? := by
    rw [List.map_map]
    exact List.map_congr_left fun f _ => constructor?_member c f
  rcases duplicate?_cases (fs.map c.member) with hd | ⟨i, m, ty, hfirst, hm, hty, hlen, hd⟩
  · exact .inl ⟨hd, (duplicate?_eq_none_iff c fs).1 hd⟩
  · -- the planner finds something, so its check is not passed
    have hshares : c.SharesConstructor fs := by
      by_contra h
      rw [(duplicate?_eq_none_iff c fs).2 h] at hd
      cases hd
    rw [List.getElem?_map] at hm
    obtain ⟨f, hf, rfl⟩ := Option.map_eq_some_iff.1 hm
    obtain ⟨t, ht, rfl⟩ := Option.map_eq_some_iff.1 hty
    -- what was found among the members is told of the fields they are made of
    have hfields := map_field_constructedBy (f := f) (k := (c.memberType t).constructor)
      (by rw [Context.constructor?, ht]; rfl) fs
    have hlengths := congrArg List.length hfields
    rw [List.length_map, List.length_map] at hlengths
    rw [hkeys] at hfirst
    rw [hfields] at hd
    exact .inr ⟨hshares, i, f, t, hfirst, hf, ht, hlengths ▸ hlen, hd⟩

/-- **Duplicate constructors are reported.** A sum has no plan exactly when two of its members have one
constructor. The error is about the first member that shares its constructor: it has the type of that
member, without a leading dot, and all members of the constructor, in declared order and at least two. The
members of a plan have a constructor each, and no two of them resolve to one message of the index, however
their types are spelled. -/
theorem duplicate_constructors_reported (c : Context) (m : Message) (u : TaggedUnion) :
    ((∃ type fields, c.planSum m u = .error (.duplicateConstructor m.name u.name type fields)) ↔
      c.SharesConstructor u.members) ∧
    (∀ e, c.planSum m u = .error e → ∃ i f t, FirstShared (u.members.map c.constructor?) i ∧
      u.members[i]? = some f ∧ f.messageType? = some t ∧ 2 ≤ (c.sharers u.members f).length ∧
      e = .duplicateConstructor m.name u.name (Text.withoutDot t)
        ((c.sharers u.members f).map (·.name))) ∧
    ((∃ p, c.planSum m u = .ok p) ↔ ¬ c.SharesConstructor u.members) ∧
    ∀ p, c.planSum m u = .ok p → p.members = u.members.map c.member ∧
      (p.members.filterMap SumMember.constructor?).Nodup ∧
      u.members.Pairwise fun f g => ∀ s t e, f.messageType? = some s → g.messageType? = some t →
        c.index.resolve? s c.package = some e → c.index.resolve? t c.package ≠ some e := by
  rw [Context.planSum]
  rcases duplicate?_member_cases c u.members with
    ⟨hd, hnot⟩ | ⟨hshares, i, f, t, hfirst, hf, ht, hlen, hd⟩
  · simp only [hd]
    refine ⟨⟨nofun, fun h => absurd h hnot⟩, nofun, ⟨fun _ => hnot, fun _ => ⟨_, rfl⟩⟩, ?_⟩
    rintro p hp
    obtain rfl := Except.ok.inj hp
    exact ⟨rfl, nodup_constructors hnot, pairwise_resolve?_ne hnot⟩
  · simp only [hd]
    refine ⟨⟨fun _ => hshares, fun _ => ⟨_, _, rfl⟩⟩, ?_, ⟨nofun, fun h => absurd hshares h⟩, nofun⟩
    rintro e he
    obtain rfl := Except.error.inj he
    exact ⟨i, f, t, hfirst, hf, ht, hlen, rfl⟩

end Sums

/-- A text and two messages. -/
def plainMembers : List Field := [
  ⟨"note", .scalar .string, .singular, some "kind"⟩,
  ⟨"lost", .message "LostError", .singular, some "kind"⟩,
  ⟨"first", .message ".net.TimeoutError", .singular, some "kind"⟩]

/-- The second of these messages in two more spellings. -/
def respelledMembers : List Field := [
  ⟨"second", .message "TimeoutError", .singular, some "kind"⟩,
  ⟨"third", .message "net.TimeoutError", .optional, some "kind"⟩]

/-- A place where both messages are loaded. -/
def netContext : Context := ⟨.build [⟨"net.proto", "net", [
  ⟨"LostError", [], [], [], false⟩, ⟨"TimeoutError", [], [], [], false⟩]⟩], "net", [], {}⟩

/-- The sum over these messages. -/
def netError : Message := ⟨"NetError", plainMembers ++ respelledMembers, [], [], false⟩

/-- One message in three spellings is an error that names its three fields; without the other spellings
there is a plan, and its two messages are different ones. -/
theorem duplicate_constructors_reported_respelled :
    netContext.planSum netError ⟨"kind", plainMembers ++ respelledMembers⟩ =
        .error (.duplicateConstructor "NetError" "kind" "net.TimeoutError"
          ["first", "second", "third"]) ∧
      netContext.SharesConstructor (plainMembers ++ respelledMembers) ∧
      ∃ p, netContext.planSum netError ⟨"kind", plainMembers⟩ = .ok p ∧
        (p.members.filterMap SumMember.constructor?).Nodup ∧
        plainMembers.Pairwise fun f g => ∀ s t e, f.messageType? = some s → g.messageType? = some t →
          netContext.index.resolve? s "net" = some e →
            netContext.index.resolve? t "net" ≠ some e := by
  have herror : netContext.planSum netError ⟨"kind", plainMembers ++ respelledMembers⟩ =
      .error (.duplicateConstructor "NetError" "kind" "net.TimeoutError"
        ["first", "second", "third"]) := by decide
  obtain ⟨hshares, -⟩ := duplicate_constructors_reported netContext netError
    ⟨"kind", plainMembers ++ respelledMembers⟩
  obtain ⟨-, -, -, hplan⟩ := duplicate_constructors_reported netContext netError
    ⟨"kind", plainMembers⟩
  obtain ⟨-, hnodup, hapart⟩ := hplan _ rfl
  exact ⟨herror, hshares.1 ⟨_, _, herror⟩, _, rfl, hnodup, hapart⟩

end ErrorTaxonomy
