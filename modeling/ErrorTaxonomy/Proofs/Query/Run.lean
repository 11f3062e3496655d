import ErrorTaxonomy.Proofs.Traversal
import ErrorTaxonomy.Query.Run

/-! # Running a filter — the values it yields and the error it gives up with

A filter that the engine does not compile is not run. When a filter is run, every output becomes a JSON
value, and the filter ends (`Query.run_eq_ok_iff`); or the first output that does not gives the error and
no value is left, not even of the outputs before it; or it goes on forever (`Query.run_eq_error_iff`). -/

namespace ErrorTaxonomy.Query

variable {engine : Engine} {filter : String} {document : Json}

/-- A filter **yields** the JSON values of all its outputs, in order, and ends. -/
inductive Yields (engine : Engine) (filter : String) (document : Json) : List Json → Prop
  | mk {program : Json → Outputs} {vs : List Json} (compile : engine.compile filter = .ok program)
      (written : List.Forall₂ (fun r v => output r = .ok v) (program document).given vs)
      (ends : (program document).ends = true) : Yields engine filter document vs

/-- A filter **gives up**: it does not compile, or one of its outputs, perhaps after others that are
fine, is an error or has no JSON text, or its outputs are fine and it does not end. -/
inductive GivesUp (engine : Engine) (filter : String) (document : Json) : NoResult QueryError → Prop
  | refused {r : Refusal} (compile : engine.compile filter = .error r) :
    GivesUp engine filter document (.error (r.toError filter))
  | output {program : Json → Outputs} {good : List (Except String String)} {r : Except String String}
      {rest : List (Except String String)} {e : QueryError} (compile : engine.compile filter = .ok program)
      (outputs : (program document).given = good ++ r :: rest)
      (written : ∀ s ∈ good, ∃ v, output s = .ok v) (fails : output r = .error e) :
    GivesUp engine filter document (.error e)
  | endless {program : Json → Outputs} (compile : engine.compile filter = .ok program)
      (written : ∀ s ∈ (program document).given, ∃ v, output s = .ok v)
      (goesOn : (program document).ends = false) : GivesUp engine filter document .endless

/-- A filter that compiles is run to its first output that fails, or to its end. -/
theorem run_of_compile {program : Json → Outputs} (hcompile : engine.compile filter = .ok program) :
    run engine filter document =
      ((program document).given.mapM output).mapError .error >>= fun vs =>
        if (program document).ends then .ok vs else .error .endless := by
  rw [run, hcompile]
  rfl

/-- A filter that does not compile is not run. -/
theorem run_of_refused {r : Refusal} (hcompile : engine.compile filter = .error r) :
    run engine filter document = .error (.error (r.toError filter)) := by
  rw [run, hcompile]
  rfl

/-- **Running a filter** gives the values that it yields. -/
theorem run_eq_ok_iff {vs : List Json} :
    run engine filter document = .ok vs ↔ Yields engine filter document vs := by
  constructor
  · intro h
    cases hcompile : engine.compile filter with
    | error r =>
      rw [run_of_refused hcompile] at h
      cases h
    | ok program =>
      rw [run_of_compile hcompile] at h
      obtain ⟨ws, hwritten, hends⟩ := bind_eq_ok_iff.1 h
      split_ifs at hends with hend
      obtain rfl := Except.ok.inj hends
      exact .mk hcompile (mapM_eq_ok_iff.1 (mapError_eq_ok_iff.1 hwritten)) hend
  · rintro ⟨hcompile, hwritten, hends⟩
    rw [run_of_compile hcompile]
    refine bind_eq_ok_iff.2 ⟨vs, mapError_eq_ok_iff.2 (mapM_eq_ok_iff.2 hwritten), ?_⟩
    rw [if_pos hends]

/-- **Running a filter fails** as the filter gives up. -/
theorem run_eq_error_iff {e : NoResult QueryError} :
    run engine filter document = .error e ↔ GivesUp engine filter document e := by
  constructor
  · intro h
    cases hcompile : engine.compile filter with
    | error r =>
      rw [run_of_refused hcompile] at h
      obtain rfl := Except.error.inj h
      exact .refused hcompile
    | ok program =>
      rw [run_of_compile hcompile] at h
      obtain hwriting | ⟨vs, hwritten, hends⟩ := bind_eq_error_iff.1 h
      · obtain ⟨q, hstops, rfl⟩ := mapError_eq_error_iff.1 hwriting
        obtain ⟨good, r, rest, houtputs, hwritten, hfails⟩ := mapM_eq_error_iff.1 hstops
        exact .output hcompile houtputs hwritten hfails
      · -- all outputs are fine, so that only the end can be missing
        split_ifs at hends with hend
        obtain rfl := Except.error.inj hends
        have hall := exists_mapM_eq_ok_iff.1 ⟨vs, mapError_eq_ok_iff.1 hwritten⟩
        exact .endless hcompile hall (Bool.eq_false_iff.2 hend)
  · intro h
    cases h with
    | refused compile => exact run_of_refused compile
    | output compile outputs written fails =>
      rw [run_of_compile compile]
      refine bind_eq_error_iff.2 (.inl (mapError_eq_error_iff.2 ⟨_, ?_, rfl⟩))
      exact mapM_eq_error_iff.2 ⟨_, _, _, outputs, written, fails⟩
    | endless compile written goesOn =>
      obtain ⟨vs, hvs⟩ := exists_mapM_eq_ok_iff.2 written
      rw [run_of_compile compile]
      refine bind_eq_error_iff.2 (.inr ⟨vs, mapError_eq_ok_iff.2 hvs, ?_⟩)
      rw [goesOn]
      rfl

end ErrorTaxonomy.Query
