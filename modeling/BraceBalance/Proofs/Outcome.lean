import Mathlib.Data.List.Forall2

/-!
# Steps that may fail

A run of steps succeeds if all of them do, and otherwise its fault is that of the first step
that fails.
-/

namespace BraceBalance

namespace Outcome

variable {ε δ α β : Type}

theorem bind_eq_ok_iff {step : Except ε α} {next : α → Except ε β} {result : β} :
    (step >>= next) = .ok result ↔ ∃ value, step = .ok value ∧ next value = .ok result := by
  cases step with
  | error fault => simp [bind, Except.bind]
  | ok value => simp [bind, Except.bind]

theorem mapError_eq_ok_iff {step : Except ε α} {change : ε → δ} {result : α} :
    step.mapError change = .ok result ↔ step = .ok result := by
  cases step with
  | error fault => simp [Except.mapError]
  | ok value => simp [Except.mapError]

theorem bind_eq_error_iff {step : Except ε α} {next : α → Except ε β} {fault : ε} :
    (step >>= next) = .error fault ↔
      step = .error fault ∨ ∃ value, step = .ok value ∧ next value = .error fault := by
  cases step with
  | error other => simp [bind, Except.bind]
  | ok value => simp [bind, Except.bind]

theorem mapError_eq_error_iff {step : Except ε α} {change : ε → δ} {fault : δ} :
    step.mapError change = .error fault ↔ ∃ cause, step = .error cause ∧ change cause = fault := by
  cases step with
  | error cause => simp [Except.mapError]
  | ok value => simp [Except.mapError]

theorem mapM_eq_ok_iff {step : α → Except ε β} {inputs : List α} {results : List β} :
    inputs.mapM step = .ok results ↔
      List.Forall₂ (fun input result => step input = .ok result) inputs results := by
  induction inputs generalizing results with
  | nil =>
      rw [List.mapM_nil, List.forall₂_nil_left_iff]
      exact ⟨fun same => (Except.ok.inj same).symm, fun empty => empty ▸ rfl⟩
  | cons input inputs ih =>
      simp only [List.mapM_cons, bind_eq_ok_iff, ih, List.forall₂_cons_left_iff]
      constructor
      · rintro ⟨result, first, later, rest, same⟩
        exact ⟨result, later, first, rest, (Except.ok.inj same).symm⟩
      · rintro ⟨result, later, first, rest, rfl⟩
        exact ⟨result, first, later, rest, rfl⟩

theorem mapM_eq_error {step : α → Except ε β} {before : List α} {failing : α} {fault : ε}
    (succeed : ∀ input ∈ before, ∃ result, step input = .ok result)
    (fails : step failing = .error fault) (after : List α) :
    (before ++ failing :: after).mapM step = .error fault := by
  induction before with
  | nil => simp [List.mapM_cons, fails, bind, Except.bind]
  | cons input before ih =>
      rcases succeed input List.mem_cons_self with ⟨result, first⟩
      have later := ih fun other otherMem => succeed other (List.mem_cons_of_mem _ otherMem)
      rw [List.cons_append, List.mapM_cons, first, later]
      rfl

theorem exists_first_error {step : α → Except ε β} {inputs : List α} {fault : ε}
    (fails : inputs.mapM step = .error fault) :
    ∃ before failing after, inputs = before ++ failing :: after ∧
      (∀ input ∈ before, ∃ result, step input = .ok result) ∧ step failing = .error fault := by
  induction inputs with
  | nil => cases fails
  | cons input inputs ih =>
      simp only [List.mapM_cons, bind_eq_error_iff] at fails
      rcases fails with first | ⟨result, first, later | ⟨results, _, impossible⟩⟩
      · exact ⟨[], input, inputs, rfl, by simp, first⟩
      · rcases ih later with ⟨before, failing, after, rfl, succeed, isFault⟩
        refine ⟨input :: before, failing, after, rfl, ?_, isFault⟩
        intro earlier earlierMem
        rcases List.mem_cons.mp earlierMem with rfl | beforeMem
        · exact ⟨result, first⟩
        · exact succeed earlier beforeMem
      · cases impossible

/-- A loop that drops the results of its steps fails as a map does that keeps them. -/
theorem forIn_eq_map_mapM (step : α → Except ε β) (inputs : List α) :
    (forIn (m := Except ε) inputs PUnit.unit fun input _ => do
      let _ ← step input
      return ForInStep.yield PUnit.unit) =
      (inputs.mapM step).map fun _ => PUnit.unit := by
  induction inputs with
  | nil => rfl
  | cons input inputs ih =>
      rw [List.forIn_cons, List.mapM_cons]
      cases step input with
      | error fault => rfl
      | ok result =>
          refine ih.trans ?_
          cases inputs.mapM step <;> rfl

end Outcome

end BraceBalance
