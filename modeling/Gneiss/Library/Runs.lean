import Mathlib.Data.List.Basic

/-!
Runs of a machine that takes one input at a time, and the rules by which a fact about one step
becomes a fact about every run.
-/

namespace Runs

variable {State Input : Type}

def run (step : State → Input → State) : State → List Input → State
  | state, [] => state
  | state, input :: rest => run step (step state input) rest

theorem run_append (step : State → Input → State) (state : State) (first second : List Input) :
    run step state (first ++ second) = run step (run step state first) second := by
  induction first generalizing state with
  | nil => rfl
  | cons input rest ih => exact ih (step state input)

theorem run_invariant (step : State → Input → State) (Inv : State → Prop)
    (preserved : ∀ state input, Inv state → Inv (step state input))
    (state : State) (inputs : List Input) (start : Inv state) :
    Inv (run step state inputs) := by
  induction inputs generalizing state with
  | nil => exact start
  | cons input rest ih => exact ih (step state input) (preserved state input start)

theorem run_related (step : State → Input → State) (Inv : State → Prop)
    (Rel : State → State → Prop)
    (preserved : ∀ state input, Inv state → Inv (step state input))
    (refl : ∀ state, Rel state state)
    (trans : ∀ first second third, Rel first second → Rel second third → Rel first third)
    (stepped : ∀ state input, Inv state → Rel state (step state input))
    (state : State) (inputs : List Input) (start : Inv state) :
    Rel state (run step state inputs) := by
  induction inputs generalizing state with
  | nil => exact refl state
  | cons input rest ih =>
      exact trans _ _ _ (stepped state input start)
        (ih (step state input) (preserved state input start))

/-- A goal is reached if some inputs bring every state that has not reached it closer to it. -/
theorem run_reaches (step : State → Input → State) (Inv Goal : State → Prop)
    (distance : State → Nat)
    (closer : ∀ state, Inv state → ¬Goal state → ∃ inputs,
      Inv (run step state inputs) ∧
        (Goal (run step state inputs) ∨ distance (run step state inputs) < distance state))
    (state : State) (start : Inv state) : ∃ inputs, Goal (run step state inputs) := by
  induction bound : distance state using Nat.strongRecOn generalizing state with
  | ind _ ih =>
      by_cases there : Goal state
      · exact ⟨[], there⟩
      · obtain ⟨inputs, later, goal | less⟩ := closer state start there
        · exact ⟨inputs, goal⟩
        · obtain ⟨rest, goal⟩ := ih _ (bound ▸ less) _ later rfl
          exact ⟨inputs ++ rest, by rw [run_append]; exact goal⟩

/-! A property of every step of a run. -/

def EachStep (step : State → Input → State) (property : State → Input → Prop) :
    State → List Input → Prop
  | _, [] => True
  | state, input :: rest => property state input ∧ EachStep step property (step state input) rest

instance decidableEachStep (step : State → Input → State) (property : State → Input → Prop)
    [∀ state input, Decidable (property state input)] :
    (state : State) → (inputs : List Input) → Decidable (EachStep step property state inputs)
  | _, [] => inferInstanceAs (Decidable True)
  | state, input :: rest =>
      have := decidableEachStep step property (step state input) rest
      inferInstanceAs (Decidable (property state input ∧ _))

theorem eachStep_append (step : State → Input → State) (property : State → Input → Prop)
    (state : State) (first second : List Input) (before : EachStep step property state first)
    (after : EachStep step property (run step state first) second) :
    EachStep step property state (first ++ second) := by
  induction first generalizing state with
  | nil => exact after
  | cons input rest ih => exact ⟨before.1, ih (step state input) before.2 after⟩

theorem eachStep_left (step : State → Input → State) (property : State → Input → Prop)
    (state : State) (first second : List Input)
    (holds : EachStep step property state (first ++ second)) :
    EachStep step property state first := by
  induction first generalizing state with
  | nil => trivial
  | cons input rest ih => exact ⟨holds.1, ih (step state input) holds.2⟩

theorem eachStep_and (step : State → Input → State) (first second : State → Input → Prop)
    (state : State) (inputs : List Input) :
    EachStep step (fun state input => first state input ∧ second state input) state inputs ↔
      EachStep step first state inputs ∧ EachStep step second state inputs := by
  induction inputs generalizing state with
  | nil => exact ⟨fun _ => ⟨trivial, trivial⟩, fun _ => trivial⟩
  | cons input rest ih =>
      simp only [EachStep, ih (step state input)]
      constructor
      · rintro ⟨⟨one, two⟩, later⟩
        exact ⟨⟨one, later.1⟩, two, later.2⟩
      · rintro ⟨⟨one, firstLater⟩, two, secondLater⟩
        exact ⟨⟨one, two⟩, firstLater, secondLater⟩

theorem eachStep_of_invariant (step : State → Input → State) (Inv : State → Prop)
    (assumed property : State → Input → Prop)
    (preserved : ∀ state input, Inv state → assumed state input → Inv (step state input))
    (implied : ∀ state input, Inv state → assumed state input → property state input)
    (state : State) (inputs : List Input) (start : Inv state)
    (holds : EachStep step assumed state inputs) : EachStep step property state inputs := by
  induction inputs generalizing state with
  | nil => trivial
  | cons input rest ih =>
      exact ⟨implied state input start holds.1,
        ih (step state input) (preserved state input start holds.1) holds.2⟩

/-- An invariant that a step keeps only if it meets a condition. -/
theorem run_invariant_of_eachStep (step : State → Input → State) (Inv : State → Prop)
    (assumed : State → Input → Prop)
    (preserved : ∀ state input, Inv state → assumed state input → Inv (step state input))
    (state : State) (inputs : List Input) (start : Inv state)
    (holds : EachStep step assumed state inputs) : Inv (run step state inputs) := by
  induction inputs generalizing state with
  | nil => exact start
  | cons input rest ih =>
      exact ih (step state input) (preserved state input start holds.1) holds.2

/-- Two conditions on steps that agree as long as an invariant holds, which either of them keeps. -/
theorem eachStep_iff_of_invariant (step : State → Input → State) (Inv : State → Prop)
    (first second : State → Input → Prop)
    (preserved : ∀ state input, Inv state → first state input → Inv (step state input))
    (same : ∀ state input, Inv state → (first state input ↔ second state input))
    (state : State) (inputs : List Input) (start : Inv state) :
    EachStep step first state inputs ↔ EachStep step second state inputs := by
  induction inputs generalizing state with
  | nil => exact Iff.rfl
  | cons input rest ih =>
      simp only [EachStep, ← same state input start]
      exact and_congr_right fun holds => ih (step state input) (preserved state input start holds)

end Runs
