import Mathlib.Tactic.Common

/-!
# Runs of a labelled transition relation

The relational counterpart of the transducer: a step may have several outcomes
and its label records what was seen of it.
-/

namespace LoraNode.Foundation.LabelledRun

variable {State Label : Type*} (step : State → Label → State → Prop)

inductive Run : State → List Label → State → Prop where
  | nil (state : State) : Run state [] state
  | cons (state next last : State) (label : Label) (labels : List Label)
      (first : step state label next) (rest : Run next labels last) :
      Run state (label :: labels) last

variable {step}

/-- An invariant may speak of the labels seen so far. -/
theorem run_invariant {invariant : List Label → State → Prop}
    (preserved : ∀ history state label next, invariant history state → step state label next →
      invariant (history ++ [label]) next)
    {history labels : List Label} {start last : State} (holds : invariant history start)
    (run : Run step start labels last) : invariant (history ++ labels) last := by
  induction run generalizing history with
  | nil state => simpa using holds
  | cons state next last label labels first rest induction =>
      have later := induction (preserved history state label next holds first)
      simpa using later

/-- A budget from which every counted step takes one bounds their number. -/
theorem run_budget {step : State → Bool → State → Prop} {within : Nat → State → Prop}
    (spends : ∀ bound state label next, within bound state → step state label next →
      [label].count true ≤ bound ∧ within (bound - [label].count true) next)
    {bound : Nat} {start last : State} {labels : List Bool} (holds : within bound start)
    (run : Run step start labels last) :
    labels.count true ≤ bound ∧ within (bound - labels.count true) last := by
  have preserved (seen : List Bool) (state : State) (label : Bool) (next : State)
      (holds : seen.count true ≤ bound ∧ within (bound - seen.count true) state)
      (moved : step state label next) :
      (seen ++ [label]).count true ≤ bound ∧
        within (bound - (seen ++ [label]).count true) next := by
    obtain ⟨below, within⟩ := spends _ state label next holds.2 moved
    rw [List.count_append, ← Nat.sub_sub]
    exact ⟨by omega, within⟩
  have initial : ([] : List Bool).count true ≤ bound ∧
      within (bound - ([] : List Bool).count true) start := ⟨Nat.zero_le bound, holds⟩
  exact run_invariant preserved initial run

/-- So many turns, or fewer if nothing is left to do. -/
def settle (turn : State → Option State) : Nat → State → State
  | 0, state => state
  | turns + 1, state => (turn state).elim state (settle turn turns)

theorem settle_runs {turn : State → Option State}
    (taken : ∀ state next, turn state = some next → ∃ label, step state label next) (turns : Nat)
    (state : State) : ∃ labels, Run step state labels (settle turn turns state) := by
  induction turns generalizing state with
  | zero => exact ⟨[], .nil state⟩
  | succ turns induction =>
      rw [settle]
      cases turned : turn state with
      | none => exact ⟨[], .nil state⟩
      | some next =>
          obtain ⟨label, moved⟩ := taken state next turned
          obtain ⟨labels, run⟩ := induction next
          exact ⟨label :: labels, .cons state next _ label labels moved run⟩

end LoraNode.Foundation.LabelledRun
