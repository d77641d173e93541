import Mathlib.Data.List.Basic

/-!
# Runs of a deterministic machine with outputs

A machine answers every input with its next state and an output. An invariant
is carried over a run together with the outputs produced so far, and inputs that
leave the state alone can be skipped.
-/

namespace LoraNode.Foundation.Transducer

variable {State Input Output : Type*} (step : State → Input → State × Output)

def finalState (start : State) : List Input → State
  | [] => start
  | input :: inputs => finalState (step start input).1 inputs

def outputs (start : State) : List Input → List Output
  | [] => []
  | input :: inputs => (step start input).2 :: outputs (step start input).1 inputs

@[simp] theorem final_state_nil (start : State) : finalState step start [] = start := rfl

@[simp] theorem outputs_nil (start : State) : outputs step start [] = [] := rfl

theorem final_state_append (start : State) (first second : List Input) :
    finalState step start (first ++ second) =
      finalState step (finalState step start first) second := by
  induction first generalizing start with
  | nil => rfl
  | cons input first induction => exact induction _

theorem outputs_append (start : State) (first second : List Input) :
    outputs step start (first ++ second) =
      outputs step start first ++ outputs step (finalState step start first) second := by
  induction first generalizing start with
  | nil => rfl
  | cons input first induction => simp only [List.cons_append, outputs, finalState, induction]

/-- An invariant may speak of the outputs produced so far. -/
theorem run_invariant (invariant : List Output → State → Prop)
    (preserved : ∀ history state input, invariant history state →
      invariant (history ++ [(step state input).2]) (step state input).1)
    (history : List Output) (start : State) (holds : invariant history start)
    (inputs : List Input) :
    invariant (history ++ outputs step start inputs) (finalState step start inputs) := by
  induction inputs generalizing history start with
  | nil => simpa using holds
  | cons input inputs induction =>
      have next := induction _ _ (preserved history start input holds)
      simpa [outputs, finalState] using next

/-- Inputs that leave the state alone can be skipped. -/
theorem final_state_idle (start : State) (inputs : List Input)
    (idle : ∀ input ∈ inputs, (step start input).1 = start) :
    finalState step start inputs = start := by
  induction inputs with
  | nil => rfl
  | cons input inputs induction =>
      rw [finalState, idle input (by simp)]
      exact induction fun other member => idle other (by simp [member])

theorem outputs_idle (start : State) (inputs : List Input)
    (idle : ∀ input ∈ inputs, (step start input).1 = start) :
    outputs step start inputs = inputs.map fun input => (step start input).2 := by
  induction inputs with
  | nil => rfl
  | cons input inputs induction =>
      rw [outputs, idle input (by simp), List.map_cons]
      exact congrArg _ (induction fun other member => idle other (by simp [member]))

/-- Two machines in lockstep: related states answer related inputs with related
outputs and stay related. -/
theorem outputs_related {State' Input' Output' : Type*}
    (step' : State' → Input' → State' × Output') {related : State → State' → Prop}
    {matched : Input → Input' → Prop} {agree : Output → Output' → Prop}
    (lockstep : ∀ state state' input input', related state state' → matched input input' →
      related (step state input).1 (step' state' input').1 ∧
        agree (step state input).2 (step' state' input').2)
    {start : State} {start' : State'} (initially : related start start')
    {inputs : List Input} {inputs' : List Input'} (same : List.Forall₂ matched inputs inputs') :
    List.Forall₂ agree (outputs step start inputs) (outputs step' start' inputs') := by
  induction same generalizing start start' with
  | nil => exact .nil
  | cons head tail induction =>
      obtain ⟨next, output⟩ := lockstep _ _ _ _ initially head
      exact .cons output (induction next)

end LoraNode.Foundation.Transducer
