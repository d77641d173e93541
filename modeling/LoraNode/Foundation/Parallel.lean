import Mathlib.Logic.Function.Basic
import LoraNode.Foundation.Interference

/-!
# Threads that share a world

Each thread runs its body again and again, on what the last run returned. Between
two accesses of a thread all others may move, and so may the world itself. What a
thread relies on the others promise, so that every thread can be verified alone.
-/

namespace LoraNode.Foundation.Parallel

open LoraNode.Foundation.Program LoraNode.Foundation.Interference

variable {Thread State : Type*} {Call : Type → Type} {Local : Type}

structure System (Thread State : Type*) (Call : Type → Type) (Local : Type) where
  answers : {Reply : Type} → Thread → State → Call Reply → Reply → State → Prop
  moves : State → State → Prop
  body : Thread → Local → Program Call Local

structure Configuration (Thread State : Type*) (Call : Type → Type) (Local : Type) where
  programs : Thread → Program Call Local
  state : State

variable [DecidableEq Thread] (system : System Thread State Call Local)

inductive Step : Configuration Thread State Call Local →
    Configuration Thread State Call Local → Prop where
  | act {Reply : Type} (thread : Thread) (call : Call Reply) (rest : Reply → Program Call Local)
      (answer : Reply) (programs : Thread → Program Call Local) (state next : State)
      (running : programs thread = .ask call rest)
      (answered : system.answers thread state call answer next) :
      Step ⟨programs, state⟩ ⟨Function.update programs thread (rest answer), next⟩
  | again (thread : Thread) (value : Local) (programs : Thread → Program Call Local)
      (state : State) (ended : programs thread = .done value) :
      Step ⟨programs, state⟩
        ⟨Function.update programs thread (system.body thread value), state⟩
  | world (programs : Thread → Program Call Local) (state next : State)
      (moved : system.moves state next) : Step ⟨programs, state⟩ ⟨programs, next⟩

abbrev Reaches : Configuration Thread State Call Local →
    Configuration Thread State Call Local → Prop :=
  Relation.ReflTransGen (Step system)

/-- What holds of the world at every moment, what a thread relies on while it does
not move, what it promises at its accesses, and what is known where its body starts. -/
structure Contract (Thread State : Type*) (Call : Type → Type) (Local : Type) where
  invariant : State → Prop
  relies : Thread → State → State → Prop
  promises : Thread → Guard Call State
  holds : Thread → Local → State → Prop

variable (contract : Contract Thread State Call Local)

def System.alone (thread : Thread) : Setting Call State where
  answers state call answer next :=
    contract.invariant state ∧ system.answers thread state call answer next
  interferes := contract.relies thread

/-- A thread may use the invariant to keep its promise. -/
def Contract.guard (thread : Thread) : Guard Call State :=
  fun call state => contract.invariant state → contract.promises thread call state

/-- The threads verified one by one, and that their promises are what others rely on. -/
structure Contract.Kept : Prop where
  own : ∀ {Reply : Type} (thread : Thread) (call : Call Reply) (answer : Reply)
    (state next : State), contract.invariant state → contract.promises thread call state →
      system.answers thread state call answer next →
        contract.invariant next ∧ ∀ other, other ≠ thread → contract.relies other state next
  world : ∀ state next, contract.invariant state → system.moves state next →
    contract.invariant next ∧ ∀ thread, contract.relies thread state next
  body : ∀ thread value, Triple (system.alone contract thread) (contract.guard thread)
    (contract.holds thread value) (system.body thread value) (contract.holds thread)

structure Contract.Stands (configuration : Configuration Thread State Call Local) : Prop where
  invariant : contract.invariant configuration.state
  secured : ∀ thread, Secured (system.alone contract thread) (contract.guard thread)
    (configuration.programs thread) (contract.holds thread) configuration.state

variable {system contract}

theorem stands_step (kept : contract.Kept system)
    {first second : Configuration Thread State Call Local}
    (stands : contract.Stands system first) (step : Step system first second) :
    contract.Stands system second := by
  cases step with
  | act thread call rest answer programs state next running answered =>
      have own := stands.secured thread
      simp only [running] at own
      obtain ⟨guarded, resumes⟩ := own state .refl
      have promised := guarded stands.invariant
      obtain ⟨invariant, relied⟩ :=
        kept.own thread call answer state next stands.invariant promised answered
      constructor
      · exact invariant
      · intro other
        rcases eq_or_ne other thread with same | apart
        · subst same
          simp only [Function.update_self]
          exact resumes answer next ⟨stands.invariant, answered⟩
        · simp only [Function.update_of_ne apart]
          exact secured_later (stands.secured other) (.single (relied other apart))
  | again thread value programs state ended =>
      constructor
      · exact stands.invariant
      · intro other
        rcases eq_or_ne other thread with same | apart
        · subst same
          have own := stands.secured other
          simp only [ended] at own
          simp only [Function.update_self]
          exact kept.body other value state (secured_done own)
        · simp only [Function.update_of_ne apart]
          exact stands.secured other
  | world programs state next moved =>
      obtain ⟨invariant, relied⟩ := kept.world state next stands.invariant moved
      constructor
      · exact invariant
      · intro thread
        exact secured_later (stands.secured thread) (.single (relied thread))

theorem stands_reaches (kept : contract.Kept system)
    {start reached : Configuration Thread State Call Local}
    (stands : contract.Stands system start) (reaches : Reaches system start reached) :
    contract.Stands system reached := by
  induction reaches with
  | refl => exact stands
  | tail _ step induction => exact stands_step kept induction step

/-- A thread may run to the end of its program without a break. -/
theorem reaches_served {State : Type} {system : System Thread State Call Local} {thread : Thread}
    {serve : {Reply : Type} → State → Call Reply → Reply × State}
    (served : ∀ {Reply : Type} state (call : Call Reply),
      system.answers thread state call (serve state call).1 (serve state call).2)
    {program : Program Call Local} (programs : Thread → Program Call Local) (state : State)
    (running : programs thread = program) :
    Reaches system ⟨programs, state⟩
      ⟨Function.update programs thread (.done (program.simulate serve state).1),
        (program.simulate serve state).2⟩ := by
  induction program generalizing programs state with
  | done result =>
      have same : Function.update programs thread (.done result) = programs := by
        rw [← running, Function.update_eq_self]
      rw [simulate, same]
  | ask call rest induction =>
      have step := Step.act thread call rest (serve state call).1 programs state
        (serve state call).2 running (served state call)
      have later := induction (serve state call).1
        (Function.update programs thread (rest (serve state call).1)) (serve state call).2
        (Function.update_self ..)
      rw [Function.update_idem] at later
      exact .head step later

end LoraNode.Foundation.Parallel
