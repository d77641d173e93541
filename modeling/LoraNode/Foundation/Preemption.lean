import LoraNode.Foundation.Interference

/-!
# A task that a handler preempts

Between two accesses of the task the handler may run, from its start to its end,
when the machine requests it. The machine moves under both. What is proved of
task and handler apart holds of every interleaving of the two.
-/

namespace LoraNode.Foundation.Preemption

open LoraNode.Foundation.Program LoraNode.Foundation.Interference

variable {Call Inner : Type → Type} {State : Type*} {Result : Type}

section Reached

variable {setting : Setting Call State} {during : Guard Call State}

theorem disturbed_reaches (program : Program Call Result) {state later : State}
    (disturbed : Disturbed setting state later) :
    Reaches setting (program, state) (program, later) := by
  induction disturbed with
  | refl => exact .refl
  | tail _ moved induction => exact .tail induction (.other program _ _ moved)

/-- The end of a secured run is one that the run reaches. -/
theorem secured_reached {program : Program Call Result} {post : Result → State → Prop}
    {state : State} (secured : Secured setting during program post state) :
    Secured setting during program
      (fun result after => post result after ∧
        Reaches setting (program, state) (.done result, after)) state := by
  induction program generalizing state with
  | done result =>
      exact fun later disturbed => ⟨secured later disturbed, disturbed_reaches _ disturbed⟩
  | ask call next induction =>
      intro later disturbed
      obtain ⟨guarded, answered⟩ := secured later disturbed
      constructor
      · exact guarded
      · intro answer after step
        apply secured_mono (induction answer (answered answer after step))
        intro result last holds
        have before := disturbed_reaches (.ask call next) disturbed
        exact ⟨holds.1, .trans (.tail before (.own call next answer later after step)) holds.2⟩

end Reached

variable (task : Setting Call State) (machine : Setting Inner State)
  (handler : Program Inner Unit) (requested : State → Prop)

/-- What the task sees: the machine moves, and whole runs of the handler. -/
def preempted : Setting Call State where
  answers := task.answers
  interferes state next :=
    machine.interferes state next ∨
      requested state ∧ Reaches machine (handler, state) (.done (), next)

structure Configuration (Call Inner : Type → Type) (State : Type*) (Result : Type) where
  task : Program Call Result
  active : Option (Program Inner Unit)
  state : State

inductive Move : Configuration Call Inner State Result →
    Configuration Call Inner State Result → Prop where
  | task {Reply : Type} (call : Call Reply) (rest : Reply → Program Call Result) (answer : Reply)
      (state next : State) (answered : task.answers state call answer next) :
      Move ⟨.ask call rest, none, state⟩ ⟨rest answer, none, next⟩
  | enter (program : Program Call Result) (state : State) (asked : requested state) :
      Move ⟨program, none, state⟩ ⟨program, some handler, state⟩
  | handler {Reply : Type} (program : Program Call Result) (call : Inner Reply)
      (rest : Reply → Program Inner Unit) (answer : Reply) (state next : State)
      (answered : machine.answers state call answer next) :
      Move ⟨program, some (.ask call rest), state⟩ ⟨program, some (rest answer), next⟩
  | leave (program : Program Call Result) (state : State) :
      Move ⟨program, some (.done ()), state⟩ ⟨program, none, state⟩
  | machine (program : Program Call Result) (active : Option (Program Inner Unit))
      (state next : State) (moved : machine.interferes state next) :
      Move ⟨program, active, state⟩ ⟨program, active, next⟩

abbrev Moves : Configuration Call Inner State Result →
    Configuration Call Inner State Result → Prop :=
  Relation.ReflTransGen (Move task machine handler requested)

/-- The guard of whoever makes the next access, and the postcondition at the end. -/
def Configuration.Shown (during : Guard Call State) (guard : Guard Inner State)
    (post : Result → State → Prop) (configuration : Configuration Call Inner State Result) : Prop :=
  match configuration with
  | ⟨task, none, state⟩ => Interference.Shown during post (task, state)
  | ⟨_, some handler, state⟩ => Interference.Shown guard (fun _ _ => True) (handler, state)

variable {task machine handler requested} {during : Guard Call State} {guard : Guard Inner State}

/-- The task is secured against the handler, and the handler against the machine. -/
def Configuration.Secured (task : Setting Call State) (machine : Setting Inner State)
    (handler : Program Inner Unit) (requested : State → Prop) (during : Guard Call State)
    (guard : Guard Inner State) (post : Result → State → Prop)
    (configuration : Configuration Call Inner State Result) : Prop :=
  let resumes := Interference.Secured (preempted task machine handler requested) during
    configuration.task post
  configuration.active.elim (resumes configuration.state) fun active =>
    Interference.Secured machine guard active (fun _ after => resumes after) configuration.state

section Keeps

variable {invariant : State → Prop} {post : Result → State → Prop}
  (guarded : ∀ {Reply : Type} (call : Call Reply) state, during call state → invariant state)
  (ended : ∀ result state, post result state → invariant state)
  (handled : Triple machine guard (fun state => requested state ∧ invariant state) handler
    fun _ _ => True)

include guarded ended handled

/-- The handler is entered where the invariant holds. -/
theorem secured_enter {program : Program Call Result} {state : State} (asked : requested state)
    (secured : Interference.Secured (preempted task machine handler requested) during program post
      state) :
    Interference.Secured machine guard handler (fun _ after =>
      Interference.Secured (preempted task machine handler requested) during program post after)
      state := by
  have holds : invariant state := by
    have shown := secured_shown secured
    cases program with
    | done result => exact ended result state shown
    | ask call rest => exact guarded call state shown
  apply secured_mono (secured_reached (handled state ⟨asked, holds⟩))
  intro _ after reached
  exact secured_later secured (.single (.inr ⟨asked, reached.2⟩))

theorem secured_move {first second : Configuration Call Inner State Result}
    (secured : first.Secured task machine handler requested during guard post)
    (move : Move task machine handler requested first second) :
    second.Secured task machine handler requested during guard post := by
  cases move with
  | task call rest answer state next answered =>
      exact (secured state .refl).2 answer next answered
  | enter program state asked => exact secured_enter guarded ended handled asked secured
  | handler program call rest answer state next answered =>
      exact (secured state .refl).2 answer next answered
  | leave program state => exact secured state .refl
  | machine program active state next moved =>
      cases active with
      | none => exact secured_later secured (.single (.inl moved))
      | some running => exact secured_later secured (.single moved)

/-- Along every interleaving of task, handler and machine the guards hold. -/
theorem preempted_always {program : Program Call Result} {state : State}
    {reached : Configuration Call Inner State Result}
    (secured : Interference.Secured (preempted task machine handler requested) during program post
      state)
    (moves : Moves task machine handler requested ⟨program, none, state⟩ reached) :
    reached.Shown during guard post := by
  have still : reached.Secured task machine handler requested during guard post := by
    induction moves with
    | refl => exact secured
    | tail _ move induction => exact secured_move guarded ended handled induction move
  obtain ⟨program, active, state⟩ := reached
  cases active with
  | none => exact secured_shown still
  | some running =>
      have running : Interference.Secured machine guard running (fun _ _ => True) state :=
        secured_mono still fun _ _ _ => trivial
      exact secured_shown running

end Keeps

/-- A run of the handler as a whole is one of its moves. -/
theorem handler_moves {program : Program Call Result} {running active : Program Inner Unit}
    {state later : State} (reaches : Reaches machine (running, state) (active, later)) :
    Moves task machine handler requested ⟨program, some running, state⟩
      ⟨program, some active, later⟩ := by
  refine Relation.ReflTransGen.lift (fun reached : Program Inner Unit × State =>
    (⟨program, some reached.1, reached.2⟩ : Configuration Call Inner State Result)) ?_ _ _ reaches
  rintro _ _ step
  cases step with
  | own call rest answer state next answered =>
      exact .handler program call rest answer state next answered
  | other running state next moved => exact .machine program (some running) state next moved

/-- What the task reaches against the handler is an interleaving with it. -/
theorem reaches_moves {program later : Program Call Result} {state last : State}
    (reaches : Reaches (preempted task machine handler requested) (program, state) (later, last)) :
    Moves task machine handler requested ⟨program, none, state⟩ ⟨later, none, last⟩ := by
  refine Relation.ReflTransGen.lift' (fun reached : Program Call Result × State =>
    (⟨reached.1, none, reached.2⟩ : Configuration Call Inner State Result)) ?_ _ _ reaches
  rintro _ _ step
  cases step with
  | own call rest answer state next answered =>
      exact .single (.task call rest answer state next answered)
  | other program state next moved =>
      rcases moved with moved | ⟨asked, ran⟩
      · exact .single (.machine program none state next moved)
      · have entered : Moves task machine handler requested ⟨program, none, state⟩
            ⟨program, some (.done ()), next⟩ :=
          .head (.enter program state asked) (handler_moves ran)
        exact entered.tail (.leave program next)

/-- Weaker guards and a weaker postcondition are shown as well. -/
theorem shown_mono {also : Guard Call State} {first second : Result → State → Prop}
    {reached : Configuration Call Inner State Result} (shown : reached.Shown during guard first)
    (weaker : ∀ {Reply : Type} (call : Call Reply) state, during call state → also call state)
    (ends : ∀ result state, first result state → second result state) :
    reached.Shown also guard second := by
  obtain ⟨program, active, state⟩ := reached
  cases active with
  | some running => exact shown
  | none =>
      cases program with
      | done result => exact ends result state shown
      | ask call next => exact weaker call state shown

/-- The handler keeps what the machine cannot break. -/
theorem stable_preempted {assertion : State → Prop} (stable : Stable machine assertion)
    (handled : Triple machine guard (fun state => requested state ∧ assertion state) handler
      fun _ => assertion) :
    Stable (preempted task machine handler requested) assertion := by
  intro state next holds moved
  rcases moved with moved | ⟨asked, reaches⟩
  · exact stable state next holds moved
  · exact secured_done (secured_reaches (handled state ⟨asked, holds⟩) reaches)

section Calm

variable {own : Guard Inner State} {program : Program Inner Result}
  {post : Result → State → Prop}

/-- While nothing is requested only the machine moves. -/
theorem calm_disturbed {state later : State}
    (calm : ∀ after, Disturbed machine state after → ¬requested after)
    (disturbed : Disturbed (preempted machine machine handler requested) state later) :
    Disturbed machine state later := by
  induction disturbed with
  | refl => exact .refl
  | tail _ moved induction =>
      rcases moved with moved | ⟨asked, _⟩
      · exact induction.tail moved
      · exact absurd asked (calm _ induction)

/-- A program during which the handler is never requested. -/
theorem secured_calm {state : State}
    (secured : Interference.Secured machine (fun call after => own call after ∧ ¬requested after)
      program (fun result after => post result after ∧ ¬requested after) state) :
    Interference.Secured (preempted machine machine handler requested) own program post state := by
  induction program generalizing state with
  | done result =>
      intro later disturbed
      have calm : ∀ after, Disturbed machine state after → ¬requested after :=
        fun after reached => (secured after reached).2
      exact (secured later (calm_disturbed calm disturbed)).1
  | ask call next induction =>
      intro later disturbed
      have calm : ∀ after, Disturbed machine state after → ¬requested after :=
        fun after reached => (secured after reached).1.2
      obtain ⟨guarded, answered⟩ := secured later (calm_disturbed calm disturbed)
      exact ⟨guarded.1, fun answer after step => induction answer (answered answer after step)⟩

theorem triple_calm {pre : State → Prop}
    (triple : Triple machine (fun call after => own call after ∧ ¬requested after) pre program
      fun result after => post result after ∧ ¬requested after) :
    Triple (preempted machine machine handler requested) own pre program post :=
  fun state holds => secured_calm (triple state holds)

end Calm

end LoraNode.Foundation.Preemption
