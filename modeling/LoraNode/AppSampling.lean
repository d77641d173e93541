import LoraNode.AppCalls
import LoraNode.NodeStateSteps

/-!
# When the application samples

`DHT11_Read` asks its caller to keep a distance between two reads. The application
has no timer for it: only an idle node samples, and the only event that an idle node
is handed comes from a sleep that succeeded. So the trace of a run falls into rounds,
each opened by such a sleep and with one read at most.
-/

namespace LoraNode.AppSampling

open LoraNode.Foundation LoraNode.Foundation.Bytes LoraNode.Foundation.Program
  LoraNode.NodePacket LoraNode.NodeResponse LoraNode.NodeState LoraNode.LoraApp

abbrev Trace := List (Entry Call)

def Untouched {Reply : Type} : Call Reply → Prop
  | .dht11Init => False
  | .dht11Read => False
  | _ => True

def Silent (trace : Trace) : Prop := ∀ entry ∈ trace, Untouched entry.call

/-- The sensor is read once at most, and only if it is ready. -/
inductive Sampled (ready : Bool) : Trace → Prop where
  | never (trace : Trace) (silent : Silent trace) : Sampled ready trace
  | once (present : ready = true) (before after : Trace) (measured : Bool) (early : Silent before)
      (late : Silent after) : Sampled ready (before ++ ⟨.dht11Read, measured⟩ :: after)

def Round (intervalMs : BitVec 32) (ready : Bool) (trace : Trace) : Prop :=
  ∃ rest, trace = ⟨.sleep intervalMs, true⟩ :: rest ∧ Sampled ready rest

def Spaced (intervalMs : BitVec 32) (ready : Bool) (trace : Trace) : Prop :=
  ∃ (start : Trace) (rounds : List Trace), trace = start ++ rounds.flatten ∧ Silent start ∧
    ∀ round ∈ rounds, Round intervalMs ready round

/-- A sensor that is ready has been initialized, and none more than once. -/
inductive Started : Bool → Trace → Prop where
  | never (trace : Trace) (silent : Silent trace) : Started false trace
  | once (ready : Bool) (before after : Trace) (answer : Bool) (early : Silent before)
      (late : Silent after) : Started ready (before ++ ⟨.dht11Init, answer⟩ :: after)

section Traces

variable {intervalMs : BitVec 32} {ready : Bool} {first second : Trace}

theorem silent_append (early : Silent first) (late : Silent second) : Silent (first ++ second) := by
  intro entry member
  rcases List.mem_append.mp member with before | after
  · exact early entry before
  · exact late entry after

theorem sampled_after (silent : Silent first) (sampled : Sampled ready second) :
    Sampled ready (first ++ second) := by
  cases sampled with
  | never _ late => exact .never _ (silent_append silent late)
  | once present before after measured early late =>
      rw [← List.append_assoc]
      exact .once present _ _ measured (silent_append silent early) late

theorem sampled_before (sampled : Sampled ready first) (silent : Silent second) :
    Sampled ready (first ++ second) := by
  cases sampled with
  | never _ early => exact .never _ (silent_append early silent)
  | once present before after measured early late =>
      rw [List.append_assoc]
      exact .once present _ _ measured early (silent_append late silent)

theorem started_after (silent : Silent first) (started : Started ready second) :
    Started ready (first ++ second) := by
  cases started with
  | never _ late => exact .never _ (silent_append silent late)
  | once _ before after answer early late =>
      rw [← List.append_assoc]
      exact .once ready _ _ answer (silent_append silent early) late

theorem spaced_silent (silent : Silent first) : Spaced intervalMs ready first :=
  ⟨first, [], (List.append_nil first).symm, silent, List.forall_mem_nil _⟩

theorem spaced_round (silent : Silent first) (round : Round intervalMs ready second) :
    Spaced intervalMs ready (first ++ second) := by
  refine ⟨first, [second], ?_, silent, List.forall_mem_singleton.mpr round⟩
  rw [List.flatten_singleton]

theorem round_before (round : Round intervalMs ready first) (silent : Silent second) :
    Round intervalMs ready (first ++ second) := by
  obtain ⟨rest, same, sampled⟩ := round
  refine ⟨rest ++ second, ?_, sampled_before sampled silent⟩
  rw [same, List.cons_append]

/-- What follows silently belongs to the last round. -/
theorem spaced_before (spaced : Spaced intervalMs ready first) (silent : Silent second) :
    Spaced intervalMs ready (first ++ second) := by
  obtain ⟨start, rounds, same, early, each⟩ := spaced
  rcases List.eq_nil_or_concat rounds with none | ⟨rounds, last, some⟩
  · subst none same
    rw [List.flatten_nil, List.append_nil]
    exact spaced_silent (silent_append early silent)
  · subst some same
    refine ⟨start, rounds ++ [last ++ second], ?_, early, ?_⟩
    · simp only [List.concat_eq_append, List.flatten_append, List.flatten_singleton,
        List.append_assoc]
    · intro round member
      rw [List.concat_eq_append] at each
      rcases List.mem_append.mp member with before | here
      · exact each round (List.mem_append_left _ before)
      · rw [List.mem_singleton.mp here]
        exact round_before (each last (by simp)) silent

theorem spaced_append (before : Spaced intervalMs ready first)
    (after : Spaced intervalMs ready second) : Spaced intervalMs ready (first ++ second) := by
  obtain ⟨start, rounds, same, silent, each⟩ := after
  obtain ⟨whole, earlier, joined, early, all⟩ := spaced_before before silent
  refine ⟨whole, earlier ++ rounds, ?_, early, ?_⟩
  · rw [same, ← List.append_assoc, joined, List.flatten_append, List.append_assoc]
  · intro round member
    rcases List.mem_append.mp member with old | new
    · exact all round old
    · exact each round new

end Traces

section Programs

variable {First Second Result : Type} {program : App First} {next : First → App Second}
  {intervalMs : BitVec 32} {ready : Bool}

theorem untouched_plain {program : App Result} (plain : program.Only Plain) :
    program.Only Untouched := by
  apply only_mono _ plain
  intro Reply call plain
  cases call with
  | dht11Init => exact plain
  | dht11Read => exact plain
  | _ => trivial

theorem invoke_calls {Reply : Type} (call : Call Reply) :
    (invoke call).Ensures fun trace answer => trace = [⟨call, answer⟩] := fun _ => rfl

theorem ensures_never {program : App Result} (only : program.Only Untouched) :
    program.Ensures fun trace _ => Sampled ready trace :=
  ensures_mono (ensures_only only) fun trace _ => Sampled.never trace

theorem sampled_then (first : program.Ensures fun trace _ => Sampled ready trace)
    (rest : ∀ value, (next value).Only Untouched) :
    (program >>= next).Ensures fun trace _ => Sampled ready trace := by
  rw [ensures_bind]
  apply ensures_mono first
  intro before value sampled
  apply ensures_mono (ensures_only (rest value))
  exact fun after _ silent => sampled_before sampled silent

theorem then_sampled (first : program.Only Untouched)
    (rest : ∀ value, (next value).Ensures fun trace _ => Sampled ready trace) :
    (program >>= next).Ensures fun trace _ => Sampled ready trace := by
  rw [ensures_bind]
  apply ensures_mono (ensures_only first)
  intro before value silent
  apply ensures_mono (rest value)
  exact fun after _ sampled => sampled_after silent sampled

theorem then_started {fact : Second → Bool} (first : program.Only Untouched)
    (rest : ∀ value, (next value).Ensures fun trace result => Started (fact result) trace) :
    (program >>= next).Ensures fun trace result => Started (fact result) trace := by
  rw [ensures_bind]
  apply ensures_mono (ensures_only first)
  intro before value silent
  apply ensures_mono (rest value)
  exact fun after _ started => started_after silent started

/-- The one read, and nothing more of the sensor. -/
theorem invoke_sampled {next : Bool → App Second} (present : ready = true)
    (rest : ∀ measured, (next measured).Only Untouched) :
    (invoke .dht11Read >>= next).Ensures fun trace _ => Sampled ready trace := by
  intro measured
  apply ensures_mono (ensures_only (rest measured))
  exact fun after _ late => .once present [] after measured (List.forall_mem_nil _) late

theorem invoke_started {fact : Second → Bool} {next : Bool → App Second}
    (rest : ∀ answer, (next answer).Only Untouched) :
    (invoke .dht11Init >>= next).Ensures fun trace result => Started (fact result) trace := by
  intro answer
  apply ensures_mono (ensures_only (rest answer))
  exact fun after result late => .once (fact result) [] after answer (List.forall_mem_nil _) late

theorem ensures_spaced {program : App Result} (only : program.Only Untouched) :
    program.Ensures fun trace _ => Spaced intervalMs ready trace :=
  ensures_mono (ensures_only only) fun _ _ => spaced_silent

theorem invoke_untouched {Reply : Type} {call : Call Reply} (untouched : Untouched call) :
    (invoke call).Only Untouched := only_perform untouched

end Programs

section Events

variable (config : AppConfig) (context : Context) (event : Event)

/-- Only an idle node asks for a sample. -/
theorem busy_unsampled (busy : context.state ≠ .waitInterval) :
    (handleEvent config context event .zero).action.type ≠ .readSensor := by
  by_cases legal : Legal context.state
  · have transition := handle_event_transition config context event .zero legal
    generalize (handleEvent config context event .zero).action = action at transition
    generalize (handleEvent config context event .zero).context = next at transition
    cases transition with
    | quiet _ nothing => simp [nothing]
    | sampled state => exact absurd state busy
    | transmitted _ _ _ nothing => simp [nothing]
    | finished _ type terminal _ emitted =>
        rw [emitted]
        exact (ActionType.terminal_acts terminal).2
  · cases state : context.state with
    | other _ _ => simp [handleEvent, state, Action.zero]
    | _ => exact absurd (by simp [Legal, state]) legal

/-- A node that waits for its ACK goes on waiting if there is nothing to do. -/
theorem waiting_kept (waiting : context.state = .waitAck)
    (nothing : (handleEvent config context event .zero).action.type = .none) :
    (handleEvent config context event .zero).context.state = .waitAck := by
  have transition := handle_event_transition config context event .zero (.inr (.inr waiting))
  generalize (handleEvent config context event .zero).action = action at transition nothing
  generalize (handleEvent config context event .zero).context = next at transition
  cases transition with
  | quiet => exact waiting
  | sampled state => simp [waiting] at state
  | transmitted state => simp [waiting] at state
  | finished _ type terminal _ emitted =>
      exact absurd (emitted.symm.trans nothing) (ActionType.terminal_acts terminal).1

end Events

section Application

variable {config : AppConfig} {state : AppState}

theorem handle_then {Result : Type} {event : Event} {next : HandleResult × AppState → App Result}
    (rest : let result := handleEvent config state.nodeContext event .zero
      (next (result, { state with nodeContext := result.context })).Only Untouched) :
    (handle config state event >>= next).Only Untouched :=
  ⟨trivial, fun _ => rest⟩

theorem notifyTxResult_untouched (succeeded : Bool) (tickMs : BitVec 32) :
    (notifyTxResult config state succeeded tickMs).Only Untouched := by
  apply handle_then
  apply only_ite
  · exact only_bind (invoke_untouched (by trivial)) fun _ => only_pure _
  · apply only_bind (untouched_plain (logTerminalAction_plain _))
    exact fun _ => only_ite (untouched_plain (restartInterval_plain _)) (only_pure _)

theorem handle_sampled {Result : Type} {ready : Bool} {event : Event}
    {next : HandleResult × AppState → App Result}
    (rest : let result := handleEvent config state.nodeContext event .zero
      (next (result, { state with nodeContext := result.context })).Ensures
        fun trace _ => Sampled ready trace) :
    (handle config state event >>= next).Ensures fun trace _ => Sampled ready trace := by
  intro answer
  apply ensures_mono rest
  intro after _ sampled
  have silent : Silent [⟨.handled event
      (handleEvent config state.nodeContext event .zero), answer⟩] := by
    simp [Silent, Untouched]
  exact sampled_after silent sampled

theorem readSensor_sampled :
    (readSensor state).Ensures fun trace _ => Sampled state.dht11Ready trace := by
  rw [readSensor, ensures_ite]
  constructor
  · intro absent
    exact ensures_never (only_pure _)
  · intro present
    apply invoke_sampled (by simpa using present)
    intro measured
    apply only_ite (only_pure _)
    apply only_bind (invoke_untouched (by trivial))
    intro temperature
    cases temperature with
    | none => exact only_pure _
    | some temperature =>
        apply only_bind (invoke_untouched (by trivial))
        intro humidity
        cases humidity with
        | none => exact only_pure _
        | some humidity => exact only_ite (only_pure _) (only_pure _)

theorem buildAndTransmit_sampled (action : Action) :
    (buildAndTransmit config state action).Ensures
      fun trace _ => Sampled state.dht11Ready trace := by
  apply sampled_then readSensor_sampled
  intro sensor
  apply only_ite
  · apply only_bind (invoke_untouched (by trivial))
    intro _
    apply only_bind (invoke_untouched (by trivial))
    exact fun tick => notifyTxResult_untouched false tick
  · apply only_bind (invoke_untouched (by trivial))
    intro _
    apply only_bind (invoke_untouched (by trivial))
    intro sent
    apply only_bind (invoke_untouched (by trivial))
    intro tick
    apply only_bind (notifyTxResult_untouched _ tick)
    intro next
    exact only_ite (untouched_plain (listenForAck_plain next)) (only_pure next)

theorem handleAction_untouched {action : Action} (other : action.type ≠ .readSensor) :
    (handleAction config state action).Only Untouched := by
  rw [handleAction, if_neg other]
  apply only_bind (untouched_plain (logTerminalAction_plain action))
  exact fun _ => only_ite (untouched_plain (restartInterval_plain state)) (only_pure state)

theorem handleAction_sampled (action : Action) :
    (handleAction config state action).Ensures fun trace _ => Sampled state.dht11Ready trace := by
  by_cases sample : action.type = .readSensor
  · rw [handleAction, if_pos sample]
    exact buildAndTransmit_sampled action
  · exact ensures_never (handleAction_untouched sample)

theorem idleTick_untouched (busy : state.nodeContext.state ≠ .waitInterval) :
    (idleTick config state).Only Untouched := by
  apply only_bind (invoke_untouched (by trivial))
  intro tick
  apply handle_then
  apply only_ite
  · apply only_bind (handleAction_untouched (busy_unsampled config _ _ busy))
    intro next
    exact only_ite (only_bind (invoke_untouched (by trivial)) fun _ => only_pure _) (only_pure _)
  · exact only_pure _

theorem pollReceiver_untouched (waiting : state.nodeContext.state = .waitAck) :
    (pollReceiver config state).Only Untouched := by
  have busy : state.nodeContext.state ≠ .waitInterval := by simp [waiting]
  apply only_bind (invoke_untouched (by trivial))
  intro bytesReceived
  apply only_ite (idleTick_untouched busy)
  apply only_bind (invoke_untouched (by trivial))
  intro tick
  apply only_bind (invoke_untouched (by trivial))
  intro received
  apply handle_then
  apply only_ite
  · exact only_bind (invoke_untouched (by trivial)) fun _ => only_pure _
  · apply only_bind (untouched_plain (logReceived_plain received _))
    exact fun _ => handleAction_untouched (busy_unsampled config _ _ busy)

theorem waitAckTask_untouched (waiting : state.nodeContext.state = .waitAck) :
    (waitAckTask config state).Only Untouched := by
  have busy : state.nodeContext.state ≠ .waitInterval := by simp [waiting]
  apply only_bind (invoke_untouched (by trivial))
  intro tick
  apply handle_then
  intro result
  dsimp only
  by_cases acts : result.handled = true ∧ result.action.type ≠ .none
  · rw [if_pos acts]
    exact handleAction_untouched (busy_unsampled config _ _ busy)
  · rw [if_neg acts]
    have handled : result.handled = true :=
      handle_event_handled config _ _ _ (.inr (.inr waiting))
    have nothing : result.action.type = .none := by
      by_contra something
      exact acts ⟨handled, something⟩
    have still : result.context.state = .waitAck := waiting_kept config _ _ waiting nothing
    apply only_ite
    · -- The receiver is started without a look at the state.
      apply only_bind (invoke_untouched (by trivial))
      intro received
      apply only_ite
      · apply only_bind (invoke_untouched (by trivial))
        exact fun _ => idleTick_untouched (by simp [still])
      · exact pollReceiver_untouched still
    · exact pollReceiver_untouched still

theorem sleepInterval_spaced :
    (sleepInterval config state).Ensures
      fun trace _ => Spaced config.sleepIntervalMs state.dht11Ready trace := by
  unfold sleepInterval
  rw [ensures_bind]
  apply ensures_mono (ensures_only (invoke_untouched (by trivial)))
  intro start _ silent
  rw [ensures_bind]
  apply ensures_mono (invoke_calls _)
  rintro _ slept rfl
  rw [ensures_ite]
  constructor
  · intro failed
    apply ensures_mono (ensures_only
      (only_bind (invoke_untouched (by trivial)) fun _ => only_pure _))
    intro rest _ late
    have sleeps : Silent [⟨.sleep config.sleepIntervalMs, slept⟩] := by simp [Silent, Untouched]
    exact spaced_silent (silent_append silent (silent_append sleeps late))
  · intro woken
    have awake : slept = true := by simpa using woken
    subst awake
    have round {next : App AppState}
        (sampled : next.Ensures fun trace _ => Sampled state.dht11Ready trace) :
        next.Ensures fun trace _ => Spaced config.sleepIntervalMs state.dht11Ready
          (start ++ ([⟨.sleep config.sleepIntervalMs, true⟩] ++ trace)) :=
      ensures_mono sampled fun rest _ sampled => spaced_round silent ⟨rest, rfl, sampled⟩
    apply round
    apply then_sampled (invoke_untouched (by trivial))
    intro _
    apply then_sampled (invoke_untouched (by trivial))
    intro tick
    apply handle_sampled
    rw [ensures_ite]
    exact ⟨fun _ => handleAction_sampled _, fun _ => ensures_never (only_pure _)⟩

/-- One call of `LORA_APP_Tasks`. -/
theorem tasks_spaced (config : AppConfig) (state : AppState) :
    (tasks config state).Ensures
      fun trace _ => Spaced config.sleepIntervalMs state.dht11Ready trace := by
  unfold tasks
  split_ifs with halted idle other
  · exact ensures_spaced (untouched_plain (haltedTask_plain state))
  · exact sleepInterval_spaced
  · exact ensures_spaced (idleTick_untouched idle)
  · exact ensures_spaced (waitAckTask_untouched (not_not.mp other))

/-- The start reaches the sensor once at most, to drive its line. -/
theorem initializeApp_started (config : AppConfig) (state : AppState) :
    (initializeApp config state).Ensures
      fun trace result => Started result.2.dht11Ready trace := by
  have fails (text : String) (state : AppState) (absent : state.dht11Ready = false) :
      (invoke (.log text) >>= fun _ => pure (false, state)).Ensures
        fun trace result => Started result.2.dht11Ready trace := by
    intro answer
    change Started state.dht11Ready [⟨.log text, answer⟩]
    rw [absent]
    exact .never _ (by simp [Silent, Untouched])
  apply then_started (invoke_untouched (by trivial))
  intro timeReady
  rw [ensures_ite]
  constructor
  · intro failed
    exact fails _ _ rfl
  intro timed
  apply then_started (invoke_untouched (by trivial))
  intro powerReady
  rw [ensures_ite]
  constructor
  · intro failed
    exact fails _ _ rfl
  intro powered
  apply then_started (invoke_untouched (by trivial))
  intro _
  apply invoke_started
  intro dht11Ready
  apply only_ite
  · apply only_bind (invoke_untouched (by trivial))
    exact fun _ => untouched_plain (initializeNode_plain config _)
  · exact untouched_plain (initializeNode_plain config _)

end Application

section Ready

def Leaves (ready : Bool) (program : App AppState) : Prop :=
  program.Ensures fun _ next => next.dht11Ready = ready

variable {config : AppConfig} {ready : Bool} {First : Type} {program : App First}
  {next : First → App AppState}

theorem leaves_pure {state : AppState} (same : state.dht11Ready = ready) :
    Leaves ready (pure state) := same

theorem leaves_after (rest : ∀ value, Leaves ready (next value)) :
    Leaves ready (program >>= next) :=
  ensures_after (fun _ _ _ same => same) rest

theorem leaves_seq {program : App AppState} {next : AppState → App AppState}
    (first : Leaves ready program)
    (rest : ∀ state, state.dht11Ready = ready → Leaves ready (next state)) :
    Leaves ready (program >>= next) :=
  ensures_seq (fun _ _ _ same => same) first rest

theorem leaves_ite {condition : Prop} [Decidable condition] {first second : App AppState}
    (left : Leaves ready first) (right : Leaves ready second) :
    Leaves ready (if condition then first else second) := by
  split_ifs
  · exact left
  · exact right

theorem handle_leaves {state : AppState} {event : Event}
    {next : HandleResult × AppState → App AppState}
    (rest : ∀ result context, Leaves ready (next (result, { state with nodeContext := context }))) :
    Leaves ready (handle config state event >>= next) :=
  fun _ => rest _ _

theorem startReceiver_leaves {state : AppState} {next : Bool × AppState → App AppState}
    (rest : ∀ started, Leaves ready (next (started, { state with receiverStarted := started }))) :
    Leaves ready (startReceiver state >>= next) :=
  fun _ => rest _

variable (state : AppState)

theorem restartInterval_leaves : Leaves state.dht11Ready (restartInterval state) :=
  leaves_after fun _ => leaves_pure rfl

theorem notifyTxResult_leaves (succeeded : Bool) (tickMs : BitVec 32) :
    Leaves state.dht11Ready (notifyTxResult config state succeeded tickMs) := by
  apply handle_leaves
  intro result context
  apply leaves_ite
  · exact leaves_after fun _ => leaves_pure rfl
  · apply leaves_after
    exact fun _ => leaves_ite (restartInterval_leaves _) (leaves_pure rfl)

theorem listenForAck_leaves : Leaves state.dht11Ready (listenForAck state) := by
  apply startReceiver_leaves
  intro started
  apply leaves_ite
  · exact leaves_after fun _ => leaves_pure rfl
  · exact leaves_after fun _ => leaves_pure rfl

theorem buildAndTransmit_leaves (action : Action) :
    Leaves state.dht11Ready (buildAndTransmit config state action) := by
  apply leaves_after
  intro sensor
  apply leaves_ite
  · apply leaves_after
    intro _
    apply leaves_after
    exact fun tick => notifyTxResult_leaves state false tick
  · apply leaves_after
    intro _
    apply leaves_after
    intro sent
    apply leaves_after
    intro tick
    apply leaves_seq (notifyTxResult_leaves _ _ tick)
    intro next kept
    rw [← kept]
    exact leaves_ite (listenForAck_leaves next) (leaves_pure rfl)

theorem handleAction_leaves (action : Action) :
    Leaves state.dht11Ready (handleAction config state action) := by
  apply leaves_ite (buildAndTransmit_leaves state action)
  apply leaves_after
  exact fun _ => leaves_ite (restartInterval_leaves state) (leaves_pure rfl)

theorem idleTick_leaves : Leaves state.dht11Ready (idleTick config state) := by
  apply leaves_after
  intro tick
  apply handle_leaves
  intro result context
  apply leaves_ite
  · apply leaves_seq (handleAction_leaves _ _)
    intro next kept
    exact leaves_ite (leaves_after fun _ => leaves_pure kept) (leaves_pure kept)
  · exact leaves_pure rfl

theorem sleepInterval_leaves : Leaves state.dht11Ready (sleepInterval config state) := by
  apply leaves_after
  intro _
  apply leaves_after
  intro slept
  apply leaves_ite
  · exact leaves_after fun _ => leaves_pure rfl
  · apply leaves_after
    intro _
    apply leaves_after
    intro tick
    apply handle_leaves
    intro result context
    exact leaves_ite (handleAction_leaves _ _) (leaves_pure rfl)

theorem pollReceiver_leaves : Leaves state.dht11Ready (pollReceiver config state) := by
  apply leaves_after
  intro bytesReceived
  apply leaves_ite (idleTick_leaves state)
  apply leaves_after
  intro tick
  apply leaves_after
  intro received
  apply handle_leaves
  intro result context
  apply leaves_ite
  · exact leaves_after fun _ => leaves_pure rfl
  · apply leaves_after
    exact fun _ => handleAction_leaves _ _

theorem waitAckTask_leaves : Leaves state.dht11Ready (waitAckTask config state) := by
  apply leaves_after
  intro tick
  apply handle_leaves
  intro result context
  apply leaves_ite (handleAction_leaves _ _)
  apply leaves_ite
  · apply startReceiver_leaves
    intro started
    apply leaves_ite
    · apply leaves_after
      exact fun _ => idleTick_leaves _
    · exact pollReceiver_leaves _
  · exact pollReceiver_leaves _

theorem haltedTask_leaves : Leaves state.dht11Ready (haltedTask state) := fun _ _ _ _ => rfl

theorem tasks_leaves : Leaves state.dht11Ready (tasks config state) := by
  apply leaves_ite (haltedTask_leaves state)
  apply leaves_ite (sleepInterval_leaves state)
  exact leaves_ite (idleTick_leaves state) (waitAckTask_leaves state)

end Ready

end LoraNode.AppSampling
