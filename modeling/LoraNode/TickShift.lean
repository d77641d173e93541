import LoraNode.NodeStateSteps

/-!
# The state machine has no absolute time

A run whose ticks are all moved by one constant goes through the same contexts
but for the two start ticks, and emits the same actions. The ACK start is moved
only while it is in use: it rests at zero, whatever the constant.
-/

namespace LoraNode.TickShift

open LoraNode.Foundation LoraNode.Foundation.Bytes LoraNode.NodePacket LoraNode.NodeState

variable (config : AppConfig) (offset : BitVec 32)

/-- The same context for a clock that is `offset` ahead. -/
structure Shifted (context shifted : Context) : Prop where
  state : shifted.state = context.state
  nodeAddress : shifted.nodeAddress = context.nodeAddress
  responseSequence : shifted.responseSequence = context.responseSequence
  pendingTransactionId : shifted.pendingTransactionId = context.pendingTransactionId
  pendingSequence : shifted.pendingSequence = context.pendingSequence
  transactionId : shifted.transactionId = context.transactionId
  intervalStarted : shifted.intervalStartedTickMs = context.intervalStartedTickMs + offset
  ackStarted : shifted.ackStartedTickMs =
    if context.state = .waitAck then context.ackStartedTickMs + offset
    else context.ackStartedTickMs

structure SameResult (result shifted : HandleResult) : Prop where
  handled : shifted.handled = result.handled
  action : shifted.action = result.action
  context : Shifted offset result.context shifted.context

def delay (event : Event) : Event := { event with tickMs := event.tickMs + offset }

/-- Only differences of ticks are ever compared. -/
theorem elapsed_shift (tick started : BitVec 32) :
    tick + offset - (started + offset) = tick - started := by
  bv_omega

variable {offset} {context shifted : Context}

theorem complete_shift (same : Shifted offset context shifted) (action : Action)
    (type : ActionType) (tick : BitVec 32) :
    let result := completeTransaction context action type tick
    let result' := completeTransaction shifted action type (tick + offset)
    Shifted offset result.1 result'.1 ∧ result'.2 = result.2 := by
  intro result result'
  refine ⟨?_, rfl⟩
  constructor
  · rfl
  · exact same.nodeAddress
  · exact congrArg (· + 1) same.responseSequence
  · rfl
  · rfl
  · exact congrArg (· + 1) same.transactionId
  · rfl
  · rfl

theorem wait_interval_shift (same : Shifted offset context shifted)
    (waiting : context.state = .waitInterval) (event : Event) (action : Action) :
    let result := handleWaitInterval config context event action
    let result' := handleWaitInterval config shifted (delay offset event) action
    Shifted offset result.1 result'.1 ∧ result'.2 = result.2 := by
  have elapsed : (delay offset event).tickMs - shifted.intervalStartedTickMs =
      event.tickMs - context.intervalStartedTickMs := by
    rw [same.intervalStarted]
    exact elapsed_shift offset _ _
  have type : (delay offset event).type = event.type := rfl
  simp only [handleWaitInterval, elapsed, type]
  split_ifs
  · exact ⟨same, rfl⟩
  · exact ⟨same, rfl⟩
  · have idle := same.ackStarted
    rw [waiting, if_neg (by decide)] at idle
    refine ⟨⟨rfl, same.nodeAddress, same.responseSequence, same.transactionId,
      same.responseSequence, same.transactionId, same.intervalStarted, idle⟩, ?_⟩
    rw [same.transactionId, same.responseSequence]

theorem wait_tx_result_shift (same : Shifted offset context shifted) (event : Event)
    (action : Action) :
    let result := handleWaitTxResult context event action
    let result' := handleWaitTxResult shifted (delay offset event) action
    Shifted offset result.1 result'.1 ∧ result'.2 = result.2 := by
  have type : (delay offset event).type = event.type := rfl
  simp only [handleWaitTxResult, type]
  split_ifs
  · exact ⟨⟨rfl, same.nodeAddress, same.responseSequence, same.pendingTransactionId,
      same.pendingSequence, same.transactionId, same.intervalStarted, rfl⟩, rfl⟩
  · exact complete_shift same action .txFailed event.tickMs
  · exact ⟨same, rfl⟩

theorem wait_ack_shift (same : Shifted offset context shifted)
    (waiting : context.state = .waitAck) (event : Event) (action : Action) :
    let result := handleWaitAck config context event action
    let result' := handleWaitAck config shifted (delay offset event) action
    Shifted offset result.1 result'.1 ∧ result'.2 = result.2 := by
  have opened := same.ackStarted
  rw [waiting, if_pos rfl] at opened
  have elapsed : (delay offset event).tickMs - shifted.ackStartedTickMs =
      event.tickMs - context.ackStartedTickMs := by
    rw [opened]
    exact elapsed_shift offset _ _
  have type : (delay offset event).type = event.type := rfl
  have frame : (delay offset event).frame = event.frame := rfl
  have complete (type : ActionType) := complete_shift same action type event.tickMs
  simp only [handleWaitAck, elapsed, type, frame, same.nodeAddress, same.pendingTransactionId,
    same.pendingSequence]
  rcases decode event.frame Message.zero with ⟨accepted, packet⟩
  cases accepted with
  | false =>
      split_ifs
      · exact complete .ackTimeout
      · exact ⟨same, rfl⟩
      · exact ⟨same, rfl⟩
      · exact ⟨same, rfl⟩
  | true =>
      simp only
      split_ifs
      · exact complete .ackTimeout
      · exact ⟨same, rfl⟩
      · exact ⟨same, rfl⟩
      · exact ⟨same, rfl⟩
      · exact ⟨same, rfl⟩
      · exact ⟨same, rfl⟩
      · exact complete .transactionComplete

/-- One call, in any state. -/
theorem handle_event_shift (same : Shifted offset context shifted) (event : Event)
    (action : Action) :
    SameResult offset (handleEvent config context event action)
      (handleEvent config shifted (delay offset event) action) := by
  cases state : context.state with
  | waitInterval =>
      obtain ⟨next, emitted⟩ := wait_interval_shift config same state event .zero
      simp only [handleEvent, same.state, state]
      exact ⟨rfl, emitted, next⟩
  | waitTxResult =>
      obtain ⟨next, emitted⟩ := wait_tx_result_shift same event .zero
      simp only [handleEvent, same.state, state]
      exact ⟨rfl, emitted, next⟩
  | waitAck =>
      obtain ⟨next, emitted⟩ := wait_ack_shift config same state event .zero
      simp only [handleEvent, same.state, state]
      exact ⟨rfl, emitted, next⟩
  | other value unnamed =>
      simp only [handleEvent, same.state, state]
      exact ⟨rfl, rfl, same⟩

theorem initialize_shift (previous : Context) (address : Byte) (tick : BitVec 32)
    (started : (initializeContext previous address tick).1 = true) :
    Shifted offset (initializeContext previous address tick).2
      (initializeContext previous address (tick + offset)).2 := by
  cases tested : NodeState.isNodeAddress address with
  | false => simp [initializeContext, tested] at started
  | true =>
      simp only [initializeContext, tested, Bool.not_true, Bool.false_eq_true, if_false]
      exact ⟨rfl, rfl, rfl, rfl, rfl, rfl, rfl, rfl⟩

/-- Moving the initial tick and every event tick by one constant changes neither
the results nor the actions, and moves the start ticks in use. -/
theorem run_tick_shift (config : AppConfig) (previous : Context) (address : Byte)
    (tick offset : BitVec 32) (events : List Event) :
    let start := initializeContext previous address tick
    let start' := initializeContext previous address (tick + offset)
    start'.1 = start.1 ∧
      (start.1 = true →
        Shifted offset start.2 start'.2 ∧
          List.Forall₂ (SameResult offset) (resultsOf config start.2 events)
            (resultsOf config start'.2 (events.map (delay offset))) ∧
          actionsOf config start'.2 (events.map (delay offset)) =
            actionsOf config start.2 events) := by
  intro start start'
  have flag : start'.1 = start.1 := by
    simp only [start, start', initializeContext]
    split_ifs <;> rfl
  refine ⟨flag, ?_⟩
  intro started
  have initially : Shifted offset start.2 start'.2 := initialize_shift previous address tick started
  have delayed : List.Forall₂ (fun event event' => event' = delay offset event) events
      (events.map (delay offset)) := by
    rw [List.forall₂_map_right_iff]
    exact List.forall₂_same.mpr fun event _ => rfl
  have results := Transducer.outputs_related (stepEvent config) (stepEvent config)
    (fun context context' event event' same moved => by
      subst moved
      have result := handle_event_shift config same event .zero
      exact ⟨result.context, result⟩) initially delayed
  refine ⟨initially, results, ?_⟩
  have emitted : List.Forall₂ (fun action action' => action' = action)
      ((resultsOf config start.2 events).map HandleResult.action)
      ((resultsOf config start'.2 (events.map (delay offset))).map HandleResult.action) := by
    rw [List.forall₂_map_left_iff, List.forall₂_map_right_iff]
    exact results.imp fun _ _ same => same.action
  exact (List.forall₂_eq_eq_eq ▸ emitted.flip : _ = _)

end LoraNode.TickShift
