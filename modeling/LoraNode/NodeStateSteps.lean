import LoraNode.Foundation.Transducer
import LoraNode.NodeState
import LoraNode.PacketRoundTrip

/-!
# What one event can do to the node

`Transition` lists the five things `NODE_STATE_HandleEvent` does in a legal
state, with everything later invariants need. Waiting for an ACK is described
exactly: which events end the cycle, and how.
-/

namespace LoraNode.NodeState

open LoraNode.Foundation.Bytes LoraNode.NodePacket LoraNode.PacketRoundTrip

/-- READ_SENSOR opens a cycle and these three actions end it. -/
def ActionType.terminal : ActionType → Bool
  | .transactionComplete => true
  | .ackTimeout => true
  | .txFailed => true
  | .none => false
  | .readSensor => false

theorem ActionType.terminal_iff (type : ActionType) : type.terminal = true ↔
    type = .transactionComplete ∨ type = .ackTimeout ∨ type = .txFailed := by
  cases type <;> simp [terminal]

theorem ActionType.terminal_acts {type : ActionType} (ends : type.terminal = true) :
    type ≠ .none ∧ type ≠ .readSensor := by
  cases type <;> simp [terminal] at ends ⊢

def ackMessage (destination id : Byte) (sequence : BitVec 16) : Message :=
  { Message.zero with
    type := .ack
    source := gatewayAddress
    destination := destination
    transactionId := id
    sequence := sequence }

def IsAckFor (destination id : Byte) (sequence : BitVec 16) (bytes : List Byte) : Prop :=
  let result := encode (ackMessage destination id sequence) (List.replicate minLength 0) 0
  result.success = true ∧ written result = bytes

instance (destination id : Byte) (sequence : BitVec 16) (bytes : List Byte) :
    Decidable (IsAckFor destination id sequence bytes) :=
  inferInstanceAs (Decidable (_ ∧ _))

theorem ack_message_valid_iff (destination id : Byte) (sequence : BitVec 16) :
    isMessageValid (ackMessage destination id sequence) = true ↔
      PacketGrammar.NodeAddress destination := by
  rw [PacketGrammar.valid_iff]
  simp [ackMessage, Message.zero, gatewayAddress]

theorem is_ack_for_iff (destination id : Byte) (sequence : BitVec 16) (bytes : List Byte) :
    IsAckFor destination id sequence bytes ↔
      PacketGrammar.NodeAddress destination ∧
        bytes = wireImage (ackMessage destination id sequence) := by
  rw [IsAckFor, ← ack_message_valid_iff destination id sequence]
  constructor
  · intro found
    obtain ⟨success, rfl⟩ := found
    exact written_eq_wire_image _ _ _ success
  · intro found
    obtain ⟨valid, rfl⟩ := found
    have success : (encode (ackMessage destination id sequence) (List.replicate minLength 0)
        0).success = true := by
      rw [encode_success_iff]
      exact ⟨valid, by simp [ackMessage, Message.zero]⟩
    exact ⟨success, (written_eq_wire_image _ _ _ success).2⟩

/-- An ACK has no payload, so its fields determine the decoded message. -/
theorem parse_ack_iff (bytes : List Byte) (destination id : Byte) (sequence : BitVec 16) :
    (∃ packet, parse bytes = some packet ∧ packet.destination = destination ∧
        packet.type = .ack ∧ packet.transactionId = id ∧ packet.sequence = sequence) ↔
      IsAckFor destination id sequence bytes := by
  rw [is_ack_for_iff]
  constructor
  · intro found
    obtain ⟨packet, parsed, rfl, type, rfl, rfl⟩ := found
    obtain ⟨valid, clean, image⟩ := (parse_eq_some_iff bytes packet).mp parsed
    have fields := (PacketGrammar.valid_iff packet).mp valid
    simp only [type, reduceCtorEq, false_and, false_or, or_false, true_and] at fields
    obtain ⟨source, address, length⟩ := fields
    refine ⟨address, ?_⟩
    have same : packet = ackMessage packet.destination packet.transactionId packet.sequence := by
      apply Message.ext
      · exact type
      · exact source
      · rfl
      · rfl
      · exact length
      · rw [Clean, length] at clean
        exact clean
      · rfl
    rw [image, ← same]
  · intro found
    obtain ⟨address, rfl⟩ := found
    refine ⟨ackMessage destination id sequence, ?_, rfl, rfl, rfl, rfl⟩
    rw [parse_eq_some_iff]
    exact ⟨(ack_message_valid_iff destination id sequence).mpr address, rfl, rfl⟩

def CarriesAck (context : Context) (event : Event) : Prop :=
  event.type = .frameReceived ∧
    ∃ bytes, event.frame = some bytes ∧
      IsAckFor context.nodeAddress context.pendingTransactionId context.pendingSequence bytes

instance (context : Context) (event : Event) : Decidable (CarriesAck context event) :=
  match frame : event.frame with
  | none => isFalse fun ⟨_, bytes, found, _⟩ => by simp [frame] at found
  | some bytes =>
      decidable_of_iff (event.type = .frameReceived ∧
          IsAckFor context.nodeAddress context.pendingTransactionId context.pendingSequence bytes)
        (by simp [CarriesAck, frame])

/-- Milliseconds since `ack_started_tick_ms`, modulo the counter. -/
def Context.ackElapsed (context : Context) (event : Event) : BitVec 32 :=
  event.tickMs - context.ackStartedTickMs

variable (config : AppConfig)

theorem wait_ack_late (context : Context) (event : Event) (action : Action)
    (late : config.ackTimeoutMs ≤ context.ackElapsed event) :
    handleWaitAck config context event action =
      completeTransaction context action .ackTimeout event.tickMs := by
  unfold handleWaitAck
  exact if_pos late

theorem wait_ack_accepted (context : Context) (event : Event) (action : Action)
    (inTime : ¬config.ackTimeoutMs ≤ context.ackElapsed event)
    (carries : CarriesAck context event) :
    handleWaitAck config context event action =
      completeTransaction context action .transactionComplete event.tickMs := by
  obtain ⟨type, bytes, frame, isAck⟩ := carries
  obtain ⟨packet, parsed, destination, ack, id, sequence⟩ := (parse_ack_iff _ _ _ _).mpr isAck
  have elapsed : ¬config.ackTimeoutMs ≤ event.tickMs - context.ackStartedTickMs := inTime
  simp only [handleWaitAck, if_neg elapsed, type, frame, decode_eq_parse, parsed]
  simp [destination, ack, id, sequence]

theorem wait_ack_ignored (context : Context) (event : Event) (action : Action)
    (inTime : ¬config.ackTimeoutMs ≤ context.ackElapsed event)
    (foreign : ¬CarriesAck context event) :
    (handleWaitAck config context event action).1 = context ∧
      (handleWaitAck config context event action).2.type = action.type := by
  have elapsed : ¬config.ackTimeoutMs ≤ event.tickMs - context.ackStartedTickMs := inTime
  simp only [handleWaitAck, if_neg elapsed]
  by_cases tick : event.type = .timerTick
  · simp [tick]
  · by_cases received : event.type = .frameReceived
    · rw [if_neg tick, if_neg (by simp [received])]
      cases frame : event.frame with
      | none => simp [decode]
      | some bytes =>
          rw [decode_eq_parse]
          cases parsed : parse bytes with
          | none => simp
          | some packet =>
              -- A packet that passes all three tests would be the expected ACK.
              simp only
              split_ifs with destination type fields
              · exact ⟨rfl, rfl⟩
              · exact ⟨rfl, rfl⟩
              · exact ⟨rfl, rfl⟩
              · simp only [not_or, not_not] at destination type fields
                exact absurd ⟨received, bytes, frame, (parse_ack_iff _ _ _ _).mp
                  ⟨packet, parsed, destination, type, fields.1, fields.2⟩⟩ foreign
    · simp [tick, received]

/-- Everything `NODE_STATE_HandleEvent` does in a legal state. -/
inductive Transition (context : Context) (event : Event) : Context → Action → Prop where
  | quiet (action : Action) (nothing : action.type = .none) :
      Transition context event context action
  | sampled (state : context.state = .waitInterval) (action : Action)
      (type : action.type = .readSensor) (id : action.transactionId = context.transactionId)
      (sequence : action.sequence = context.responseSequence) :
      Transition context event
        { context with
          pendingTransactionId := context.transactionId
          pendingSequence := context.responseSequence
          state := .waitTxResult } action
  | transmitted (state : context.state = .waitTxResult) (type : event.type = .txSucceeded)
      (action : Action) (nothing : action.type = .none) :
      Transition context event
        { context with state := .waitAck, ackStartedTickMs := event.tickMs } action
  | finished (state : context.state = .waitTxResult ∨ context.state = .waitAck)
      (type : ActionType) (terminal : type.terminal = true) (action : Action)
      (emitted : action.type = type) :
      Transition context event (completeTransaction context .zero type event.tickMs).1 action

def Legal (state : State) : Prop := state = .waitInterval ∨ state = .waitTxResult ∨ state = .waitAck

theorem handle_event_handled (context : Context) (event : Event) (action : Action)
    (legal : Legal context.state) : (handleEvent config context event action).handled = true := by
  rcases legal with state | state | state <;> simp [handleEvent, state]

theorem handle_event_wait_ack (context : Context) (event : Event) (action : Action)
    (state : context.state = .waitAck) :
    handleEvent config context event action =
      ⟨true, (handleWaitAck config context event .zero).1,
        (handleWaitAck config context event .zero).2⟩ := by
  simp [handleEvent, state]

theorem handle_event_transition (context : Context) (event : Event) (action : Action)
    (legal : Legal context.state) :
    Transition context event (handleEvent config context event action).context
      (handleEvent config context event action).action := by
  rcases legal with state | state | state
  · simp only [handleEvent, state, handleWaitInterval]
    split_ifs with unexpected early
    · exact .quiet _ rfl
    · exact .quiet _ rfl
    · exact .sampled state _ rfl rfl rfl
  · simp only [handleEvent, state, handleWaitTxResult]
    split_ifs with succeeded failed
    · exact .transmitted state succeeded _ rfl
    · exact .finished (Or.inl state) .txFailed rfl _ rfl
    · exact .quiet _ rfl
  · rw [handle_event_wait_ack config context event action state]
    by_cases late : config.ackTimeoutMs ≤ context.ackElapsed event
    · rw [wait_ack_late config context event .zero late]
      exact .finished (Or.inr state) .ackTimeout rfl _ rfl
    · by_cases carries : CarriesAck context event
      · rw [wait_ack_accepted config context event .zero late carries]
        exact .finished (Or.inr state) .transactionComplete rfl _ rfl
      · obtain ⟨same, nothing⟩ := wait_ack_ignored config context event .zero late carries
        simp only [same]
        exact .quiet _ nothing

def stepEvent (context : Context) (event : Event) : Context × HandleResult :=
  let result := handleEvent config context event .zero
  (result.context, result)

def contextAfter (start : Context) (events : List Event) : Context :=
  Foundation.Transducer.finalState (stepEvent config) start events

def resultsOf (start : Context) (events : List Event) : List HandleResult :=
  Foundation.Transducer.outputs (stepEvent config) start events

def actionsOf (start : Context) (events : List Event) : List Action :=
  (resultsOf config start events).map HandleResult.action

theorem context_after_append (start : Context) (first second : List Event) :
    contextAfter config start (first ++ second) =
      contextAfter config (contextAfter config start first) second :=
  Foundation.Transducer.final_state_append _ _ _ _

theorem actions_of_append (start : Context) (first second : List Event) :
    actionsOf config start (first ++ second) =
      actionsOf config start first ++
        actionsOf config (contextAfter config start first) second := by
  simp only [actionsOf, resultsOf, contextAfter, Foundation.Transducer.outputs_append,
    List.map_append]

theorem context_after_cons (start : Context) (event : Event) (events : List Event) :
    contextAfter config start (event :: events) =
      contextAfter config (handleEvent config start event .zero).context events := rfl

theorem actions_of_cons (start : Context) (event : Event) (events : List Event) :
    actionsOf config start (event :: events) =
      (handleEvent config start event .zero).action ::
        actionsOf config (handleEvent config start event .zero).context events := rfl

end LoraNode.NodeState
