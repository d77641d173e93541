import LoraNode.AckWindow
import LoraNode.NodeResponse

/-!
# The uplink and its ACK

The state machine, the response builder and the codec agree on one frame: the
number a cycle reads the sensor under is the number the uplink carries, and the
only frame that completes the cycle is the ACK for that uplink.
-/

namespace LoraNode.UplinkAck

open LoraNode.Foundation LoraNode.Foundation.Bytes LoraNode.NodePacket LoraNode.NodeResponse
  LoraNode.NodeState LoraNode.CycleAccounting LoraNode.AckWindow LoraNode.PacketRoundTrip

variable (config : AppConfig)

/-- A context that has just read the sensor for one uplink. -/
structure Sampled (address id : Byte) (sequence : BitVec 16) (context : Context) : Prop where
  state : context.state = .waitTxResult
  nodeAddress : context.nodeAddress = address
  pendingTransactionId : context.pendingTransactionId = id
  pendingSequence : context.pendingSequence = sequence

theorem sampled_of_transition {address : Byte} {ended : Nat} {context next : Context}
    {event : Event} {action : Action} (accounted : Accounted address ended context)
    (transition : Transition context event next action) (sampled : action.type = .readSensor) :
    Sampled address action.transactionId action.sequence next := by
  cases transition with
  | quiet _ nothing => simp [nothing] at sampled
  | sampled state _ type id sequence =>
      exact ⟨rfl, accounted.nodeAddress, id.symm, sequence.symm⟩
  | transmitted state type _ nothing => simp [nothing] at sampled
  | finished state type terminal _ emitted =>
      rw [← emitted, sampled] at terminal
      simp [ActionType.terminal] at terminal

theorem stray_events {context : Context} (waiting : context.state = .waitTxResult)
    (stray : List Event)
    (unrelated : ∀ event ∈ stray, event.type ≠ .txSucceeded ∧ event.type ≠ .txFailed) :
    contextAfter config context stray = context := by
  refine Transducer.final_state_idle _ _ _ fun event member => ?_
  obtain ⟨succeeded, failed⟩ := unrelated event member
  simp only [stepEvent, handleEvent, waiting, handleWaitTxResult, if_neg succeeded, if_neg failed]

theorem unfinished_events {context : Context} {opened : BitVec 32}
    (window : Window context opened) (events : List Event)
    (unfinished : ∀ action ∈ actionsOf config context events, action.type.terminal = false) :
    contextAfter config context events = context := by
  induction events with
  | nil => rfl
  | cons event events induction =>
      rw [actions_of_cons] at unfinished
      have idle := unfinished_not_decisive config window event (unfinished _ (by simp))
      have same := (idle_event config window event .zero idle).2.1
      rw [same] at unfinished
      rw [context_after_cons, same]
      exact induction fun action member => unfinished action (by simp [member])

/-- Completion is exactly the matching ACK before the deadline. -/
theorem completes_iff {context : Context} {opened : BitVec 32} (window : Window context opened)
    (bytes : List Byte) (tick : BitVec 32) (action : Action) :
    (handleEvent config context ⟨.frameReceived, some bytes, tick⟩ action).action.type =
        .transactionComplete ↔
      tick - opened < config.ackTimeoutMs ∧
        IsAckFor context.nodeAddress context.pendingTransactionId context.pendingSequence
          bytes := by
  by_cases decisive : Decisive config context opened ⟨.frameReceived, some bytes, tick⟩
  · rw [decisive_event config window _ action decisive]
    simp only [ite_eq_right_iff, reduceCtorEq, imp_false, BitVec.not_le]
    constructor
    · intro inTime
      obtain ⟨-, carried, frame, isAck⟩ := decisive.resolve_left (BitVec.not_le.mpr inTime)
      rw [Option.some.inj frame]
      exact ⟨inTime, isAck⟩
    · exact And.left
  · have idle := (idle_event config window _ action decisive).2.2
    rw [idle]
    simp only [reduceCtorEq, false_iff, not_and]
    intro inTime isAck
    exact decisive (Or.inr ⟨rfl, bytes, rfl, isAck⟩)

theorem sampled_window {address id : Byte} {sequence : BitVec 16} {context : Context}
    (sampled : Sampled address id sequence context) (frame : Option (List Byte))
    (tick : BitVec 32) (action : Action) :
    let sent := (handleEvent config context ⟨.txSucceeded, frame, tick⟩ action).context
    Window sent tick ∧ sent.nodeAddress = address ∧ sent.pendingTransactionId = id ∧
      sent.pendingSequence = sequence := by
  refine ⟨tx_succeeded_opens config context _ action sampled.state rfl, ?_⟩
  simp only [handleEvent, sampled.state, handleWaitTxResult, if_true]
  exact ⟨sampled.nodeAddress, sampled.pendingTransactionId, sampled.pendingSequence⟩

theorem ack_image (destination id : Byte) (sequence : BitVec 16)
    (address : PacketGrammar.NodeAddress destination) :
    let image := wireImage (ackMessage destination id sequence)
    image.length = 9 ∧ ∀ (buffer : List Byte) (length : Nat), 9 ≤ buffer.length →
      let encoded := encode (ackMessage destination id sequence) buffer length
      encoded.success = true ∧ written encoded = image := by
  have valid := (ack_message_valid_iff destination id sequence).mpr address
  refine ⟨wire_image_length _ (by simp [ackMessage, Message.zero]), fun buffer length room => ?_⟩
  have success : (encode (ackMessage destination id sequence) buffer length).success = true := by
    rw [encode_success_iff]
    exact ⟨valid, room⟩
  exact ⟨success, (written_eq_wire_image _ _ _ success).2⟩

/-- What the radio sends for a request decodes to the request. -/
theorem response_decodes (request : Request) (output : List Byte) (outputLength : Nat)
    (previous : Message) (address : NodeResponse.isNodeAddress request.nodeAddress = true)
    (status : isSensorStatusValid request.sensor.status = true)
    (room : maxLength ≤ output.length) :
    ∃ packet, decode (some (build request output outputLength).frame) previous = (true, packet) ∧
      (packet.type = .data ∨ packet.type = .error) ∧ packet.source = request.nodeAddress ∧
        packet.destination = gatewayAddress ∧ packet.transactionId = request.transactionId ∧
          packet.sequence = request.sequence := by
  have valid := response_message_valid request address
  refine ⟨cleaned (responseMessage request) (valid_payload_length _ valid), ?_,
    response_message_fields request⟩
  rw [build_frame request output outputLength address status room, decode_eq_parse,
    parse_wire_image _ valid]

/-- End-to-end agreement of the uplink and its ACK, over every run. -/
theorem uplink_and_ack_agree (before : Context) (address : Byte) (tick : BitVec 32)
    (events : List Event) (event : Event) (sensor : SensorResult) (output : List Byte)
    (valid : NodeState.isNodeAddress address = true)
    (sampled : (handleEvent config
      (contextAfter config (initializeContext before address tick).2 events) event
        .zero).action.type = .readSensor)
    (status : isSensorStatusValid sensor.status = true) (room : output.length = 64) :
    let read := handleEvent config
      (contextAfter config (initializeContext before address tick).2 events) event .zero
    let request : Request := ⟨address, read.action.transactionId, read.action.sequence, sensor⟩
    ∀ outputLength previous,
      let outcome := build request output outputLength
      (outcome.result = .dataReady ∨ outcome.result = .errorReady) ∧
      ∃ packet, decode (some outcome.frame) previous = (true, packet) ∧
        (packet.type = .data ∨ packet.type = .error) ∧ packet.source = address ∧
        packet.destination = gatewayAddress ∧
        packet.transactionId = read.action.transactionId ∧
        packet.sequence = read.action.sequence ∧
        ∃ image : List Byte, image.length = 9 ∧
          (∀ (buffer : List Byte) (length : Nat), 9 ≤ buffer.length →
            let encoded := encode
              (ackMessage packet.source packet.transactionId packet.sequence) buffer length
            encoded.success = true ∧ written encoded = image) ∧
          ∀ (stray : List Event) (frame : Option (List Byte)) (sentTick : BitVec 32)
            (waiting : List Event) (bytes : List Byte) (now : BitVec 32),
            (∀ other ∈ stray, other.type ≠ .txSucceeded ∧ other.type ≠ .txFailed) →
            let sent := (handleEvent config (contextAfter config read.context stray)
              ⟨.txSucceeded, frame, sentTick⟩ .zero).context
            (∀ action ∈ actionsOf config sent waiting, action.type.terminal = false) →
            ((handleEvent config (contextAfter config sent waiting)
                ⟨.frameReceived, some bytes, now⟩ .zero).action.type = .transactionComplete ↔
              now - sentTick < config.ackTimeoutMs ∧ bytes = image) := by
  intro read request outputLength previous outcome
  have counted := counted_run config before address tick valid events
  have isSampled : Sampled address read.action.transactionId read.action.sequence read.context :=
    sampled_of_transition counted.2.1
      (handle_event_transition config _ event .zero counted.2.1.legal) sampled
  have space : maxLength ≤ output.length := room.ge
  have nodeAddress : PacketGrammar.NodeAddress address :=
    (NodeResponse.node_address_iff address).mp valid
  obtain ⟨-, built⟩ := build_eq request output outputLength valid status space
  obtain ⟨packet, decoded, kind, source, destination, id, sequence⟩ :=
    response_decodes request output outputLength previous valid status space
  obtain ⟨imageLength, image⟩ := ack_image address read.action.transactionId
    read.action.sequence nodeAddress
  refine ⟨?_, packet, decoded, kind, source, destination, id, sequence,
    wireImage (ackMessage address read.action.transactionId read.action.sequence), imageLength,
    ?_, ?_⟩
  · simp only [outcome, built]
    split_ifs
    · exact Or.inl rfl
    · exact Or.inr rfl
  · rw [source, id, sequence]
    exact image
  · intro stray frame sentTick waiting bytes now unrelated sent unfinished
    have unmoved := stray_events config isSampled.state stray unrelated
    simp only [sent, unmoved] at unfinished ⊢
    obtain ⟨window, sentAddress, sentId, sentSequence⟩ :=
      sampled_window config isSampled frame sentTick .zero
    rw [unfinished_events config window waiting unfinished, completes_iff config window bytes now,
      sentAddress, sentId, sentSequence, is_ack_for_iff]
    simp only [nodeAddress, true_and]

def firstReading : SensorResult := ⟨.ok, 251, 600⟩

def stackBuffer : List Byte := List.replicate 64 0xA5

def firstAck : List Byte := [0x03, 0x00, 0x02, 0x00, 0x00, 0x00, 0x00, 0x6D, 0xCF]

/-- After a torn frame the ACK ends the cycle. -/
theorem first_uplink_agrees :
    let read := handleEvent .default
      (contextAfter .default (initializeContext usedContext 0x02 0).2 [])
      ⟨.intervalElapsed, none, 5000⟩ .zero
    let outcome := build ⟨0x02, 0, 0, firstReading⟩ stackBuffer 0
    let sent := (handleEvent .default (contextAfter .default read.context [])
      ⟨.txSucceeded, none, 5060⟩ .zero).context
    let waiting := contextAfter .default sent [⟨.frameReceived, some [0x03, 0x00], 5400⟩]
    (outcome.result = .dataReady ∨ outcome.result = .errorReady) ∧
      (∃ packet, decode (some outcome.frame) Message.zero = (true, packet) ∧
        packet.source = 0x02 ∧ packet.transactionId = 0 ∧ packet.sequence = 0) ∧
      (handleEvent .default waiting ⟨.frameReceived, some firstAck, 5500⟩ .zero).action.type =
        .transactionComplete := by
  intro read outcome sent waiting
  have agree := uplink_and_ack_agree .default usedContext 0x02 0 [] ⟨.intervalElapsed, none, 5000⟩
    firstReading stackBuffer (by decide) (by decide) (by decide) (by decide) 0 Message.zero
  obtain ⟨ready, packet, decoded, -, source, -, id, sequence, image, -, encodes, completes⟩ := agree
  refine ⟨ready, ⟨packet, decoded, source, id, sequence⟩, ?_⟩
  have encoded := (encodes (List.replicate 9 0) 9 (by decide)).2
  rw [source, id, sequence] at encoded
  have ack : firstAck = image := by
    rw [← encoded]
    decide +kernel
  have ends := completes [] none 5060 [⟨.frameReceived, some [0x03, 0x00], 5400⟩] firstAck 5500
    (List.forall_mem_nil _) (by decide +kernel)
  have completed := ends.mpr ⟨by decide, ack⟩
  simpa only [waiting, sent, read] using completed

end LoraNode.UplinkAck
