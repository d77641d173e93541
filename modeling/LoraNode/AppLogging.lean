import LoraNode.FrameLogging
import LoraNode.LoraApp

/-!
# What the application logs

Whatever the drivers answer, the application hands the logger only sent and received
frames that fit a packet, in buffers that hold them. For such frames the logger is
faithful.
-/

namespace LoraNode.AppLogging

open LoraNode.Foundation LoraNode.Foundation.Bytes LoraNode.Foundation.Program
  LoraNode.Foundation.Interference LoraNode.Foundation.Buffers LoraNode.Foundation.Text
open LoraNode.NodePacket LoraNode.NodeResponse LoraNode.NodeState LoraNode.LoraApp
open LoraNode.FrameLine (frameLine readLine read_frame_line frame_line_short frame_line_string)
open LoraNode.FrameLog

section Callers

def LogsFit {Reply : Type} : Call Reply → Prop
  | .printFrame direction frame length =>
      (direction = "tx" ∨ direction = "rx") ∧ length ≤ maxLength ∧ length ≤ frame.length
  | _ => True

theorem built_fits (request : Request)
    (ready : (build request (List.replicate maxLength 0) 0).result = .dataReady ∨
      (build request (List.replicate maxLength 0) 0).result = .errorReady) :
    (build request (List.replicate maxLength 0) 0).outputLength ≤ maxLength ∧
      (build request (List.replicate maxLength 0) 0).outputLength ≤
        (build request (List.replicate maxLength 0) 0).output.length := by
  have size : (List.replicate maxLength (0 : Byte)).length = maxLength := List.length_replicate
  by_cases valid : NodeResponse.isNodeAddress request.nodeAddress = true ∧
      isSensorStatusValid request.sensor.status = true
  · obtain ⟨address, status⟩ := valid
    obtain ⟨success, outcome⟩ := build_eq request _ 0 address status (Nat.le_of_eq size.symm)
    have room := response_message_room request
    obtain ⟨accepted, enough⟩ := (encode_success_iff _ _ _).mp success
    have image := wire_image_length _ (valid_payload_length _ accepted)
    rw [outcome, encode_eq _ _ _ accepted enough, List.length_append, image]
    exact ⟨room, Nat.le_add_right _ _⟩
  · have invalid : build request (List.replicate maxLength 0) 0 =
        ⟨.invalidArgument, List.replicate maxLength 0, 0⟩ := by
      rw [build, if_pos]
      rw [Bool.or_eq_true, Bool.not_eq_true', Bool.not_eq_true']
      rw [not_and_or, Bool.not_eq_true, Bool.not_eq_true] at valid
      exact valid
    rw [invalid] at ready
    rcases ready with data | error
    · cases data
    · cases error

variable (config : AppConfig) (state : AppState)

theorem invoke_fits {Reply : Type} {call : Call Reply} (fits : LogsFit call) :
    (invoke call).Only LogsFit := only_perform fits

theorem invoke_then {Reply Result : Type} {call : Call Reply} {next : Reply → App Result}
    (fits : LogsFit call) (rest : ∀ answer, (next answer).Only LogsFit) :
    (invoke call >>= next).Only LogsFit := only_bind (invoke_fits fits) rest

theorem handle_fits (event : Event) : (handle config state event).Only LogsFit :=
  invoke_then (by trivial) fun _ => only_pure _

theorem readSensor_fits : (readSensor state).Only LogsFit := by
  apply only_ite (only_pure _)
  apply invoke_then (by trivial)
  intro measured
  apply only_ite (only_pure _)
  apply invoke_then (by trivial)
  intro temperature
  cases temperature with
  | none => exact only_pure _
  | some temperature =>
      apply invoke_then (by trivial)
      intro humidity
      cases humidity with
      | none => exact only_pure _
      | some humidity => exact only_ite (only_pure _) (only_pure _)

theorem startReceiver_fits : (startReceiver state).Only LogsFit :=
  invoke_then (by trivial) fun _ => only_pure _

theorem logTerminalAction_fits (action : Action) : (logTerminalAction action).Only LogsFit := by
  rw [logTerminalAction]
  cases action.type with
  | none => exact only_pure ()
  | readSensor => exact only_pure ()
  | transactionComplete => exact invoke_fits (by trivial)
  | ackTimeout => exact invoke_fits (by trivial)
  | txFailed => exact invoke_fits (by trivial)

theorem restartInterval_fits : (restartInterval state).Only LogsFit :=
  invoke_then (by trivial) fun _ => only_pure _

theorem notifyTxResult_fits (succeeded : Bool) (tickMs : BitVec 32) :
    (notifyTxResult config state succeeded tickMs).Only LogsFit := by
  apply only_bind (handle_fits config state _)
  intro handled
  apply only_ite
  · exact invoke_then (by trivial) fun _ => only_pure _
  · apply only_bind (logTerminalAction_fits _)
    intro _
    exact only_ite (restartInterval_fits _) (only_pure _)

theorem listenForAck_fits : (listenForAck state).Only LogsFit := by
  apply only_bind (startReceiver_fits state)
  intro started
  apply only_ite
  · exact invoke_then (by trivial) fun _ => only_pure _
  · exact invoke_then (by trivial) fun _ => only_pure _

theorem buildAndTransmit_fits (action : Action) :
    (buildAndTransmit config state action).Only LogsFit := by
  apply only_bind (readSensor_fits state)
  intro sensor
  let request : Request := ⟨config.nodeAddress, action.transactionId, action.sequence, sensor⟩
  by_cases failed : (build request (List.replicate maxLength 0) 0).result ≠ .dataReady ∧
      (build request (List.replicate maxLength 0) 0).result ≠ .errorReady
  · rw [if_pos failed]
    apply invoke_then (by trivial)
    intro _
    exact invoke_then (by trivial) fun tick => notifyTxResult_fits config state _ tick
  · rw [if_neg failed]
    have ready := built_fits request (by
      rw [not_and_or, not_not, not_not] at failed
      exact failed)
    have fits : LogsFit (.printFrame "tx" (build request (List.replicate maxLength 0) 0).output
        (build request (List.replicate maxLength 0) 0).outputLength) := ⟨.inl rfl, ready⟩
    apply invoke_then fits
    intro _
    apply invoke_then (by trivial)
    intro sent
    apply invoke_then (by trivial)
    intro tick
    apply only_bind (notifyTxResult_fits config _ _ tick)
    intro state
    exact only_ite (listenForAck_fits state) (only_pure state)

theorem handleAction_fits (action : Action) : (handleAction config state action).Only LogsFit := by
  apply only_ite (buildAndTransmit_fits config state action)
  apply only_bind (logTerminalAction_fits action)
  intro _
  exact only_ite (restartInterval_fits state) (only_pure state)

theorem idleTick_fits : (idleTick config state).Only LogsFit := by
  apply invoke_then (by trivial)
  intro tick
  apply only_bind (handle_fits config state _)
  intro handled
  apply only_ite _ (only_pure _)
  apply only_bind (handleAction_fits config _ _)
  intro state
  exact only_ite (invoke_then (by trivial) fun _ => only_pure _) (only_pure _)

theorem sleepInterval_fits : (sleepInterval config state).Only LogsFit := by
  apply invoke_then (by trivial)
  intro _
  apply invoke_then (by trivial)
  intro slept
  apply only_ite
  · exact invoke_then (by trivial) fun _ => only_pure _
  · apply invoke_then (by trivial)
    intro _
    apply invoke_then (by trivial)
    intro tick
    apply only_bind (handle_fits config _ _)
    intro handled
    exact only_ite (handleAction_fits config _ _) (only_pure _)

theorem initializeNode_fits : (initializeNode config state).Only LogsFit := by
  apply invoke_then (by trivial)
  intro _
  apply invoke_then (by trivial)
  intro version
  apply only_ite
  · exact invoke_then (by trivial) fun _ => only_pure _
  · apply invoke_then (by trivial)
    intro _
    apply invoke_then (by trivial)
    intro tick
    exact only_ite (only_pure _) (only_pure _)

/-- The start logs only frames that fit. -/
theorem initializeApp_fits : (initializeApp config state).Only LogsFit := by
  apply invoke_then (by trivial)
  intro timeReady
  apply only_ite
  · exact invoke_then (by trivial) fun _ => only_pure _
  · apply invoke_then (by trivial)
    intro powerReady
    apply only_ite
    · exact invoke_then (by trivial) fun _ => only_pure _
    · apply invoke_then (by trivial)
      intro _
      apply invoke_then (by trivial)
      intro dht11Ready
      apply only_ite
      · exact invoke_then (by trivial) fun _ => initializeNode_fits config _
      · exact initializeNode_fits config _

theorem haltedTask_fits : (haltedTask state).Only LogsFit := by
  apply invoke_then (by trivial)
  intro _
  apply invoke_then (by trivial)
  intro _
  apply invoke_then (by trivial)
  intro _
  exact invoke_then (by trivial) fun _ => only_pure _

/-- A received frame is logged only if its length passes the test. -/
theorem logReceived_fits (received : ReadAnswer) (action : Action) :
    (logReceived received action).Only LogsFit := by
  have ignored : ∀ _ : Unit, (if action.ignoreReason ≠ .none then
      invoke (.log "status: RX frame ignored\r\n") else pure ()).Only LogsFit :=
    fun _ => only_ite (invoke_fits (by trivial)) (only_pure ())
  by_cases bound : received.count.toNat ≤ maxLength
  · have inside : received.count.toNat ≤ received.frame.length := by
      rw [received.size]
      exact Nat.le_of_lt received.count.isLt
    have fits : LogsFit (.printFrame "rx" received.frame received.count.toNat) :=
      ⟨.inr rfl, bound, inside⟩
    simp only [logReceived, if_pos bound]
    exact invoke_then fits ignored
  · simp only [logReceived, if_neg bound]
    exact invoke_then (by trivial) ignored

theorem pollReceiver_fits : (pollReceiver config state).Only LogsFit := by
  apply invoke_then (by trivial)
  intro bytesReceived
  apply only_ite (idleTick_fits config state)
  apply invoke_then (by trivial)
  intro tick
  apply invoke_then (by trivial)
  intro received
  apply only_bind (handle_fits config _ _)
  intro handled
  apply only_ite
  · exact invoke_then (by trivial) fun _ => only_pure _
  · apply only_bind (logReceived_fits received _)
    exact fun _ => handleAction_fits config _ _

theorem waitAckTask_fits : (waitAckTask config state).Only LogsFit := by
  apply invoke_then (by trivial)
  intro tick
  apply only_bind (handle_fits config state _)
  intro handled
  apply only_ite (handleAction_fits config _ _)
  apply only_ite _ (pollReceiver_fits config _)
  apply only_bind (startReceiver_fits _)
  intro started
  apply only_ite _ (pollReceiver_fits config _)
  exact invoke_then (by trivial) fun _ => idleTick_fits config _

/-- One pass of the loop logs only frames that fit. -/
theorem tasks_fits : (tasks config state).Only LogsFit := by
  apply only_ite (haltedTask_fits state)
  apply only_ite (sleepInterval_fits config state)
  apply only_ite (idleTick_fits config state)
  exact waitAckTask_fits config state

end Callers

/-- Any word is appended as its shortest decimal, through at most ten slots. Any
frame that fits a packet becomes a line that is a string, fits, is not dropped and
reads back, and a UART that does not stay busy is given it once. The application logs
no other frames. -/
theorem frame_logging_faithful :
    (∀ value : BitVec 32, ∃ text, SpellsDecimal text value.toNat ∧
      (∀ other, SpellsDecimal other value.toNat → other ≠ text → text.length < other.length) ∧
      ∀ frame line capacity, line.length + text.length ≤ capacity →
        Always (arrays (loggerSizes capacity frame.length))
          (defined (loggerSizes capacity frame.length))
          (fun memory => memory = loggerMemory frame [] line [])
          (appendUnsigned line.length value)
          fun cursor memory => cursor = (line ++ text).length ∧
            memory .line = cells (line ++ text)) ∧
    (∀ (direction : String) (frame : List Byte), direction = "tx" ∨ direction = "rx" →
      frame.length ≤ 64 →
      ∃ text, text.length + 1 < debugLogCapacity ∧ 0 ∉ text ∧
        readLine text = some (ascii direction, frame.length, frame) ∧
        Always (wired (loggerSizes debugLogCapacity frame.length))
          (transfers (loggerSizes debugLogCapacity frame.length) text)
          (fun wire => wire = (loggerMemory frame [] [] [], []))
          (printFrame (ascii direction) frame.length)
          fun returned wire => returned ≠ .dropped ∧ wire.1 .line = cells (text ++ [0]) ∧
            HandsOver text returned wire.2) ∧
    ∀ config state, (initializeApp config state).Only LogsFit ∧
      (tasks config state).Only LogsFit := by
  refine ⟨?_, ?_, ?_⟩
  · intro value
    refine ⟨decimal value.toNat, decimal_spells value.toNat, ?_, ?_⟩
    · exact fun other spells different => decimal_shortest spells different
    · intro frame line capacity room
      exact computes_always (appendUnsigned_computes value room) ⟨rfl, rfl⟩
  · intro direction frame either fits
    have word : 0 ∉ ascii direction ∧ FrameLine.space ∉ ascii direction ∧
        (ascii direction).length ≤ 2 := by
      rcases either with tx | rx
      · subst tx
        decide
      · subst rx
        decide
    obtain ⟨string, single, short⟩ := word
    refine ⟨frameLine (ascii direction) frame, ?_, ?_, ?_, ?_⟩
    · exact frame_line_short frame short fits
    · exact frame_line_string frame string
    · exact read_frame_line frame single
    · apply triple_always
      apply triple_mono (printFrame_transfers _ frame string short fits) fun _ same => same
      intro returned wire logged
      exact ⟨logged.2.not_dropped, logged⟩
  · exact fun config state => ⟨initializeApp_fits config state, tasks_fits config state⟩

def idleUart {Reply : Type} (wire : Wire) : LogCall Reply → Reply × Wire
  | .inl call =>
      let served := wire.1.serve call
      (served.1, served.2, wire.2)
  | .inr .writeIsBusy => (false, wire.1, wire.2 ++ [.polled false])
  | .inr (.write length) =>
      (true, wire.1, wire.2 ++ [.written ((List.range length).map (wire.1 .transfer)) true])

theorem idleUart_answers (sizes : LogBuffer → Nat) {Reply : Type} (wire : Wire)
    (call : LogCall Reply) :
    (wired sizes).answers wire call (idleUart wire call).1 (idleUart wire call).2 := by
  cases call with
  | inl access => exact ⟨memory_serves sizes wire.1 access, rfl⟩
  | inr request => cases request <;> rfl

/-- The largest word in an array that just holds it, and a received frame that an idle
UART is given. -/
theorem received_pair_logged :
    (∃ text, SpellsDecimal text 4294967295 ∧
      Always (arrays (loggerSizes text.length 0)) (defined (loggerSizes text.length 0))
        (fun memory => memory = loggerMemory [] [] [] []) (appendUnsigned 0 4294967295)
        fun cursor memory => cursor = text.length ∧ memory .line = cells text) ∧
    ∃ text wire, text.length + 1 < debugLogCapacity ∧
      readLine text = some (ascii "rx", 2, [0x01, 0xFF]) ∧
      Reaches (wired (loggerSizes debugLogCapacity 2))
        (printFrame (ascii "rx") 2, (loggerMemory [0x01, 0xFF] [] [] [], [])) (.done .sent, wire) ∧
      wire.1 .line = cells (text ++ [0]) ∧ HandsOver text .sent wire.2 := by
  obtain ⟨numbers, frames, _⟩ := frame_logging_faithful
  constructor
  · obtain ⟨text, spells, _, appends⟩ := numbers 4294967295
    exact ⟨text, spells, appends [] [] text.length (Nat.le_of_eq (Nat.zero_add _))⟩
  · obtain ⟨text, room, _, reads, logs⟩ := frames "rx" [0x01, 0xFF] (.inr rfl) (by decide)
    let start : Wire := (loggerMemory [0x01, 0xFF] [] [] [], [])
    have ran : ((printFrame (ascii "rx") 2).simulate idleUart start).1 = .sent := by
      decide +kernel
    have answered {Reply : Type} (wire : Wire) (call : LogCall Reply) :=
      idleUart_answers (loggerSizes debugLogCapacity 2) wire call
    have run := reaches_simulated (fun wire call => ⟨wire, .refl, answered wire call⟩)
      (printFrame (ascii "rx") 2) start
    rw [ran] at run
    obtain ⟨_, logged⟩ := logs start _ rfl run
    exact ⟨text, _, room, reads, run, logged⟩

end LoraNode.AppLogging
