import LoraNode.LoraApp
import LoraNode.UplinkAck

/-!
# What one call of the application shows

A trace is read through its marks: attempts to sleep, frames handed to the
radio and actions of the state machine. Each function of the application has
one statement about its marks and the state it returns.
-/

namespace LoraNode.AppTrace

open LoraNode.Foundation LoraNode.Foundation.Bytes LoraNode.NodePacket LoraNode.NodeResponse
  LoraNode.NodeState LoraNode.CycleAccounting LoraNode.LoraApp

abbrev Trace := List (Program.Entry Call)

inductive Mark where
  | slept (woken : Bool)
  | sent (frame : List Byte)
  | acted (action : Action)
  deriving DecidableEq

def markOf {Reply : Type} : Call Reply → Reply → Option Mark
  | .sleep _, woken => some (.slept woken)
  | .transmit frame length _, _ => some (.sent (frame.take length.toNat))
  | .handled _ result, _ =>
      if result.action.type = .none then none else some (.acted result.action)
  | .timeInitialize, _ => none
  | .powerInitialize, _ => none
  | .dht11Init, _ => none
  | .radioInit _ _ _ _ _ _ _, _ => none
  | .spiRead _, _ => none
  | .nowMs, _ => none
  | .dht11Read, _ => none
  | .dht11GetTemperature, _ => none
  | .dht11GetHumidity, _ => none
  | .receive _, _ => none
  | .available, _ => none
  | .read _, _ => none
  | .delayMs _, _ => none
  | .log _, _ => none
  | .printFrame _ _ _, _ => none
  | .disableIrq _, _ => none
  | .standbyModeEnter, _ => none

def marks (trace : Trace) : List Mark :=
  trace.filterMap fun entry => markOf entry.call entry.answer

def Shows {Result : Type} (program : App Result) (post : List Mark → Result → Prop) : Prop :=
  program.Ensures fun trace result => post (marks trace) result

variable {First Second Reply Result : Type}

@[simp] theorem shows_pure (result : Result) (post : List Mark → Result → Prop) :
    Shows (pure result) post ↔ post [] result := Iff.rfl

theorem shows_invoke (call : Call Reply) (post : List Mark → Reply → Prop) :
    Shows (invoke call) post ↔ ∀ answer, post (markOf call answer).toList answer := by
  refine forall_congr' fun answer => ?_
  change post (marks [⟨call, answer⟩]) answer ↔ _
  rw [marks, List.filterMap_cons]
  cases markOf call answer <;> rfl

theorem shows_invoke_unit (call : Call Unit) (post : List Mark → Unit → Prop) :
    Shows (invoke call) post ↔ post (markOf call ()).toList () := by
  rw [shows_invoke]
  exact ⟨fun all => all (), fun holds _ => holds⟩

@[simp] theorem shows_bind (program : App First) (next : First → App Second)
    (post : List Mark → Second → Prop) :
    Shows (program >>= next) post ↔
      Shows program fun before middle =>
        Shows (next middle) fun after result => post (before ++ after) result := by
  simp only [Shows, Program.ensures_bind, marks, List.filterMap_append]

@[simp] theorem shows_ite (condition : Prop) [Decidable condition] (first second : App Result)
    (post : List Mark → Result → Prop) :
    Shows (if condition then first else second) post ↔
      (condition → Shows first post) ∧ (¬condition → Shows second post) :=
  Program.ensures_ite condition first second _

theorem shows_mono {program : App Result} {first second : List Mark → Result → Prop}
    (shows : Shows program first)
    (weaker : ∀ seen result, first seen result → second seen result) : Shows program second :=
  Program.ensures_mono shows fun _ => weaker _

theorem shows_seq {program : App First} {next : First → App Second}
    {middle : List Mark → First → Prop} {post : List Mark → Second → Prop}
    (first : Shows program middle)
    (second : ∀ before value, middle before value →
      Shows (next value) fun after result => post (before ++ after) result) :
    Shows (program >>= next) post := by
  rw [shows_bind]
  exact shows_mono first second

def actionMarks (action : Action) : List Mark :=
  if action.type = .none then [] else [.acted action]

@[simp] theorem shows_handle (config : AppConfig) (state : AppState) (event : Event)
    (post : List Mark → HandleResult × AppState → Prop) :
    Shows (handle config state event) post ↔
      let result := handleEvent config state.nodeContext event .zero
      post (actionMarks result.action) (result, { state with nodeContext := result.context }) := by
  simp only [handle, shows_bind, shows_invoke_unit, shows_pure, markOf, actionMarks,
    List.append_nil]
  split_ifs <;> rfl

@[simp] theorem shows_log_terminal (action : Action) (post : List Mark → Unit → Prop) :
    Shows (logTerminalAction action) post ↔ post [] () := by
  rw [logTerminalAction]
  cases action.type <;> simp [shows_invoke_unit, markOf]

@[simp] theorem shows_restart_interval (state : AppState) (post : List Mark → AppState → Prop) :
    Shows (restartInterval state) post ↔ ∀ tick, post []
      { state with nodeContext := { state.nodeContext with intervalStartedTickMs := tick } } := by
  simp only [restartInterval, shows_bind, shows_invoke, shows_pure, List.append_nil, markOf,
    Option.toList_none]

@[simp] theorem shows_log_received (received : ReadAnswer) (action : Action)
    (post : List Mark → Unit → Prop) : Shows (logReceived received action) post ↔ post [] () := by
  rw [logReceived, shows_ite]
  by_cases short : received.count.toNat ≤ maxLength
  · by_cases ignored : action.ignoreReason = .none <;>
      simp [short, ignored, shows_invoke_unit, markOf]
  · by_cases ignored : action.ignoreReason = .none <;>
      simp [short, ignored, shows_invoke_unit, markOf]

theorem read_sensor_shows (state : AppState) :
    Shows (readSensor state) fun seen sensor =>
      seen = [] ∧ isSensorStatusValid sensor.status = true := by
  simp only [readSensor, shows_ite, shows_pure, shows_bind, shows_invoke, markOf]
  refine ⟨fun _ => ⟨trivial, rfl⟩, fun _ measured => ⟨fun _ => ⟨rfl, rfl⟩, fun _ temperature => ?_⟩⟩
  cases temperature with
  | none => exact ⟨rfl, rfl⟩
  | some temperature =>
      simp only [shows_bind, shows_invoke]
      intro humidity
      cases humidity with
      | none => exact ⟨rfl, rfl⟩
      | some humidity =>
          simp only [shows_ite, shows_pure]
          exact ⟨fun _ => ⟨rfl, rfl⟩, fun _ => ⟨rfl, rfl⟩⟩

structure Ready (config : AppConfig) (ended : Nat) (state : AppState) : Prop where
  ready : state.loraReady = true
  valid : NodeState.isNodeAddress config.nodeAddress = true
  accounted : Accounted config.nodeAddress ended state.nodeContext

theorem accounted_interval {address : Byte} {ended : Nat} {context : Context}
    (accounted : Accounted address ended context) (tick : BitVec 32) :
    Accounted address ended { context with intervalStartedTickMs := tick } :=
  ⟨accounted.legal, accounted.nodeAddress, accounted.responseSequence, accounted.transactionId,
    accounted.idle, accounted.busy⟩

def Carries (config : AppConfig) (ended : Nat) (frame : List Byte) : Prop :=
  ∃ packet, decode (some frame) Message.zero = (true, packet) ∧
    (packet.type = .data ∨ packet.type = .error) ∧ packet.source = config.nodeAddress ∧
      packet.destination = gatewayAddress ∧ packet.transactionId = BitVec.ofNat 8 ended ∧
        packet.sequence = BitVec.ofNat 16 ended

/-- A transmission is delivered and awaits its ACK, or ends the cycle at once. -/
inductive UplinkOutcome (config : AppConfig) (ended : Nat) : List Mark → AppState → Prop where
  | delivered (frame : List Byte) (carries : Carries config ended frame) (next : AppState)
      (ready : Ready config ended next) (state : next.nodeContext.state = .waitAck) :
      UplinkOutcome config ended [.sent frame] next
  | lost (frame : List Byte) (carries : Carries config ended frame) (action : Action)
      (type : action.type = .txFailed) (next : AppState) (ready : Ready config (ended + 1) next)
      (state : next.nodeContext.state = .waitInterval) :
      UplinkOutcome config ended [.sent frame, .acted action] next

theorem notify_succeeded (config : AppConfig) (ended : Nat) (state : AppState)
    (ready : Ready config ended state) (waiting : state.nodeContext.state = .waitTxResult)
    (tick : BitVec 32) :
    Shows (notifyTxResult config state true tick) fun seen next =>
      seen = [] ∧ Ready config ended next ∧ next.nodeContext.state = .waitAck := by
  have accounted := accounted_transition ready.accounted
    (handle_event_transition config state.nodeContext ⟨.txSucceeded, none, tick⟩ .zero
      ready.accounted.legal)
  have handled : handleEvent config state.nodeContext ⟨.txSucceeded, none, tick⟩ .zero =
      ⟨true, { state.nodeContext with state := .waitAck, ackStartedTickMs := tick }, .zero⟩ := by
    simp [handleEvent, waiting, handleWaitTxResult]
  rw [handled] at accounted
  simp only [notifyTxResult, if_true, shows_bind, shows_handle, handled]
  exact ⟨rfl, ⟨ready.ready, ready.valid, accounted⟩, rfl⟩

theorem notify_failed (config : AppConfig) (ended : Nat) (state : AppState)
    (ready : Ready config ended state) (waiting : state.nodeContext.state = .waitTxResult)
    (tick : BitVec 32) :
    Shows (notifyTxResult config state false tick) fun seen next =>
      ∃ action, action.type = .txFailed ∧ seen = [.acted action] ∧
        Ready config (ended + 1) next ∧ next.nodeContext.state = .waitInterval := by
  have accounted := accounted_complete ready.accounted .txFailed tick
  have handled : handleEvent config state.nodeContext ⟨.txFailed, none, tick⟩ .zero =
      ⟨true, (completeTransaction state.nodeContext .zero .txFailed tick).1,
        { Action.zero with type := .txFailed }⟩ := by
    simp [handleEvent, waiting, handleWaitTxResult, completeTransaction]
  simp only [notifyTxResult, Bool.false_eq_true, if_false, shows_bind, shows_handle, handled]
  rw [if_neg (by decide), shows_bind, shows_log_terminal, if_pos trivial, shows_restart_interval]
  intro restarted
  exact ⟨_, rfl, rfl, ⟨ready.ready, ready.valid, accounted_interval accounted restarted⟩, rfl⟩

theorem start_receiver_shows (config : AppConfig) (ended : Nat) (state : AppState)
    (ready : Ready config ended state) :
    Shows (startReceiver state) fun seen result =>
      seen = [] ∧ Ready config ended result.2 ∧ result.2.nodeContext = state.nodeContext := by
  rw [startReceiver, shows_bind, shows_invoke]
  intro answer
  exact ⟨rfl, ⟨ready.ready, ready.valid, ready.accounted⟩, rfl⟩

/-- What `LORA_APP_BuildAndTransmit` builds carries the number of the action. -/
theorem built_carries (config : AppConfig) (ended : Nat) (sensor : SensorResult)
    (status : isSensorStatusValid sensor.status = true)
    (valid : NodeState.isNodeAddress config.nodeAddress = true) :
    let built := build ⟨config.nodeAddress, BitVec.ofNat 8 ended, BitVec.ofNat 16 ended, sensor⟩
      (List.replicate maxLength 0) 0
    (built.result = .dataReady ∨ built.result = .errorReady) ∧
      Carries config ended (built.output.take (BitVec.ofNat 8 built.outputLength).toNat) := by
  intro built
  have room : maxLength ≤ (List.replicate maxLength (0 : Byte)).length := by simp
  obtain ⟨success, outcome⟩ := build_eq
    ⟨config.nodeAddress, BitVec.ofNat 8 ended, BitVec.ofNat 16 ended, sensor⟩
    (List.replicate maxLength 0) 0 valid status room
  have length : built.outputLength ≤ maxLength := by
    have fits := response_message_room
      ⟨config.nodeAddress, BitVec.ofNat 8 ended, BitVec.ofNat 16 ended, sensor⟩
    rw [encode_success_iff] at success
    simp only [built, outcome]
    rw [encode_eq _ _ _ success.1 success.2]
    exact fits
  have cast : (BitVec.ofNat 8 built.outputLength).toNat = built.outputLength := by
    rw [BitVec.toNat_ofNat]
    exact Nat.mod_eq_of_lt (Nat.lt_of_le_of_lt length (by decide))
  constructor
  · simp only [built, outcome]
    split_ifs
    · exact Or.inl rfl
    · exact Or.inr rfl
  · rw [cast]
    exact UplinkAck.response_decodes _ _ 0 Message.zero valid status room

theorem build_and_transmit_shows (config : AppConfig) (ended : Nat) (state : AppState)
    (action : Action) (ready : Ready config ended state)
    (waiting : state.nodeContext.state = .waitTxResult)
    (id : action.transactionId = BitVec.ofNat 8 ended)
    (sequence : action.sequence = BitVec.ofNat 16 ended) :
    Shows (buildAndTransmit config state action) (UplinkOutcome config ended) := by
  rw [buildAndTransmit, id, sequence]
  refine shows_seq (read_sensor_shows state) fun before sensor sensed => ?_
  obtain ⟨rfl, status⟩ := sensed
  obtain ⟨kind, carries⟩ := built_carries config ended sensor status ready.valid
  have unready : Ready config ended { state with receiverStarted := false } :=
    ⟨ready.ready, ready.valid, ready.accounted⟩
  simp only
  rw [if_neg (by tauto), shows_bind, shows_invoke_unit]
  rw [shows_bind, shows_invoke]
  intro sent
  rw [shows_bind, shows_invoke]
  intro txCompletedTickMs
  by_cases transmitted : (sent != 0) = true
  · simp only [transmitted, if_true]
    refine shows_seq (notify_succeeded config ended _ unready waiting txCompletedTickMs) ?_
    intro before notified found
    obtain ⟨rfl, notifiedReady, acking⟩ := found
    rw [listenForAck]
    refine shows_seq (start_receiver_shows config ended notified notifiedReady) ?_
    rintro before ⟨started, armed⟩ ⟨rfl, armedReady, same⟩
    have outcome := UplinkOutcome.delivered _ carries armed armedReady (by rw [same, acking])
    cases started
    · simp only [Bool.false_eq_true, if_false, shows_bind, shows_invoke_unit, shows_pure]
      exact outcome
    · simp only [if_true, shows_bind, shows_invoke_unit, shows_pure]
      exact outcome
  · rw [Bool.not_eq_true] at transmitted
    simp only [transmitted, Bool.false_eq_true, if_false]
    refine shows_seq (notify_failed config ended _ unready waiting txCompletedTickMs) ?_
    intro before notified found
    obtain ⟨failed, type, rfl, notifiedReady, idle⟩ := found
    exact .lost _ carries failed type notified notifiedReady idle

/-- The marks of a call that begins in WAIT_INTERVAL. -/
inductive SleepOutcome (config : AppConfig) (ended : Nat) : List Mark → AppState → Prop where
  | halted (next : AppState) (stopped : next.loraReady = false) :
      SleepOutcome config ended [.slept false] next
  | woken (action : Action) (type : action.type = .readSensor) (rest : List Mark)
      (next : AppState) (uplink : UplinkOutcome config ended rest next) :
      SleepOutcome config ended (.slept true :: .acted action :: rest) next

theorem interval_elapsed (config : AppConfig) (context : Context)
    (idle : context.state = .waitInterval) (tick : BitVec 32) :
    handleEvent config context ⟨.intervalElapsed, none, tick⟩ .zero =
      ⟨true,
        { context with
          pendingTransactionId := context.transactionId
          pendingSequence := context.responseSequence
          state := .waitTxResult },
        { Action.zero with
          transactionId := context.transactionId
          sequence := context.responseSequence
          type := .readSensor }⟩ := by
  simp [handleEvent, idle, handleWaitInterval]

theorem sleep_interval_shows (config : AppConfig) (ended : Nat) (state : AppState)
    (ready : Ready config ended state) (idle : state.nodeContext.state = .waitInterval) :
    Shows (sleepInterval config state) (SleepOutcome config ended) := by
  rw [sleepInterval, shows_bind, shows_invoke_unit, shows_bind, shows_invoke]
  intro woken
  cases woken
  · simp only [Bool.not_false, if_true, shows_bind, shows_invoke_unit, shows_pure]
    exact .halted _ rfl
  · simp only [Bool.not_true, Bool.false_eq_true, if_false]
    rw [shows_bind, shows_invoke_unit, shows_bind, shows_invoke]
    intro tick
    have elapsed := interval_elapsed config state.nodeContext idle tick
    have accounted := accounted_transition ready.accounted
      (handle_event_transition config state.nodeContext ⟨.intervalElapsed, none, tick⟩ .zero
        ready.accounted.legal)
    rw [elapsed] at accounted
    simp only [shows_bind, shows_handle, elapsed, handleAction, if_true]
    refine shows_mono (build_and_transmit_shows config ended _ _ ⟨ready.ready, ready.valid,
      accounted⟩ rfl ready.accounted.transactionId ready.accounted.responseSequence) ?_
    intro rest next uplink
    exact .woken _ rfl rest next uplink

/-- The marks of a call that begins in WAIT_ACK. -/
inductive AckOutcome (config : AppConfig) (ended : Nat) : List Mark → AppState → Prop where
  | waiting (next : AppState) (ready : Ready config ended next)
      (state : next.nodeContext.state = .waitAck) : AckOutcome config ended [] next
  | finished (action : Action) (terminal : action.type.terminal = true) (next : AppState)
      (ready : Ready config (ended + 1) next) (state : next.nodeContext.state = .waitInterval) :
      AckOutcome config ended [.acted action] next

theorem wait_ack_event (config : AppConfig) (ended : Nat) (state : AppState)
    (ready : Ready config ended state) (acking : state.nodeContext.state = .waitAck)
    (event : Event) :
    let result := handleEvent config state.nodeContext event .zero
    result.handled = true ∧
      ((result.action.type = .none ∧ result.context = state.nodeContext) ∨
        (result.action.type.terminal = true ∧ result.context.state = .waitInterval ∧
          Accounted config.nodeAddress (ended + 1) result.context)) := by
  intro result
  have window : AckWindow.Window state.nodeContext state.nodeContext.ackStartedTickMs :=
    ⟨acking, rfl⟩
  refine ⟨handle_event_handled config _ event .zero ready.accounted.legal, ?_⟩
  by_cases decisive : AckWindow.Decisive config state.nodeContext
      state.nodeContext.ackStartedTickMs event
  · right
    have decided := AckWindow.decisive_event config window event .zero decisive
    have accounted := fun type => accounted_complete ready.accounted type event.tickMs
    simp only [result, decided]
    refine ⟨?_, rfl, accounted _⟩
    split_ifs <;> rfl
  · obtain ⟨-, same, nothing⟩ := AckWindow.idle_event config window event .zero decisive
    exact Or.inl ⟨nothing, same⟩

theorem handle_action_shows (config : AppConfig) (ended : Nat) (state : AppState)
    (ready : Ready config ended state) (acking : state.nodeContext.state = .waitAck)
    (event : Event) :
    let result := handleEvent config state.nodeContext event .zero
    Shows (handleAction config { state with nodeContext := result.context } result.action)
      fun seen next => AckOutcome config ended (actionMarks result.action ++ seen) next := by
  intro result
  obtain ⟨-, ⟨nothing, same⟩ | ⟨terminal, idle, accounted⟩⟩ :=
    wait_ack_event config ended state ready acking event
  · rw [handleAction, if_neg (by simp [result, nothing]), shows_bind, shows_log_terminal,
      if_neg (by simp [result, nothing]), shows_pure, actionMarks, if_pos nothing]
    exact .waiting _ ⟨ready.ready, ready.valid, by rw [same]; exact ready.accounted⟩
      (by simp only [result, same, acking])
  · have ends := (ActionType.terminal_iff result.action.type).mp terminal
    obtain ⟨notNone, notSample⟩ := ActionType.terminal_acts terminal
    rw [handleAction, if_neg notSample, shows_bind, shows_log_terminal, if_pos ends,
      shows_restart_interval, actionMarks, if_neg notNone]
    intro tick
    exact .finished _ terminal _
      ⟨ready.ready, ready.valid, accounted_interval accounted tick⟩ idle

end LoraNode.AppTrace
