import LoraNode.Foundation.Program
import LoraNode.NodeResponse
import LoraNode.NodeState

/-!
# The application (`lora_app.c`)

Every driver call is a call of the program, in the order of the source. The
static variables are passed as a value. Sensor floats are exact rationals.
`NODE_STATE_HandleEvent` runs inside the program and is recorded in its trace.
Names leave out the prefix `LORA_APP_`.
-/

namespace LoraNode.LoraApp

open LoraNode.Foundation LoraNode.Foundation.Program LoraNode.Foundation.Bytes LoraNode.NodePacket
  LoraNode.NodeResponse LoraNode.NodeState

def packetLength : Byte := 64
def idleDelayMs : BitVec 32 := 1
def versionRegister : Byte := 0x42
def expectedVersion : Byte := 0x12

inductive Irq where
  | rtc
  | sercom1
  | sercom5
  deriving DecidableEq

/-- `SX1278_read` returns a count and fills the caller's 256-byte buffer. -/
structure ReadAnswer where
  count : Byte
  frame : List Byte
  size : frame.length = 256

theorem empty_frame_size : (List.replicate 256 (0 : Byte)).length = 256 := List.length_replicate

/-- The calls `lora_app.c` makes, by what they return; a getter that fails
writes nothing. `handled` records what the state machine did. -/
inductive Call : Type → Type where
  | timeInitialize : Call Bool
  | powerInitialize : Call Bool
  | dht11Init : Call Bool
  | radioInit (frequency : BitVec 64) (power sf bw cr crcSum packetLength : Byte) : Call Unit
  | spiRead (address : Byte) : Call Byte
  | nowMs : Call (BitVec 32)
  | sleep (intervalMs : BitVec 32) : Call Bool
  | dht11Read : Call Bool
  | dht11GetTemperature : Call (Option Rat)
  | dht11GetHumidity : Call (Option Rat)
  | transmit (frame : List Byte) (length : Byte) (timeoutMs : BitVec 32) : Call (BitVec 32)
  | receive (length : Byte) : Call (BitVec 32)
  | available : Call Byte
  | read (length : Byte) : Call ReadAnswer
  | delayMs (ms : BitVec 32) : Call Unit
  | log (text : String) : Call Unit
  | printFrame (direction : String) (frame : List Byte) (length : Nat) : Call Unit
  | disableIrq (irq : Irq) : Call Unit
  | standbyModeEnter : Call Unit
  | handled (event : Event) (result : HandleResult) : Call Unit

abbrev App := Program Call

def invoke {Reply : Type} (call : Call Reply) : App Reply := perform call

/-- The static variables of `lora_app.c` that outlive a call. -/
structure AppState where
  nodeContext : Context
  loraReady : Bool
  dht11Ready : Bool
  receiverStarted : Bool
  deriving DecidableEq

def handle (config : AppConfig) (state : AppState) (event : Event) :
    App (HandleResult × AppState) := do
  let result := handleEvent config state.nodeContext event .zero
  invoke (.handled event result)
  return (result, { state with nodeContext := result.context })

/-- A C cast of a float: truncation towards zero. -/
def truncate (value : Rat) : Int := if 0 ≤ value then value.floor else value.ceil

def readSensor (state : AppState) : App SensorResult := do
  if !state.dht11Ready then return ⟨.initFailed, 0, 0⟩
  else
    let measured ← invoke .dht11Read
    if !measured then return ⟨.readFailed, 0, 0⟩
    else
      match ← invoke .dht11GetTemperature with
      | none => return ⟨.valueInvalid, 0, 0⟩
      | some temperature =>
          match ← invoke .dht11GetHumidity with
          | none => return ⟨.valueInvalid, 0, 0⟩
          | some humidity =>
              if temperature < -3276.8 ∨ temperature > 3276.7 ∨ humidity < 0 ∨ humidity > 100 then
                return ⟨.valueInvalid, 0, 0⟩
              else
                let half : Rat := if 0 ≤ temperature then 0.5 else -0.5
                return ⟨.ok, BitVec.ofInt 16 (truncate (temperature * 10 + half)),
                  BitVec.ofInt 16 (truncate (humidity * 10 + 0.5))⟩

def startReceiver (state : AppState) : App (Bool × AppState) := do
  let received ← invoke (.receive packetLength)
  return (received != 0, { state with receiverStarted := received != 0 })

def logTerminalAction (action : Action) : App Unit :=
  match action.type with
  | .transactionComplete => invoke (.log "status: ACK accepted\r\n")
  | .ackTimeout => invoke (.log "status: ACK timeout\r\n")
  | .txFailed => invoke (.log "error: LoRa TX failed\r\n")
  | .none => pure ()
  | .readSensor => pure ()

/-- `nodeContext.interval_started_tick_ms = LORA_APP_TIME_NowMs()`. -/
def restartInterval (state : AppState) : App AppState := do
  let tick ← invoke .nowMs
  return { state with nodeContext := { state.nodeContext with intervalStartedTickMs := tick } }

def notifyTxResult (config : AppConfig) (state : AppState) (succeeded : Bool)
    (tickMs : BitVec 32) : App AppState := do
  let type : EventType := if succeeded then .txSucceeded else .txFailed
  let (result, state) ← handle config state ⟨type, none, tickMs⟩
  if !result.handled then
    invoke (.log "error: state rejected TX result\r\n")
    return state
  else
    logTerminalAction result.action
    if result.action.type = .txFailed then restartInterval state else return state

/-- The end of `LORA_APP_BuildAndTransmit` after a transmission. -/
def listenForAck (state : AppState) : App AppState := do
  let (started, state) ← startReceiver state
  if started then
    invoke (.log "status: RX ready, waiting for ACK\r\n")
    return state
  else
    invoke (.log "error: receiver start failed after TX\r\n")
    return state

/-- `LORA_APP_BuildAndTransmit`. The frame buffer is 64 bytes of stack. -/
def buildAndTransmit (config : AppConfig) (state : AppState) (action : Action) :
    App AppState := do
  let sensor ← readSensor state
  let request : Request := ⟨config.nodeAddress, action.transactionId, action.sequence, sensor⟩
  let built := build request (List.replicate maxLength 0) 0
  if built.result ≠ .dataReady ∧ built.result ≠ .errorReady then
    invoke (.log "error: response build failed\r\n")
    let tick ← invoke .nowMs
    notifyTxResult config state false tick
  else
    invoke (.printFrame "tx" built.output built.outputLength)
    let sent ← invoke (.transmit built.output (BitVec.ofNat 8 built.outputLength)
      config.txTimeoutMs)
    let txCompletedTickMs ← invoke .nowMs
    let transmitted := sent != 0
    let state ← notifyTxResult config { state with receiverStarted := false } transmitted
      txCompletedTickMs
    if transmitted then listenForAck state else return state

def handleAction (config : AppConfig) (state : AppState) (action : Action) : App AppState := do
  if action.type = .readSensor then buildAndTransmit config state action
  else
    logTerminalAction action
    if action.type = .transactionComplete ∨ action.type = .ackTimeout ∨
        action.type = .txFailed then
      restartInterval state
    else return state

def idleTick (config : AppConfig) (state : AppState) : App AppState := do
  let tick ← invoke .nowMs
  let (result, state) ← handle config state ⟨.timerTick, none, tick⟩
  if result.handled then
    let state ← handleAction config state result.action
    if result.action.type = .none then
      invoke (.delayMs idleDelayMs)
      return state
    else return state
  else return state

def sleepInterval (config : AppConfig) (state : AppState) : App AppState := do
  let state := { state with receiverStarted := false }
  invoke (.log ("status: sleep, RTC wake in " ++ toString config.sleepIntervalMs.toNat ++
    " ms\r\n"))
  let slept ← invoke (.sleep config.sleepIntervalMs)
  if !slept then
    invoke (.log "error: sleep preparation failed; node halted\r\n")
    return { state with loraReady := false }
  else
    invoke (.log "status: RTC wakeup\r\n")
    let tick ← invoke .nowMs
    let (result, state) ← handle config state ⟨.intervalElapsed, none, tick⟩
    if result.handled then handleAction config state result.action else return state

def AppState.zero : AppState where
  nodeContext := ⟨.waitInterval, 0, 0, 0, 0, 0, 0, 0⟩
  loraReady := false
  dht11Ready := false
  receiverStarted := false

/-- `LORA_APP_Initialize` from `SX1278_init` on. -/
def initializeNode (config : AppConfig) (state : AppState) : App (Bool × AppState) := do
  invoke (.radioInit config.frequencyHz config.radioPower config.radioSf config.radioBw
    config.radioCr config.radioCrc packetLength)
  let version ← invoke (.spiRead versionRegister)
  let state := { state with loraReady := version == expectedVersion }
  if !state.loraReady then
    invoke (.log "error: SX1278 was not detected; check power and SPI wiring\r\n")
    return (false, state)
  else
    invoke (.log ("status: sensor node ready, first uplink in " ++
      toString config.sleepIntervalMs.toNat ++ " ms\r\n"))
    let tick ← invoke .nowMs
    let (started, nodeContext) := initializeContext state.nodeContext config.nodeAddress tick
    if !started then return (false, { state with loraReady := false })
    else return (true, { state with nodeContext := nodeContext })

def initializeApp (config : AppConfig) (state : AppState) : App (Bool × AppState) := do
  let state := { state with loraReady := false, dht11Ready := false, receiverStarted := false }
  let timeReady ← invoke .timeInitialize
  if !timeReady then
    invoke (.log "error: elapsed timer initialization failed\r\n")
    return (false, state)
  else
    let powerReady ← invoke .powerInitialize
    if !powerReady then
      invoke (.log "error: RTC power initialization failed\r\n")
      return (false, state)
    else
      invoke (.log "\r\nstatus: initializing LoRa-02\r\n")
      let dht11Ready ← invoke .dht11Init
      if !dht11Ready then invoke (.log "error: DHT11 initialization failed\r\n")
      initializeNode config { state with dht11Ready := dht11Ready }

/-- The branch of `LORA_APP_Tasks` for a node that is not ready. -/
def haltedTask (state : AppState) : App AppState := do
  invoke (.disableIrq .rtc)
  invoke (.disableIrq .sercom1)
  invoke (.disableIrq .sercom5)
  invoke .standbyModeEnter
  return state

/-- What `LORA_APP_Tasks` logs about a frame the state machine has handled. -/
def logReceived (received : ReadAnswer) (action : Action) : App Unit := do
  if received.count.toNat ≤ maxLength then
    invoke (.printFrame "rx" received.frame received.count.toNat)
  else
    invoke (.log ("error: rejected RX frame len=" ++ toString received.count.toNat ++ "\r\n"))
  if action.ignoreReason ≠ .none then invoke (.log "status: RX frame ignored\r\n")

/-- The end of `LORA_APP_Tasks`: poll the radio and hand over a frame. -/
def pollReceiver (config : AppConfig) (state : AppState) : App AppState := do
  let bytesReceived ← invoke .available
  if bytesReceived = 0 then idleTick config state
  else
    let tick ← invoke .nowMs
    let received ← invoke (.read bytesReceived)
    let state := { state with receiverStarted := false }
    let frame := received.frame.take received.count.toNat
    let (result, state) ← handle config state ⟨.frameReceived, some frame, tick⟩
    if !result.handled then
      invoke (.log "error: state rejected RX event\r\n")
      return state
    else
      logReceived received result.action
      handleAction config state result.action

def waitAckTask (config : AppConfig) (state : AppState) : App AppState := do
  let tick ← invoke .nowMs
  let (result, state) ← handle config state ⟨.timerTick, none, tick⟩
  if result.handled ∧ result.action.type ≠ .none then handleAction config state result.action
  else if !state.receiverStarted then
    let (started, state) ← startReceiver state
    if !started then
      invoke (.log "error: receiver start failed\r\n")
      idleTick config state
    else pollReceiver config state
  else pollReceiver config state

def tasks (config : AppConfig) (state : AppState) : App AppState :=
  if !state.loraReady then haltedTask state
  else if state.nodeContext.state = .waitInterval then sleepInterval config state
  else if state.nodeContext.state ≠ .waitAck then idleTick config state
  else waitAckTask config state

end LoraNode.LoraApp
