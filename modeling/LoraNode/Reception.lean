import LoraNode.Sx1278

/-!
# The radio in the ACK window

The radio stores a packet and raises RxDone between any two accesses of the
node while it is in RxContinuous. A monitor follows the packets the node owes
an answer: those that raise RxDone while DIO0 is low, outside
`SX1278_LoRaRxPacket`, with no earlier packet left in the receive buffer.
-/

namespace LoraNode.Reception

open LoraNode.Foundation LoraNode.Foundation.Bytes LoraNode.NodeState LoraNode.LoraApp
  LoraNode.Sx1278

structure Packet where
  bytes : List Byte
  start : Byte
  short : bytes.length < 256
  deriving DecidableEq

structure Radio where
  registers : Byte → Byte
  fifo : Byte → Byte

def Radio.put (radio : Radio) (address value : Byte) : Radio :=
  { radio with registers := Function.update radio.registers address value }

/-- Flags are cleared by writing ones to them. -/
def Radio.write (radio : Radio) (address value : Byte) : Radio :=
  if address = regIrqFlags then radio.put address (radio.registers address &&& ~~~value)
  else radio.put address value

def Radio.rxDone (radio : Radio) : Bool := (radio.registers regIrqFlags).getLsbD 6

/-- DIO0 shows RxDone or TxDone, as RegDioMapping1 selects. -/
def Radio.dio0 (radio : Radio) : Bool :=
  if radio.registers regDioMapping1 >>> 6 = 0 then radio.rxDone
  else if radio.registers regDioMapping1 >>> 6 = 1 then
    (radio.registers regIrqFlags).getLsbD 3
  else false

def Radio.listening (radio : Radio) : Bool := radio.registers regOpMode &&& 0x87 = 0x85

/-- A burst read of the FIFO, which advances the address pointer. -/
def Radio.burst (radio : Radio) (length : Byte) : List Byte × Radio :=
  let pointer := radio.registers regFifoAddrPtr
  ((List.range length.toNat).map fun offset => radio.fifo (pointer + BitVec.ofNat 8 offset),
    radio.put regFifoAddrPtr (pointer + length))

/-- The end of a reception: the packet is in the FIFO and RxDone is raised. -/
def Radio.complete (radio : Radio) (packet : Packet) : Radio :=
  let stored : Radio :=
    { radio with
      fifo := fun place =>
        if (place - packet.start).toNat < packet.bytes.length then
          packet.bytes.getD (place - packet.start).toNat 0
        else radio.fifo place }
  ((stored.put regFifoRxCurrentaddr packet.start).put regRxNbBytes
    (BitVec.ofNat 8 packet.bytes.length)).put regIrqFlags (radio.registers regIrqFlags ||| 0x40)

def Packet.apart (packet later : Packet) : Bool :=
  (List.range packet.bytes.length).all fun offset =>
    later.bytes.length ≤ (packet.start + BitVec.ofNat 8 offset - later.start).toNat

/-- Where the packet the node owes an answer is. It is located once its start and then
its length have been read, and buffered once it is in `rxBuffer`. -/
inductive Owed where
  | nothing
  | raised (packet : Packet)
  | located (packet : Packet)
  | buffered (packet : Packet)
  deriving DecidableEq

/-- The monitor reads the accesses and calls of the node; the node never reads it. -/
structure Monitor where
  /-- `SX1278_LoRaRxPacket` is executing. -/
  receiving : Bool
  /-- A packet is in `rxBuffer` and `SX1278_read` has not taken it out. -/
  unread : Bool
  /-- RegOpMode has been written since the last `SX1278_read`. -/
  armed : Bool
  owed : Owed
  /-- Every packet that ever became owed, the last one first. -/
  due : List Packet
  lost : List Packet
  /-- The owed packets the state machine was given, the last one first. -/
  handed : List Packet
  ended : List ActionType
  /-- Every reception so far met `Monitor.admits`. -/
  admitted : Bool
  deriving DecidableEq

def Monitor.owes (monitor : Monitor) (radio : Radio) : Bool :=
  monitor.ended.isEmpty && !radio.dio0 && !monitor.receiving && !monitor.unread

def Owed.packets : Owed → List Packet
  | .nothing => []
  | .raised packet => [packet]
  | .located packet => [packet]
  | .buffered packet => [packet]

def Owed.waits : Owed → Bool
  | .raised _ => true
  | .located _ => true
  | .nothing => false
  | .buffered _ => false

def Owed.spared (owed : Owed) (later : Packet) : Bool :=
  match owed with
  | .raised _ => false
  | .located packet => packet.apart later
  | .nothing => true
  | .buffered _ => true

/-- Until the cycle ends, an owed packet that is still in the FIFO has been located and
stays as it is, and a packet that becomes owed has two bytes or more and does not fall
between `SX1278_read` and the standby write of the re-arm. -/
def Monitor.admits (monitor : Monitor) (radio : Radio) (packet : Packet) : Bool :=
  !monitor.ended.isEmpty || (monitor.owed.spared packet &&
    (!monitor.owes radio || (monitor.armed && decide (2 ≤ packet.bytes.length))))

def Monitor.raise (monitor : Monitor) (radio : Radio) (packet : Packet) : Monitor :=
  { monitor with
    owed := if monitor.owes radio then .raised packet else monitor.owed
    due := if monitor.owes radio then packet :: monitor.due else monitor.due
    admitted := monitor.admitted && monitor.admits radio packet }

structure Air where
  radio : Radio
  monitor : Monitor
  moment : Nat

/-- The packets on the air and the answers of the clock, by moment. -/
structure Environment where
  arrival : Nat → Option Packet
  tick : Nat → BitVec 32

def Air.receive (env : Environment) (air : Air) : Air :=
  match env.arrival air.moment with
  | none => { air with moment := air.moment + 1 }
  | some packet =>
      if air.radio.listening then
        { radio := air.radio.complete packet
          monitor := air.monitor.raise air.radio packet
          moment := air.moment + 1 }
      else { air with moment := air.moment + 1 }

/-- Clearing RxDone loses an owed packet that has not been read. -/
def Monitor.wrote (monitor : Monitor) (address value : Byte) : Monitor :=
  if address = regOpMode then { monitor with armed := true }
  else if address = regIrqFlags ∧ value.getLsbD 6 = true then
    match monitor.owed with
    | .raised packet => { monitor with owed := .nothing, lost := packet :: monitor.lost }
    | .located packet => { monitor with owed := .nothing, lost := packet :: monitor.lost }
    | .buffered _ => monitor
    | .nothing => monitor
  else monitor

/-- `SX1278_LoRaRxPacket` reads RegFifoRxCurrentaddr first and RegRxNbBytes last. -/
def Monitor.looked (monitor : Monitor) (address : Byte) : Monitor :=
  if address = regRxNbBytes then
    match monitor.owed with
    | .raised packet => { monitor with owed := .located packet }
    | .located _ => monitor
    | .buffered _ => monitor
    | .nothing => monitor
  else monitor

/-- A burst into `rxBuffer` reads the owed packet when it brings its bytes. -/
def Monitor.fetched (monitor : Monitor) (bytes : List Byte) : Monitor :=
  match monitor.owed with
  | .raised packet =>
      if bytes = packet.bytes then { monitor with owed := .buffered packet } else monitor
  | .located packet =>
      if bytes = packet.bytes then { monitor with owed := .buffered packet } else monitor
  | .buffered _ => monitor
  | .nothing => monitor

def Monitor.took (monitor : Monitor) (frame : List Byte) : Monitor :=
  match monitor.owed with
  | .buffered packet =>
      if frame = packet.bytes then
        { monitor with owed := .nothing, handed := packet :: monitor.handed }
      else { monitor with owed := .nothing, lost := packet :: monitor.lost }
  | .raised _ => monitor
  | .located _ => monitor
  | .nothing => monitor

def Monitor.met (monitor : Monitor) (event : Event) : Monitor :=
  match event.type, event.frame with
  | .frameReceived, some frame => monitor.took frame
  | _, _ => monitor

def Monitor.noted (monitor : Monitor) (type : ActionType) : Monitor :=
  if type = .none then monitor else { monitor with ended := type :: monitor.ended }

def Monitor.saw (monitor : Monitor) (event : Event) (result : HandleResult) : Monitor :=
  (monitor.met event).noted result.action.type

def Air.answer (air : Air) {Reply : Type} : Bus Reply → Reply × Air
  | .spiRead address =>
      (air.radio.registers address, { air with monitor := air.monitor.looked address })
  | .spiWrite address value =>
      ((), { air with
        radio := air.radio.write address value
        monitor := air.monitor.wrote address value })
  | .burstRead _ length =>
      let burst := air.radio.burst length
      (burst.1, { air with radio := burst.2, monitor := air.monitor.fetched burst.1 })
  | .getDio0 => (air.radio.dio0, air)

/-- Accesses to the radio, each after an opportunity to receive. -/
def bus (env : Environment) {Reply : Type} (air : Air) (call : Bus Reply) : Reply × Air :=
  (air.receive env).answer call

structure Bench where
  module : Module
  air : Air

def Bench.receive (env : Environment) (bench : Bench) : Bench :=
  { bench with air := bench.air.receive env }

/-- The calls of the application. Only calls of the ACK window matter here; the
others are answered like calls that work. -/
def drive (env : Environment) {Reply : Type} (bench : Bench) : Call Reply → Reply × Bench
  | .nowMs => (env.tick bench.air.moment, bench.receive env)
  | .receive length =>
      let ran := (Sx1278.receive bench.module length).simulate (bus env) bench.air
      (ran.1.1, ⟨ran.1.2, ran.2⟩)
  | .available =>
      let air := bench.air.receive env
      let ran := (Sx1278.available bench.module).simulate (bus env)
        { air with monitor := { air.monitor with receiving := true } }
      (ran.1.1, ⟨ran.1.2, { ran.2 with
        monitor := { ran.2.monitor with receiving := false, unread := ran.1.2.readBytes != 0 } }⟩)
  | .read length =>
      let air := bench.air.receive env
      let answer := Sx1278.read bench.module length
      (answer.1, ⟨answer.2, { air with
        monitor := { air.monitor with unread := false, armed := false } }⟩)
  | .handled event result =>
      ((), { bench with
        air := { bench.air with monitor := bench.air.monitor.saw event result } })
  | .log _ => ((), bench.receive env)
  | .printFrame _ _ _ => ((), bench.receive env)
  | .delayMs _ => ((), bench.receive env)
  | .timeInitialize => (true, bench.receive env)
  | .powerInitialize => (true, bench.receive env)
  | .dht11Init => (true, bench.receive env)
  | .radioInit _ _ _ _ _ _ _ => ((), bench.receive env)
  | .spiRead _ => (expectedVersion, bench.receive env)
  | .sleep _ => (true, bench.receive env)
  | .dht11Read => (true, bench.receive env)
  | .dht11GetTemperature => (none, bench.receive env)
  | .dht11GetHumidity => (none, bench.receive env)
  | .transmit _ _ _ => (1, bench.receive env)
  | .disableIrq _ => ((), bench.receive env)
  | .standbyModeEnter => ((), bench.receive env)

/-- `LORA_APP_Tasks`, called while the node waits for its ACK. -/
def window (config : AppConfig) : Nat → AppState → App AppState
  | 0, state => pure state
  | calls + 1, state => do
      if state.nodeContext.state = .waitAck then
        let state ← tasks config state
        window config calls state
      else return state

def awaitAck (config : AppConfig) (calls : Nat) (state : AppState) : App AppState := do
  let state ← listenForAck state
  window config calls state

def Monitor.opened : Monitor where
  receiving := false
  unread := false
  armed := false
  owed := .nothing
  due := []
  lost := []
  handed := []
  ended := []
  admitted := true

/-- What a successful transmission leaves. The packet has an explicit header
unless the spreading factor is 6. -/
structure Opening (state : AppState) (bench : Bench) : Prop where
  ready : state.loraReady = true
  waiting : state.nodeContext.state = .waitAck
  explicit : bench.module.loraSf ≠ loraSf6
  monitor : bench.air.monitor = .opened

end LoraNode.Reception
