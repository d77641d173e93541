import LoraNode.AppLoop
import LoraNode.ErrorDetection
import LoraNode.Foundation.Parallel

/-!
# Nodes and a gateway on one channel

Every node runs `LORA_APP_Initialize` once and `LORA_APP_Tasks` for ever, call by
call between the calls of the others. The channel loses, delays, reorders, repeats
and damages frames. The gateway is not part of the firmware: it may ACK what it has
accepted, to its source and under its ID and Seq, whenever and as often as it likes.
-/

namespace LoraNode.Network

open LoraNode.Foundation LoraNode.Foundation.Program LoraNode.Foundation.Bytes
  LoraNode.Foundation.BinaryPolynomial LoraNode.Foundation.ShiftRegister
  LoraNode.Foundation.Interference LoraNode.NodePacket LoraNode.NodeState LoraNode.LoraApp
  LoraNode.AppTrace LoraNode.AppLoop LoraNode.ErrorDetection

def Reads (bytes : List Byte) (packet : Message) : Prop :=
  decode (some bytes) Message.zero = (true, packet)

theorem reads_iff (bytes : List Byte) (packet : Message) :
    Reads bytes packet ↔ parse bytes = some packet := by
  rw [Reads, decode_eq_parse]
  cases parse bytes <;> simp

theorem reads_unique {bytes : List Byte} {first second : Message} (left : Reads bytes first)
    (right : Reads bytes second) : first = second :=
  (Prod.mk.inj (left.symm.trans right)).2

/-- What a receiver may take for a frame while these are on the air. -/
inductive Heard (air : List (List Byte)) : List Byte → Prop where
  | whole (frame : List Byte) (member : frame ∈ air) : Heard air frame
  | damaged (frame mask : List Byte) (packet : Message) (member : frame ∈ air)
      (framed : Reads frame packet) (length : mask.length = frame.length)
      (hit : ∃ byte ∈ mask, byte ≠ 0) (detectable : Detectable mask) :
      Heard air (corrupt frame mask)
  | cut (frame part : List Byte) (packet : Message) (member : frame ∈ air)
      (framed : Reads frame packet) (starts : part <+: frame) : Heard air part
  | noise (bytes : List Byte) (meaningless : ∀ packet, ¬Reads bytes packet) : Heard air bytes

/-- What each node has shown, the frames sent so far and the uplinks the gateway has
accepted, each with the oldest first. -/
structure World (Node : Type) where
  shown : Node → List Mark
  air : List (List Byte)
  accepted : List Message

variable {Node : Type}

def World.frames (world : World Node) (node : Node) : List (List Byte) :=
  sends (world.shown node)

def endings (seen : List Mark) : List Action :=
  seen.filterMap fun mark => match mark with
    | .acted action => if action.type.terminal then some action else none
    | .slept _ => none
    | .sent _ => none

def World.endings (world : World Node) (node : Node) : List Action :=
  Network.endings (world.shown node)

/-- What a call of a node has to do with the air. A transmission that is reported to
have failed may have been heard all the same. -/
def Radiates {Reply : Type} (call : Call Reply) (answer : Reply)
    (air later : List (List Byte)) : Prop :=
  match call, answer with
  | .transmit frame length _, sent =>
      later = air ++ [frame.take length.toNat] ∨ sent = 0 ∧ later = air
  | .read _, received => later = air ∧ Heard air (received.frame.take received.count.toNat)
  | .timeInitialize, _ => later = air
  | .powerInitialize, _ => later = air
  | .dht11Init, _ => later = air
  | .radioInit _ _ _ _ _ _ _, _ => later = air
  | .spiRead _, _ => later = air
  | .nowMs, _ => later = air
  | .sleep _, _ => later = air
  | .dht11Read, _ => later = air
  | .dht11GetTemperature, _ => later = air
  | .dht11GetHumidity, _ => later = air
  | .receive _, _ => later = air
  | .available, _ => later = air
  | .delayMs _, _ => later = air
  | .log _, _ => later = air
  | .printFrame _ _ _, _ => later = air
  | .disableIrq _, _ => later = air
  | .standbyModeEnter, _ => later = air
  | .handled _ _, _ => later = air

inductive GatewayStep (world : World Node) : World Node → Prop where
  | accept (bytes : List Byte) (packet : Message) (heard : Heard world.air bytes)
      (reads : Reads bytes packet) (uplink : packet.type = .data ∨ packet.type = .error) :
      GatewayStep world { world with accepted := world.accepted ++ [packet] }
  | acknowledge (packet ack : Message) (frame : List Byte) (member : packet ∈ world.accepted)
      (reads : Reads frame ack) (type : ack.type = .ack)
      (destination : ack.destination = packet.source)
      (id : ack.transactionId = packet.transactionId)
      (sequence : ack.sequence = packet.sequence) :
      GatewayStep world { world with air := world.air ++ [frame] }
  | poll (frame : List Byte) (other : ∀ packet, Reads frame packet → packet.type = .poll) :
      GatewayStep world { world with air := world.air ++ [frame] }

variable [DecidableEq Node]

/-- `LORA_APP_Tasks` of every node, and the gateway. -/
def system (config : Node → AppConfig) : Parallel.System Node (World Node) Call AppState where
  answers node world call answer next :=
    Radiates call answer world.air next.air ∧
      next.shown = Function.update world.shown node
        (world.shown node ++ (markOf call answer).toList) ∧
      next.accepted = world.accepted
  moves := GatewayStep
  body node state := tasks (config node) state

/-- `LORA_APP_Initialize`, whose result `main` does not look at. -/
def startNode (config : AppConfig) (static : AppState) : App AppState := do
  let result ← initializeApp config static
  return result.2

def powerUp (config : Node → AppConfig) (static : Node → AppState) :
    Parallel.Configuration Node (World Node) Call AppState where
  programs node := startNode (config node) (static node)
  state := ⟨fun _ => [], [], []⟩

section Heard

variable {air : List (List Byte)}

theorem damaged_rejected {frame mask : List Byte} {packet : Message} (framed : Reads frame packet)
    (length : mask.length = frame.length) (hit : ∃ byte ∈ mask, byte ≠ 0)
    (detectable : Detectable mask) (other : Message) : ¬Reads (corrupt frame mask) other := by
  intro accepted
  rw [reads_iff] at framed accepted
  have lengths : frame.length = (corrupt frame mask).length := by
    rw [corrupt, List.length_zipWith, length, Nat.min_self]
  have multiple := accepted_differ frame _ packet other framed accepted lengths
  have error : ofBits (messageBits mask) =
      ofBits (messageBits frame) +
        ofBits
          (messageBits (corrupt frame mask)) := by
    have bits : (messageBits frame).length =
        (messageBits mask).length := by
      rw [messageBits_length,
        messageBits_length, length]
    rw [corrupt, messageBits_xor _ _ length.symm,
      ofBits_xor _ _ bits, ← add_assoc, CharTwo.add_self_eq_zero,
      zero_add]
  have short := (accepted_length frame packet framed).2.1
  rw [← error] at multiple
  exact detectable_not_multiple mask hit (by omega) detectable multiple

/-- What the codec accepts was sent as it was heard. -/
theorem heard_whole {bytes : List Byte} {packet : Message} (heard : Heard air bytes)
    (reads : Reads bytes packet) : bytes ∈ air := by
  cases heard with
  | whole _ member => exact member
  | damaged frame mask sent member framed length hit detectable =>
      exact absurd reads (damaged_rejected framed length hit detectable packet)
  | cut frame _ sent member framed starts =>
      have same : bytes = frame := accepted_prefix_eq bytes frame packet sent
        ((reads_iff _ _).mp reads) ((reads_iff _ _).mp framed) starts
      rwa [same]
  | noise _ meaningless => exact absurd reads (meaningless packet)

end Heard

end LoraNode.Network
