import LoraNode.Crc16

/-!
# Packet V1 codec (`node_packet.c`, `node_packet.h`)

Buffers are the lists of their bytes, so a capacity is a length. Pointers are
values; the NULL guards have a counterpart only where the program passes NULL,
which is the frame of an event that carries none. Names leave out the prefix
`LORA_PACKET_`.
-/

namespace LoraNode.NodePacket

open LoraNode.Foundation.Bytes LoraNode.Crc16

def gatewayAddress : Byte := 0x00
def minNodeAddress : Byte := 0x01
def maxNodeAddress : Byte := 0xFE

def minLength : Nat := 9
def maxLength : Nat := 64
def maxPayloadLength : Nat := 55
def dataPayloadLength : Byte := 4
def errorPayloadLength : Byte := 1

def typeOffset : Nat := 0
def sourceOffset : Nat := 1
def destinationOffset : Nat := 2
def idOffset : Nat := 3
def lengthOffset : Nat := 4
def payloadOffset : Nat := 5
def sequenceSize : Nat := 2

/-- `LORA_PACKET_Type`: the four enumerators and whatever else the object holds,
of any width. -/
inductive PacketType where
  | poll
  | data
  | ack
  | error
  | other (value : Nat) (unnamed : value ≠ 1 ∧ value ≠ 2 ∧ value ≠ 3 ∧ value ≠ 4)
  deriving DecidableEq

def PacketType.ofByte (value : Byte) : PacketType :=
  if poll : value = 1 then .poll
  else if data : value = 2 then .data
  else if ack : value = 3 then .ack
  else if error : value = 4 then .error
  else .other value.toNat
    ⟨fun same => poll (BitVec.eq_of_toNat_eq same), fun same => data (BitVec.eq_of_toNat_eq same),
      fun same => ack (BitVec.eq_of_toNat_eq same), fun same => error (BitVec.eq_of_toNat_eq same)⟩

def PacketType.toByte : PacketType → Byte
  | .poll => 1
  | .data => 2
  | .ack => 3
  | .error => 4
  | .other value _ => BitVec.ofNat 8 value

def PacketType.InByte (type : PacketType) : Prop := ofByte type.toByte = type

@[simp] theorem PacketType.toByte_ofByte (value : Byte) : (ofByte value).toByte = value := by
  unfold ofByte
  split_ifs <;> simp_all [toByte]

inductive ErrorCode where
  | dhtInitFailed
  | dhtReadFailed
  | dhtValueInvalid
  | packetBuildFailed
  deriving DecidableEq

def ErrorCode.toByte : ErrorCode → Byte
  | .dhtInitFailed => 1
  | .dhtReadFailed => 2
  | .dhtValueInvalid => 3
  | .packetBuildFailed => 4

/-- `LORA_PACKET_Message`. The payload storage always has its 55 bytes. -/
@[ext] structure Message where
  type : PacketType
  source : Byte
  destination : Byte
  transactionId : Byte
  payloadLength : Byte
  payload : List Byte
  sequence : BitVec 16
  payloadSize : payload.length = maxPayloadLength
  deriving DecidableEq

def Message.zero : Message where
  type := .ofByte 0
  source := 0
  destination := 0
  transactionId := 0
  payloadLength := 0
  payload := List.replicate maxPayloadLength 0
  sequence := 0
  payloadSize := by simp

def isNodeAddress (address : Byte) : Bool :=
  minNodeAddress ≤ address && address ≤ maxNodeAddress

def isKnownErrorCode (errorCode : Byte) : Bool :=
  ErrorCode.dhtInitFailed.toByte ≤ errorCode && errorCode ≤ ErrorCode.packetBuildFailed.toByte

def isMessageValid (message : Message) : Bool :=
  if maxPayloadLength < message.payloadLength.toNat then false
  else
    match message.type with
    | .poll =>
        message.source == gatewayAddress && isNodeAddress message.destination &&
          message.payloadLength == 0 && message.sequence == 0
    | .data =>
        isNodeAddress message.source && message.destination == gatewayAddress &&
          message.payloadLength == dataPayloadLength
    | .ack =>
        message.source == gatewayAddress && isNodeAddress message.destination &&
          message.payloadLength == 0
    | .error =>
        isNodeAddress message.source && message.destination == gatewayAddress &&
          message.payloadLength == errorPayloadLength &&
          isKnownErrorCode (message.payload.getD 0 0)
    | .other _ _ => false

/-- The temporary frame up to and including Seq. The source leaves it
uninitialised, but no byte is copied out before it is written. -/
def writeHeaderPayloadSequence (message : Message) : List Byte :=
  let frame := List.replicate maxLength 0
  let frame := frame.set typeOffset message.type.toByte
  let frame := frame.set sourceOffset message.source
  let frame := frame.set destinationOffset message.destination
  let frame := frame.set idOffset message.transactionId
  let frame := frame.set lengthOffset message.payloadLength
  let frame := copyInto frame payloadOffset message.payload message.payloadLength.toNat
  let sequenceOffset := payloadOffset + message.payloadLength.toNat
  let frame := frame.set sequenceOffset (highByte message.sequence)
  frame.set (sequenceOffset + 1) (lowByte message.sequence)

structure EncodeResult where
  success : Bool
  output : List Byte
  outputLength : Nat
  deriving DecidableEq

def encode (message : Message) (output : List Byte) (outputLength : Nat) : EncodeResult :=
  let unchanged : EncodeResult := ⟨false, output, outputLength⟩
  if !isMessageValid message then unchanged
  else
    let frameLength := minLength + message.payloadLength.toNat
    if output.length < frameLength then unchanged
    else
      let frame := writeHeaderPayloadSequence message
      let crcOffset := payloadOffset + message.payloadLength.toNat + sequenceSize
      match calculateCcittFalse (some frame) crcOffset with
      | none => unchanged
      | some crc =>
          let frame := frame.set crcOffset (highByte crc)
          let frame := frame.set (crcOffset + 1) (lowByte crc)
          ⟨true, copyInto output 0 frame frameLength, frameLength⟩

/-- The local `decoded`, read at the offsets Len gives. -/
def readFields (input : List Byte) : Message :=
  let payloadLength := input.getD lengthOffset 0
  let sequenceOffset := payloadOffset + payloadLength.toNat
  { type := .ofByte (input.getD typeOffset 0)
    source := input.getD sourceOffset 0
    destination := input.getD destinationOffset 0
    transactionId := input.getD idOffset 0
    payloadLength := payloadLength
    payload := copyInto Message.zero.payload 0 (input.drop payloadOffset) payloadLength.toNat
    sequence := joinBytes (input.getD sequenceOffset 0) (input.getD (sequenceOffset + 1) 0)
    payloadSize := by simp [Message.zero] }

def readCrc (input : List Byte) (crcOffset : Nat) : BitVec 16 :=
  joinBytes (input.getD crcOffset 0) (input.getD (crcOffset + 1) 0)

/-- The message `LORA_PACKET_Decode` commits, or `none` at a rejection. -/
def parse (input : List Byte) : Option Message :=
  let payloadLength := input.getD lengthOffset 0
  let crcOffset := payloadOffset + payloadLength.toNat + sequenceSize
  if input.length < minLength ∨ maxLength < input.length then none
  else if maxPayloadLength < payloadLength.toNat then none
  else if input.length ≠ minLength + payloadLength.toNat then none
  else if !isMessageValid (readFields input) then none
  else
    match calculateCcittFalse (some input) crcOffset with
    | none => none
    | some calculatedCrc =>
        if readCrc input crcOffset ≠ calculatedCrc then none else some (readFields input)

/-- `LORA_PACKET_Decode`: the caller's message is written only on success. -/
def decode (input : Option (List Byte)) (message : Message) : Bool × Message :=
  match input.bind parse with
  | none => (false, message)
  | some decoded => (true, decoded)

end LoraNode.NodePacket
