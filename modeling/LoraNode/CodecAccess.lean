import LoraNode.Foundation.Buffers
import LoraNode.PacketLayout

/-!
# The codec, access by access (`node_packet.c`, `crc16.c`)

The functions of the codec with every access to an array as a call of its own, in
the order of the source. Scalar members are values. A result names the `return`
that was reached. Of the pointers only the decoder's input may be NULL here. Names
leave out the prefixes `LORA_PACKET_` and `CRC16_`.
-/

namespace LoraNode.CodecAccess

open LoraNode.Foundation LoraNode.Foundation.Bytes LoraNode.Foundation.Program
  LoraNode.Foundation.Buffers LoraNode.NodePacket
open LoraNode.Crc16 (initialValue updateByte)

/-- `LORA_PACKET_Message` without the array `payload`. -/
structure Fields where
  type : PacketType
  source : Byte
  destination : Byte
  transactionId : Byte
  payloadLength : Byte
  sequence : BitVec 16

def fieldsOf (message : Message) : Fields where
  type := message.type
  source := message.source
  destination := message.destination
  transactionId := message.transactionId
  payloadLength := message.payloadLength
  sequence := message.sequence

section Shared

variable {Buffer : Type}

def isMessageValid (payload : Buffer) (message : Fields) : ArrayProgram Buffer Bool :=
  if maxPayloadLength < message.payloadLength.toNat then return false
  else
    match message.type with
    | .poll =>
        return message.source == gatewayAddress && isNodeAddress message.destination &&
          message.payloadLength == 0 && message.sequence == 0
    | .data =>
        return isNodeAddress message.source && message.destination == gatewayAddress &&
          message.payloadLength == dataPayloadLength
    | .ack =>
        return message.source == gatewayAddress && isNodeAddress message.destination &&
          message.payloadLength == 0
    | .error =>
        if isNodeAddress message.source && message.destination == gatewayAddress &&
            message.payloadLength == errorPayloadLength then do
          let errorCode ← load payload 0
          return isKnownErrorCode errorCode
        else return false
    | .other _ _ => return false

/-- The outer loop of the checksum over the first bytes of `data`. -/
def updateBytes (data : Buffer) : Nat → ArrayProgram Buffer (BitVec 16)
  | 0 => return initialValue
  | byteIndex + 1 => do
      let value ← updateBytes data byteIndex
      let byte ← load data byteIndex
      return updateByte value byte

/-- `CRC16_CalculateCcittFalse`, with `*crc` as the result. -/
def calculateCcittFalse (data : Option Buffer) (length : Nat) (crcNull : Bool) :
    ArrayProgram Buffer (Option (BitVec 16)) :=
  if crcNull || data.isNone && length != 0 then return none
  else
    match data with
    | none => return some initialValue
    | some data => do
        lend data length
        let value ← updateBytes data length
        return some value

end Shared

inductive EncodeBuffer where
  | payload
  | frame
  | output
  deriving DecidableEq

inductive EncodeFailure where
  | invalidMessage
  | noRoom
  | crcFailed
  deriving DecidableEq

/-- `LORA_PACKET_Encode`, with `*output_length` as the result. -/
def encode (message : Fields) (outputCapacity : Nat) :
    ArrayProgram EncodeBuffer (Except EncodeFailure Nat) := do
  if !(← isMessageValid .payload message) then return .error .invalidMessage
  else
    let frameLength := minLength + message.payloadLength.toNat
    if outputCapacity < frameLength then return .error .noRoom
    else
      store .frame typeOffset message.type.toByte
      store .frame sourceOffset message.source
      store .frame destinationOffset message.destination
      store .frame idOffset message.transactionId
      store .frame lengthOffset message.payloadLength
      copy .frame payloadOffset .payload 0 message.payloadLength.toNat
      let sequenceOffset := payloadOffset + message.payloadLength.toNat
      store .frame sequenceOffset (highByte message.sequence)
      store .frame (sequenceOffset + 1) (lowByte message.sequence)
      let crcOffset := sequenceOffset + sequenceSize
      match ← calculateCcittFalse (some .frame) crcOffset false with
      | none => return .error .crcFailed
      | some crc =>
          store .frame crcOffset (highByte crc)
          store .frame (crcOffset + 1) (lowByte crc)
          copy .output 0 .frame 0 frameLength
          return .ok frameLength

inductive DecodeBuffer where
  | input
  | decoded
  | message
  deriving DecidableEq

inductive DecodeFailure where
  | nullPointer
  | badLength
  | badPayloadLength
  | lengthMismatch
  | invalidMessage
  | crcFailed
  | crcMismatch
  deriving DecidableEq

/-- `LORA_PACKET_Decode` once `decoded` is filled: the contract, the checksum and the
assignment to `*message`. -/
def acceptDecoded (frame : DecodeBuffer) (sequenceOffset : Nat) (decoded : Fields) :
    ArrayProgram DecodeBuffer (Except DecodeFailure Fields) := do
  if !(← isMessageValid .decoded decoded) then return .error .invalidMessage
  else
    let crcOffset := sequenceOffset + sequenceSize
    match ← calculateCcittFalse (some frame) crcOffset false with
    | none => return .error .crcFailed
    | some calculatedCrc =>
        let high ← load frame crcOffset
        let low ← load frame (crcOffset + 1)
        if joinBytes high low ≠ calculatedCrc then return .error .crcMismatch
        else
          copy .message 0 .decoded 0 maxPayloadLength
          return .ok decoded

/-- `LORA_PACKET_Decode`, with the members of `*message` as the result. -/
def decode (input : Option DecodeBuffer) (inputLength : Nat) :
    ArrayProgram DecodeBuffer (Except DecodeFailure Fields) :=
  match input with
  | none => return .error .nullPointer
  | some frame =>
      if inputLength < minLength ∨ maxLength < inputLength then return .error .badLength
      else do
        let payloadLength ← load frame lengthOffset
        if maxPayloadLength < payloadLength.toNat then return .error .badPayloadLength
        else if inputLength ≠ minLength + payloadLength.toNat then return .error .lengthMismatch
        else
          let type ← load frame typeOffset
          let source ← load frame sourceOffset
          let destination ← load frame destinationOffset
          let transactionId ← load frame idOffset
          copy .decoded 0 frame payloadOffset payloadLength.toNat
          let sequenceOffset := payloadOffset + payloadLength.toNat
          let high ← load frame sequenceOffset
          let low ← load frame (sequenceOffset + 1)
          acceptDecoded frame sequenceOffset ⟨.ofByte type, source, destination, transactionId,
            payloadLength, joinBytes high low⟩

end LoraNode.CodecAccess
