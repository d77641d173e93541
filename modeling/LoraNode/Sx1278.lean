import LoraNode.Foundation.Program
import LoraNode.LoraApp

/-!
# The receive path of the radio driver (`SX1278.c`)

Driver functions are programs over the register accesses of `SX1278_SPIRead`,
`SX1278_SPIWrite` and `SX1278_SPIBurstRead` and the DIO0 pin. The module
structure is passed as a value. Names leave out the prefix `SX1278_`.
-/

namespace LoraNode.Sx1278

open LoraNode.Foundation LoraNode.Foundation.Bytes LoraNode.Foundation.Program

def regFifo : Byte := 0x00
def regOpMode : Byte := 0x01
def regFifoAddrPtr : Byte := 0x0D
def regFifoRxBaseAddr : Byte := 0x0F
def regFifoRxCurrentaddr : Byte := 0x10
def regIrqFlagsMask : Byte := 0x11
def regIrqFlags : Byte := 0x12
def regRxNbBytes : Byte := 0x13
def regPayloadLength : Byte := 0x22
def regHopPeriod : Byte := 0x24
def regDioMapping1 : Byte := 0x40
def regPaDac : Byte := 0x4D

def loraSf6 : Byte := 0

inductive Status where
  | sleep
  | standby
  | tx
  | rx
  deriving DecidableEq

abbrev Buffer := { bytes : List Byte // bytes.length = 256 }

def Buffer.zero : Buffer := ⟨List.replicate 256 0, List.length_replicate⟩

def Buffer.copy (buffer : Buffer) (bytes : List Byte) (count : Nat) : Buffer :=
  ⟨copyInto buffer.val 0 bytes count, by rw [copyInto_length, buffer.property]⟩

/-- The fields of `SX1278_t` that receiving uses. -/
structure Module where
  loraSf : Byte
  packetLength : Byte
  status : Status
  rxBuffer : Buffer
  readBytes : Byte
  deriving DecidableEq

/-- Accesses to the radio. A burst reads the FIFO at the address pointer. -/
inductive Bus : Type → Type where
  | spiRead (address : Byte) : Bus Byte
  | spiWrite (address value : Byte) : Bus Unit
  | burstRead (address length : Byte) : Bus (List Byte)
  | getDio0 : Bus Bool

abbrev Driver := Program Bus

def access {Reply : Type} (call : Bus Reply) : Driver Reply := perform call

/-- `SX1278_SPIBurstRead`: a length of 0 or 1 reads nothing. -/
def spiBurstRead (address : Byte) (buffer : Buffer) (length : Byte) : Driver Buffer := do
  if length ≤ 1 then return buffer
  else
    let bytes ← access (.burstRead address length)
    return buffer.copy bytes length.toNat

def standby (module : Module) : Driver Module := do
  let mode ← access (.spiRead regOpMode)
  access (.spiWrite regOpMode ((mode &&& 0xF8) ||| 0x01))
  return { module with status := .standby }

def clearLoRaIrq : Driver Unit := access (.spiWrite regIrqFlags 0xFF)

def loraEntryRx (module : Module) (length : Byte) : Driver (BitVec 32 × Module) := do
  let module ← standby { module with packetLength := length }
  access (.spiWrite regPaDac 0x84)
  access (.spiWrite regHopPeriod 0xFF)
  access (.spiWrite regDioMapping1 0x01)
  access (.spiWrite regIrqFlagsMask 0x3F)
  clearLoRaIrq
  access (.spiWrite regPayloadLength length)
  let addr ← access (.spiRead regFifoRxBaseAddr)
  access (.spiWrite regFifoAddrPtr addr)
  access (.spiWrite regOpMode 0x8D)
  return (1, { module with readBytes := 0, status := .rx })

/-- With an implicit header the packet has the length it was configured with. -/
def receivedSize (module : Module) : Driver Byte :=
  if module.loraSf = loraSf6 then return module.packetLength else access (.spiRead regRxNbBytes)

/-- The part of `SX1278_LoRaRxPacket` that runs when DIO0 is high. -/
def fetchPacket (module : Module) : Driver Module := do
  let addr ← access (.spiRead regFifoRxCurrentaddr)
  access (.spiWrite regFifoAddrPtr addr)
  let packetSize ← receivedSize module
  let rxBuffer ← spiBurstRead regFifo Buffer.zero packetSize
  clearLoRaIrq
  return { module with rxBuffer := rxBuffer, readBytes := packetSize }

def loraRxPacket (module : Module) : Driver (Byte × Module) := do
  let raised ← access .getDio0
  if raised then
    let module ← fetchPacket module
    return (module.readBytes, module)
  else return (module.readBytes, module)

def receive (module : Module) (length : Byte) : Driver (BitVec 32 × Module) :=
  loraEntryRx module length

def available (module : Module) : Driver (Byte × Module) := loraRxPacket module

/-- `SX1278_read` into a 256-byte frame. -/
def read (module : Module) (length : Byte) : LoraApp.ReadAnswer × Module :=
  let length := if length ≠ module.readBytes then module.readBytes else length
  let frame := (copyInto (List.replicate 256 0) 0 module.rxBuffer.val length.toNat).set
    length.toNat 0
  (⟨length, frame, by rw [List.length_set, copyInto_length, List.length_replicate]⟩,
    { module with readBytes := 0 })

end LoraNode.Sx1278
