import LoraNode.Sx1278

/-!
# Configuration and the transmit path (`SX1278.c`, `SX1278_hw.c`)

`SX1278_init` and `SX1278_transmit` with everything they write. Besides the
register accesses these use burst writes, the reset line and delays. Names leave
out the prefix `SX1278_`.
-/

namespace LoraNode.Sx1278

open LoraNode.Foundation LoraNode.Foundation.Bytes LoraNode.Foundation.Program

def regFrMsb : Byte := 0x06
def regPaConfig : Byte := 0x09
def regOcp : Byte := 0x0B
def regLna : Byte := 0x0C
def regFifoTxBaseAddr : Byte := 0x0E
def regModemConfig1 : Byte := 0x1D
def regModemConfig2 : Byte := 0x1E
def regSymbTimeoutLsb : Byte := 0x1F
def regPreambleMsb : Byte := 0x20
def regPreambleLsb : Byte := 0x21
def regModemConfig3 : Byte := 0x26
def regSyncWord : Byte := 0x39
def regDioMapping2 : Byte := 0x41

def powerTable : List Byte := [0xFF, 0xFC, 0xF9, 0xF6]
def spreadFactor : List Byte := [6, 7, 8, 9, 10, 11, 12]
def loraBandwidth : List Byte := [0, 1, 2, 3, 4, 5, 6, 7, 8, 9]
def codingRate : List Byte := [0x01, 0x02, 0x03, 0x04]
def crcSum : List Byte := [0x01, 0x00]

/-- An entry of a table; C leaves an index outside of it undefined. -/
def entry (table : List Byte) (index : Byte) : Byte := table.getD index.toNat 0

structure Transceiver extends Module where
  frequency : BitVec 64
  power : Byte
  loraBw : Byte
  loraCr : Byte
  loraCrcSum : Byte

inductive Chip : Type → Type where
  | burstWrite (address : Byte) (bytes : List Byte) : Chip Unit
  | setNss (high : Bool) : Chip Unit
  | setReset (high : Bool) : Chip Unit
  | delayMs (msec : Nat) : Chip Unit

abbrev Wire (Reply : Type) : Type := Bus Reply ⊕ Chip Reply

abbrev Transmitter := Program Wire

def bus {Result : Type} (driver : Driver Result) : Transmitter Result := driver.lift Sum.inl

def chip {Reply : Type} (call : Chip Reply) : Transmitter Reply := perform (.inr call)

def spiRead (address : Byte) : Transmitter Byte := bus (access (.spiRead address))

def spiWrite (address value : Byte) : Transmitter Unit := bus (access (.spiWrite address value))

/-- `SX1278_SPIBurstWrite`: a length of 0 or 1 writes nothing. -/
def spiBurstWrite (address : Byte) (buffer : List Byte) (length : Byte) : Transmitter Unit := do
  if length ≤ 1 then return ()
  else chip (.burstWrite address (buffer.take length.toNat))

def hwReset : Transmitter Unit := do
  chip (.setNss true)
  chip (.setReset false)
  chip (.delayMs 1)
  chip (.setReset true)
  chip (.delayMs 10)

/-- `SX1278_hw_init`, without the directions of the pins. -/
def hwInit : Transmitter Unit := do
  chip (.setNss true)
  chip (.setReset true)
  hwReset

def standbyTransceiver (module : Transceiver) : Transmitter Transceiver := do
  let stood ← bus (standby module.toModule)
  return { module with toModule := stood }

def sleep (module : Transceiver) : Transmitter Transceiver := do
  let mode ← spiRead regOpMode
  spiWrite regOpMode (mode &&& 0xF8)
  return { module with status := .sleep }

def entryLoRa : Transmitter Unit := spiWrite regOpMode 0x88

def frequencyRegister (frequency : BitVec 64) : List Byte :=
  let freq := frequency <<< 19 / 32000000
  [(freq >>> 16).setWidth 8, (freq >>> 8).setWidth 8, freq.setWidth 8]

/-- The modem settings of `SX1278_config` that depend on the spreading factor. -/
def modemSettings (module : Transceiver) : Transmitter Unit := do
  let factor := entry spreadFactor module.loraSf
  let config1 := (entry loraBandwidth module.loraBw <<< 4) + (entry codingRate module.loraCr <<< 1)
  let config2 := (factor <<< 4) + (entry crcSum module.loraCrcSum <<< 2)
  if factor = 6 then
    spiWrite regModemConfig1 (config1 + 0x01)
    spiWrite regModemConfig2 (config2 + 0x03)
    let tmp ← spiRead 0x31
    spiWrite 0x31 ((tmp &&& 0xF8) ||| 0x05)
    spiWrite 0x37 0x0C
  else
    spiWrite regModemConfig1 (config1 + 0x00)
    spiWrite regModemConfig2 (config2 + 0x00)

/-- What `SX1278_config` writes between `SX1278_entryLoRa` and `SX1278_standby`. -/
def parameters (module : Transceiver) : Transmitter Unit := do
  spiBurstWrite regFrMsb (frequencyRegister module.frequency) 3
  spiWrite regSyncWord 0x34
  spiWrite regPaConfig (entry powerTable module.power)
  spiWrite regOcp 0x0B
  spiWrite regLna 0x23
  modemSettings module
  spiWrite regModemConfig3 0x04
  spiWrite regSymbTimeoutLsb 0x08
  spiWrite regPreambleMsb 0x00
  spiWrite regPreambleLsb 8
  spiWrite regDioMapping2 0x01

def config (module : Transceiver) : Transmitter Transceiver := do
  let module ← sleep module
  chip (.delayMs 15)
  entryLoRa
  parameters module
  standbyTransceiver { module with readBytes := 0 }

def rounds (timeout : BitVec 32) : Nat := if timeout = 0 then 2 ^ 32 else timeout.toNat

/-- The end of both loops when the timeout is used up. -/
def giveUp (module : Transceiver) : Transmitter (Bool × Transceiver) := do
  hwReset
  let module ← config module
  return (false, module)

/-- The registers `SX1278_LoRaEntryTx` sets after `SX1278_config`. -/
def prepareTx (length : Byte) : Transmitter Unit := do
  spiWrite regPaDac 0x87
  spiWrite regHopPeriod 0x00
  spiWrite regDioMapping1 0x41
  bus clearLoRaIrq
  spiWrite regIrqFlagsMask 0xF7
  spiWrite regPayloadLength length
  let addr ← spiRead regFifoTxBaseAddr
  spiWrite regFifoAddrPtr addr

def lengthDiffers (length : Byte) : Transmitter Bool := do
  let temp ← spiRead regPayloadLength
  return temp != length

def loraEntryTx (module : Transceiver) (length : Byte) (timeout : BitVec 32) :
    Transmitter (Bool × Transceiver) := do
  let module ← config { module with packetLength := length }
  prepareTx length
  if ← waitWhile (lengthDiffers length) (rounds timeout) then
    return (true, { module with status := .tx })
  else giveUp module

/-- Whether DIO0 shows TxDone before `--timeout == 0`; 1 ms between two polls. -/
def awaitTxDone : Nat → Transmitter Bool
  | 0 => return false
  | left + 1 => do
      if ← bus (access .getDio0) then return true
      else if left = 0 then return false
      else
        chip (.delayMs 1)
        awaitTxDone left

def loraTxPacket (module : Transceiver) (txBuffer : List Byte) (length : Byte)
    (timeout : BitVec 32) : Transmitter (Bool × Transceiver) := do
  spiBurstWrite regFifo txBuffer length
  spiWrite regOpMode 0x8B
  if ← awaitTxDone (rounds timeout) then
    let _ ← spiRead regIrqFlags
    bus clearLoRaIrq
    let module ← standbyTransceiver module
    return (true, module)
  else giveUp module

/-- What `SX1278_init` copies into the module. -/
structure Settings where
  frequency : BitVec 64
  power : Byte
  loraSf : Byte
  loraBw : Byte
  loraCr : Byte
  loraCrcSum : Byte
  packetLength : Byte

def Transceiver.set (module : Transceiver) (settings : Settings) : Transceiver :=
  { module with
    frequency := settings.frequency
    power := settings.power
    loraSf := settings.loraSf
    loraBw := settings.loraBw
    loraCr := settings.loraCr
    loraCrcSum := settings.loraCrcSum
    packetLength := settings.packetLength }

def init (module : Transceiver) (settings : Settings) : Transmitter Transceiver := do
  hwInit
  config (module.set settings)

def transmit (module : Transceiver) (txBuf : List Byte) (length : Byte) (timeout : BitVec 32) :
    Transmitter (Bool × Transceiver) := do
  let (entered, module) ← loraEntryTx module length timeout
  if entered then loraTxPacket module txBuf length timeout else return (false, module)

end LoraNode.Sx1278
