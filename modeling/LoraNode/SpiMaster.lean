import LoraNode.Foundation.Bytes
import LoraNode.Foundation.Preemption

/-!
# The SPI master (`plib_sercom1_spi_master.c`)

Every access to a register of SERCOM1, to `sercom1SPIObj` and to the buffers of
the caller is a call of the program, in the order of the source. Characters have
8 bits, as `SERCOM1_SPI_Initialize` sets, and no callback is registered. Names
leave out the prefix `SERCOM1_SPI_`.
-/

namespace LoraNode.SpiMaster

open LoraNode.Foundation LoraNode.Foundation.Bytes LoraNode.Foundation.Program
  LoraNode.Foundation.Interference

/-- The bits of INTENSET, INTENCLR and INTFLAG that the driver uses. -/
structure Interrupts where
  dre : Bool
  txc : Bool
  rxc : Bool
  deriving DecidableEq

def noInterrupts : Interrupts := ⟨false, false, false⟩
def dataRegisterEmpty : Interrupts := ⟨true, false, false⟩
def transmitComplete : Interrupts := ⟨false, true, false⟩
def receiveComplete : Interrupts := ⟨false, false, true⟩
def allInterrupts : Interrupts := ⟨true, true, true⟩

def Interrupts.enable (enabled mask : Interrupts) : Interrupts :=
  ⟨enabled.dre || mask.dre, enabled.txc || mask.txc, enabled.rxc || mask.rxc⟩

def Interrupts.disable (enabled mask : Interrupts) : Interrupts :=
  ⟨enabled.dre && !mask.dre, enabled.txc && !mask.txc, enabled.rxc && !mask.rxc⟩

/-- `SPI_OBJECT` with the static flag of the handler. A buffer is NULL or what it
points to. -/
structure SpiObject where
  transferIsBusy : Bool
  txBuffer : Option (List Byte)
  rxBuffer : Option (List Byte)
  txSize : Nat
  rxSize : Nat
  dummySize : Nat
  rxCount : Nat
  txCount : Nat
  isLastByteTransferInProgress : Bool

inductive Access : Type → Type where
  | object : Access SpiObject
  | store (change : SpiObject → SpiObject) : Access Unit
  | readTx (index : Nat) : Access Byte
  | readRx (index : Nat) : Access Byte
  | writeRx (index : Nat) (value : Byte) : Access Unit
  | intenset : Access Interrupts
  | setIntenset (mask : Interrupts) : Access Unit
  | setIntenclr (mask : Interrupts) : Access Unit
  | intflag : Access Interrupts
  | setIntflag (mask : Interrupts) : Access Unit
  | readData : Access Byte
  | writeData (value : Byte) : Access Unit

abbrev Driver := Program Access

def access {Reply : Type} (call : Access Reply) : Driver Reply := perform call

section Driver

def dummyWord : Byte := 0xFF

def isBusy : Driver Bool := do
  let object ← access .object
  let txSize := object.txSize
  let object ← access .object
  let transferIsBusy := object.transferIsBusy
  let object ← access .object
  if object.rxSize = 0 ∧ txSize = 0 then return false
  else
    let flags ← access .intflag
    return !flags.txc || transferIsBusy

/-- `while (INTFLAG & RXC) dummyData = DATA`, followed for so many rounds. -/
def flush (rounds : Nat) : Driver Bool :=
  waitWhile (do
    let flags ← access .intflag
    if flags.rxc then
      let _ ← access .readData
      return true
    else return false) rounds

/-- `SERCOM1_SPI_WriteRead` up to `transferIsBusy = true`. -/
def accept (transmit receive : Option (List Byte)) (txSize rxSize : Nat) : Driver Unit := do
  access (.store fun object => { object with txBuffer := transmit })
  access (.store fun object => { object with rxBuffer := receive })
  access (.store fun object => { object with rxCount := 0 })
  access (.store fun object => { object with txCount := 0 })
  access (.store fun object => { object with dummySize := 0 })
  access (.store fun object => { object with txSize := if transmit.isSome then txSize else 0 })
  access (.store fun object => { object with rxSize := if receive.isSome then rxSize else 0 })
  access (.store fun object => { object with transferIsBusy := true })

/-- `INTFLAG |= ERROR` writes back the flags it has read. -/
def clearErrors : Driver Unit := do
  let flags ← access .intflag
  access (.setIntflag flags)

def sizeDummies (txSz : Nat) : Driver Unit := do
  let object ← access .object
  if object.rxSize > txSz then
    let object ← access .object
    let dummySize := object.rxSize - txSz
    access (.store fun object => { object with dummySize := dummySize })

/-- The first write to DATA; the rest happens in the handler. -/
def writeFirst : Driver Unit := do
  let object ← access .object
  let txSz := object.txSize
  sizeDummies txSz
  let object ← access .object
  if object.txCount < txSz then
    let byte ← access (.readTx 0)
    access (.writeData byte)
    access (.store fun object => { object with txCount := object.txCount + 1 })
  else
    let object ← access .object
    if object.dummySize > 0 then
      access (.writeData dummyWord)
      access (.store fun object => { object with dummySize := object.dummySize - 1 })

/-- `SERCOM1_SPI_WriteRead`; `none` while it is still flushing after `rounds` rounds. -/
def writeRead (rounds : Nat) (transmit : Option (List Byte)) (txSize : Nat)
    (receive : Option (List Byte)) (rxSize : Nat) : Driver (Option Bool) := do
  let object ← access .object
  if object.transferIsBusy then return some false
  else if ¬(0 < txSize ∧ transmit.isSome ∨ 0 < rxSize ∧ receive.isSome) then return some false
  else
    accept transmit receive txSize rxSize
    if !(← flush rounds) then return none
    else
      clearErrors
      writeFirst
      if 0 < rxSize then access (.setIntenset receiveComplete)
      else access (.setIntenset dataRegisterEmpty)
      return some true

end Driver

section Handler

def receiveWord (rxCount : Nat) : Driver Nat := do
  let flags ← access .intflag
  if flags.rxc then
    let receivedData ← access .readData
    let object ← access .object
    if rxCount < object.rxSize then
      access (.writeRx rxCount receivedData)
      return rxCount + 1
    else return rxCount
  else return rxCount

/-- The next word to DATA, of `txBuffer` or a dummy. -/
def writeNext (txCount : Nat) : Driver Nat := do
  let object ← access .object
  if txCount < object.txSize then
    let byte ← access (.readTx txCount)
    access (.writeData byte)
    return txCount + 1
  else
    let object ← access .object
    if object.dummySize > 0 then
      access (.writeData dummyWord)
      access (.store fun object => { object with dummySize := object.dummySize - 1 })
      return txCount
    else return txCount

/-- Which interrupt comes next, once the word is written. -/
def chooseInterrupt (rxCount txCount txSize : Nat) : Driver Unit := do
  let object ← access .object
  if object.dummySize = 0 ∧ txCount = txSize then
    access (.store fun object => { object with isLastByteTransferInProgress := true })
  else
    let object ← access .object
    if rxCount = object.rxSize then
      access (.setIntenset dataRegisterEmpty)
      access (.setIntenclr receiveComplete)

def transmitWord (rxCount txCount txSize : Nat) : Driver Nat := do
  let flags ← access .intflag
  if flags.dre then
    access (.setIntenclr dataRegisterEmpty)
    let txCount ← writeNext txCount
    chooseInterrupt rxCount txCount txSize
    return txCount
  else return txCount

def finish (rxCount : Nat) : Driver Unit := do
  let flags ← access .intflag
  let object ← access .object
  if flags.txc ∧ object.isLastByteTransferInProgress then
    let object ← access .object
    if rxCount = object.rxSize then
      access (.store fun object => { object with transferIsBusy := false })
      access (.setIntenclr allInterrupts)
      access (.store fun object => { object with isLastByteTransferInProgress := false })

def awaitLast : Driver Unit := do
  let object ← access .object
  if object.isLastByteTransferInProgress then access (.setIntenset transmitComplete)

def interruptHandler : Driver Unit := do
  let enabled ← access .intenset
  if enabled = noInterrupts then return ()
  else
    let object ← access .object
    let rxCount ← receiveWord object.rxCount
    let txCount ← transmitWord rxCount object.txCount object.txSize
    access (.store fun object => { object with rxCount := rxCount })
    access (.store fun object => { object with txCount := txCount })
    finish rxCount
    awaitLast

end Handler

/-- What is wired to the SPI pins: it answers every word, it moves on its own, and
other pins act on it. -/
structure Slave (Chip : Type*) (Pin : Type → Type) where
  exchanges : Chip → Byte → Byte → Chip → Prop
  drifts : Chip → Chip → Prop
  drives : {Reply : Type} → Chip → Pin Reply → Reply → Chip → Prop

structure Port (Chip : Type*) where
  object : SpiObject
  enabled : Interrupts
  /-- DATA as written, until the shift register takes it. -/
  data : Option Byte
  shift : Option Byte
  /-- The two-level receive buffer. -/
  unread : List Byte
  txc : Bool
  chip : Chip

variable {Chip : Type*} {Pin : Type → Type}

def Port.flags (port : Port Chip) : Interrupts :=
  ⟨port.data.isNone, port.txc, !port.unread.isEmpty⟩

def Port.requests (port : Port Chip) : Prop :=
  port.enabled.dre && port.flags.dre || port.enabled.txc && port.flags.txc ||
    port.enabled.rxc && port.flags.rxc

def Port.read (port : Port Chip) : Port Chip := { port with unread := port.unread.tail }

/-- Writing DATA clears TXC. -/
def Port.written (port : Port Chip) (value : Byte) : Port Chip :=
  { port with data := some value, txc := false }

/-- An access outside of a buffer, or of an empty one, answers anything. -/
def answers {Reply : Type} (port : Port Chip) : Access Reply → Reply → Port Chip → Prop
  | .object, answer, next => answer = port.object ∧ next = port
  | .store change, _, next => next = { port with object := change port.object }
  | .readTx index, answer, next =>
      (∀ value ∈ (port.object.txBuffer.getD [])[index]?, answer = value) ∧ next = port
  | .readRx index, answer, next =>
      (∀ value ∈ (port.object.rxBuffer.getD [])[index]?, answer = value) ∧ next = port
  | .writeRx index value, _, next =>
      next = { port with object := { port.object with
        rxBuffer := port.object.rxBuffer.map fun memory => memory.set index value } }
  | .intenset, answer, next => answer = port.enabled ∧ next = port
  | .setIntenset mask, _, next => next = { port with enabled := port.enabled.enable mask }
  | .setIntenclr mask, _, next => next = { port with enabled := port.enabled.disable mask }
  | .intflag, answer, next => answer = port.flags ∧ next = port
  | .setIntflag mask, _, next => next = { port with txc := port.txc && !mask.txc }
  | .readData, answer, next => (∀ word ∈ port.unread.head?, answer = word) ∧ next = port.read
  | .writeData value, _, next => next = port.written value

/-- The shift register, and the slave on its own. A word received into a full
buffer is lost. -/
inductive Hardware (slave : Slave Chip Pin) : Port Chip → Port Chip → Prop where
  | load (port : Port Chip) (byte : Byte) (written : port.data = some byte)
      (idle : port.shift = none) :
      Hardware slave port { port with data := none, shift := some byte }
  | shifted (port : Port Chip) (byte reply : Byte) (chip : Chip) (loaded : port.shift = some byte)
      (exchanged : slave.exchanges port.chip byte reply chip) :
      Hardware slave port { port with
        shift := none
        unread := if port.unread.length < 2 then port.unread ++ [reply] else port.unread
        txc := port.txc || port.data.isNone
        chip := chip }
  | drift (port : Port Chip) (chip : Chip) (moved : slave.drifts port.chip chip) :
      Hardware slave port { port with chip := chip }

def sercom (slave : Slave Chip Pin) : Setting Access (Port Chip) where
  answers := answers
  interferes := Hardware slave

abbrev TaskCall (Pin : Type → Type) (Reply : Type) : Type := Access Reply ⊕ Pin Reply

def taskAnswers (slave : Slave Chip Pin) {Reply : Type} (port : Port Chip) :
    TaskCall Pin Reply → Reply → Port Chip → Prop
  | .inl call, answer, next => answers port call answer next
  | .inr call, answer, next =>
      ∃ chip, slave.drives port.chip call answer chip ∧ next = { port with chip := chip }

def pins (slave : Slave Chip Pin) : Setting (TaskCall Pin) (Port Chip) where
  answers := taskAnswers slave
  interferes := Hardware slave

/-- Buffers are accessed inside, and DATA is written only while it is empty. -/
def sound : Guard Access (Port Chip)
  | _, .readTx index, port => index < (port.object.txBuffer.getD []).length
  | _, .readRx index, port => index < (port.object.rxBuffer.getD []).length
  | _, .writeRx index _, port => index < (port.object.rxBuffer.getD []).length
  | _, .readData, port => port.unread ≠ []
  | _, .writeData _, port => port.data = none
  | _, _, _ => True

end LoraNode.SpiMaster
