import LoraNode.Foundation.Buffers
import LoraNode.Foundation.Preemption

/-!
# The UART (`plib_sercom5_usart.c`)

Every access to a register of SERCOM5, to `sercom5USARTObj` and to the source of a
transfer is a call of the program, in the order of the source. Characters have 8
bits, as `SERCOM5_USART_Initialize` sets, and no callback is registered. Names
leave out the prefix `SERCOM5_USART_`.
-/

namespace LoraNode.Usart

open LoraNode.Foundation LoraNode.Foundation.Bytes LoraNode.Foundation.Program
  LoraNode.Foundation.Interference LoraNode.Foundation.Buffers

/-- The bits of INTENSET, INTENCLR and INTFLAG that the driver uses. -/
structure Interrupts where
  dre : Bool
  txc : Bool
  error : Bool
  deriving DecidableEq

def noInterrupts : Interrupts := ⟨false, false, false⟩
def dataRegisterEmpty : Interrupts := ⟨true, false, false⟩

def Interrupts.enable (enabled mask : Interrupts) : Interrupts :=
  ⟨enabled.dre || mask.dre, enabled.txc || mask.txc, enabled.error || mask.error⟩

def Interrupts.disable (enabled mask : Interrupts) : Interrupts :=
  ⟨enabled.dre && !mask.dre, enabled.txc && !mask.txc, enabled.error && !mask.error⟩

/-- The part of `SERCOM_USART_OBJECT` that is for writing. `txBuffer` is NULL or the
array it points to. -/
structure UsartObject (Buffer : Type) where
  txBuffer : Option Buffer
  txSize : Nat
  txProcessedSize : Nat
  txBusyStatus : Bool

variable {Buffer : Type}

inductive Access (Buffer : Type) : Type → Type where
  | object : Access Buffer (UsartObject Buffer)
  | store (change : UsartObject Buffer → UsartObject Buffer) : Access Buffer Unit
  | readTx (buffer : Option Buffer) (index : Nat) : Access Buffer Byte
  | intenset : Access Buffer Interrupts
  | setIntenset (mask : Interrupts) : Access Buffer Unit
  | setIntenclr (mask : Interrupts) : Access Buffer Unit
  | intflag : Access Buffer Interrupts
  | writeData (value : Byte) : Access Buffer Unit
  /-- `SERCOM5_USART_ISR_ERR_Handler` -/
  | isrErrHandler : Access Buffer Unit

abbrev Driver (Buffer : Type) := Program (Access Buffer)

def access {Reply : Type} (call : Access Buffer Reply) : Driver Buffer Reply := perform call

section Driver

/-- The while loop of `write`, with the number of bytes that are left. -/
def fill (buffer : Option Buffer) (processedSize : Nat) : Nat → Driver Buffer Nat
  | 0 => do
      let _ ← access .intflag
      return processedSize
  | left + 1 => do
      let flags ← access .intflag
      if flags.dre then
        let byte ← access (.readTx buffer processedSize)
        access (.writeData byte)
        fill buffer (processedSize + 1) left
      else return processedSize

def write (buffer : Option Buffer) (size : Nat) : Driver Buffer Bool := do
  if buffer.isNone then return false
  else
    let object ← access .object
    if object.txBusyStatus then return false
    else
      access (.store fun object => { object with txBuffer := buffer })
      access (.store fun object => { object with txSize := size })
      access (.store fun object => { object with txBusyStatus := true })
      let object ← access .object
      let processedSize ← fill buffer 0 object.txSize
      access (.store fun object => { object with txProcessedSize := processedSize })
      access (.setIntenset dataRegisterEmpty)
      return true

def writeIsBusy : Driver Buffer Bool := do
  let object ← access .object
  return object.txBusyStatus

def transmitComplete : Driver Buffer Bool := do
  let flags ← access .intflag
  return flags.txc

end Driver

section Handler

/-- The while loop of `isrTxHandler`. Nothing changes `txSize` meanwhile, so that the
rounds are at most the bytes that are left. -/
def refill (txProcessedSize : Nat) (dataRegisterEmpty dataAvailable : Bool) :
    Nat → Driver Buffer Nat
  | 0 => return txProcessedSize
  | left + 1 =>
      if dataRegisterEmpty && dataAvailable then do
        let object ← access .object
        let byte ← access (.readTx object.txBuffer txProcessedSize)
        access (.writeData byte)
        let object ← access .object
        let flags ← access .intflag
        refill (txProcessedSize + 1) flags.dre (txProcessedSize + 1 < object.txSize) left
      else return txProcessedSize

/-- The last part of `isrTxHandler`. -/
def endTransfer (txProcessedSize : Nat) : Driver Buffer Unit := do
  let object ← access .object
  if txProcessedSize ≥ object.txSize then
    access (.store fun object => { object with txBusyStatus := false })
    access (.store fun object => { object with txSize := 0 })
    access (.setIntenclr dataRegisterEmpty)

def isrTxHandler : Driver Buffer Unit := do
  let object ← access .object
  if object.txBusyStatus then
    let object ← access .object
    let txProcessedSize := object.txProcessedSize
    let object ← access .object
    let flags ← access .intflag
    let txProcessedSize ← refill txProcessedSize flags.dre (txProcessedSize < object.txSize)
      (object.txSize - txProcessedSize)
    access (.store fun object => { object with txProcessedSize := txProcessedSize })
    endTransfer txProcessedSize

def interruptHandler : Driver Buffer Unit := do
  let enabled ← access .intenset
  if enabled = noInterrupts then return ()
  else
    let flags ← access .intflag
    let enabled ← access .intenset
    if enabled.error && flags.error then access .isrErrHandler
    let flags ← access .intflag
    let enabled ← access .intenset
    if enabled.dre && flags.dre then isrTxHandler

end Handler

/-- SERCOM5, its driver's memory, the arrays of its callers and what has left on the
TX pin. -/
structure Port (Buffer : Type) where
  object : UsartObject Buffer
  enabled : Interrupts
  /-- DATA as written, until the shift register takes it. -/
  data : Option Byte
  shift : Option Byte
  txc : Bool
  error : Bool
  out : List Byte
  memory : Memory Buffer

def Port.flags (port : Port Buffer) : Interrupts := ⟨port.data.isNone, port.txc, port.error⟩

def Port.requests (port : Port Buffer) : Prop :=
  port.enabled.dre && port.flags.dre || port.enabled.txc && port.flags.txc ||
    port.enabled.error && port.flags.error

/-- Writing DATA clears TXC. -/
def Port.written (port : Port Buffer) (value : Byte) : Port Buffer :=
  { port with data := some value, txc := false }

def Port.source (port : Port Buffer) : Option Buffer :=
  if port.object.txBusyStatus then port.object.txBuffer else none

/-- A cell that was never written is read as anything. The error handler may do anything. -/
def answers {Reply : Type} (port : Port Buffer) : Access Buffer Reply → Reply → Port Buffer → Prop
  | .object, answer, next => answer = port.object ∧ next = port
  | .store change, _, next => next = { port with object := change port.object }
  | .readTx buffer index, answer, next =>
      (∀ value ∈ buffer.bind fun array => port.memory array index, answer = value) ∧ next = port
  | .intenset, answer, next => answer = port.enabled ∧ next = port
  | .setIntenset mask, _, next => next = { port with enabled := port.enabled.enable mask }
  | .setIntenclr mask, _, next => next = { port with enabled := port.enabled.disable mask }
  | .intflag, answer, next => answer = port.flags ∧ next = port
  | .writeData value, _, next => next = port.written value
  | .isrErrHandler, _, _ => True

inductive Hardware : Port Buffer → Port Buffer → Prop where
  | load (port : Port Buffer) (byte : Byte) (written : port.data = some byte)
      (idle : port.shift = none) : Hardware port { port with data := none, shift := some byte }
  | shifted (port : Port Buffer) (byte : Byte) (loaded : port.shift = some byte) :
      Hardware port { port with
        shift := none
        out := port.out ++ [byte]
        txc := port.txc || port.data.isNone }
  | fault (port : Port Buffer) : Hardware port { port with error := true }

def sercom : Setting (Access Buffer) (Port Buffer) where
  answers := answers
  interferes := Hardware

inductive TaskCall (Buffer : Type) (Other : Type → Type) : Type → Type where
  | array {Reply : Type} (call : ArrayCall Buffer Reply) : TaskCall Buffer Other Reply
  | access {Reply : Type} (call : Access Buffer Reply) : TaskCall Buffer Other Reply
  | other {Reply : Type} (call : Other Reply) : TaskCall Buffer Other Reply

variable [DecidableEq Buffer] {Other : Type → Type}

/-- The other calls are answered by the rest of the board, away from the UART. -/
def taskAnswers (sizes : Buffer → Nat) {Reply : Type} (port : Port Buffer) :
    TaskCall Buffer Other Reply → Reply → Port Buffer → Prop
  | .array call, answer, next => ∃ memory,
      (arrays sizes).answers port.memory call answer memory ∧ next = { port with memory := memory }
  | .access call, answer, next => answers port call answer next
  | .other _, _, next => next = port

def tasks (sizes : Buffer → Nat) (Other : Type → Type) :
    Setting (TaskCall Buffer Other) (Port Buffer) where
  answers := taskAnswers sizes
  interferes := Hardware

omit [DecidableEq Buffer] in
/-- A transfer reads what was written, inside its array, DATA is written only while it
is empty, and errors are not enabled. -/
def sound (sizes : Buffer → Nat) : Guard (Access Buffer) (Port Buffer)
  | _, .readTx buffer index, port =>
      ∃ array, buffer = some array ∧ index < sizes array ∧ (port.memory array index).isSome
  | _, .writeData _, port => port.data = none
  | _, .isrErrHandler, _ => False
  | _, _, _ => True

end LoraNode.Usart
