import LoraNode.Foundation.Buffers
import LoraNode.Foundation.Text

/-!
# The frame logger, access by access (`lora_app.c`, `debug_log.h`)

`LORA_APP_PrintFrame` builds its line through a moving cursor, here an index, and
`DEBUG_LOG_Printf` formats it once more into the array the UART reads. The UART
answers anything. Names leave out the prefix `LORA_APP_`.
-/

namespace LoraNode.FrameLog

open LoraNode.Foundation LoraNode.Foundation.Bytes LoraNode.Foundation.Program
  LoraNode.Foundation.Buffers LoraNode.Foundation.Text

def debugLogCapacity : Nat := 224

def debugLogWaitAttempts : Nat := 1000000

/-- The arrays of the logger. `line` is the local of `PrintFrame` and `transfer` the
static `line` of `DEBUG_LOG_Printf`. -/
inductive LogBuffer where
  | hexDigits
  | frame
  | reversed
  | line
  | transfer
  deriving DecidableEq

abbrev Logger := ArrayProgram LogBuffer

theorem quotient_toNat (value : BitVec 32) : (value / 10).toNat = value.toNat / 10 :=
  BitVec.toNat_udiv

/-- The do loop of `appendUnsigned`, which leaves the digits in reverse. -/
def reverseDigits (value : BitVec 32) (count : Nat) : Logger Nat := do
  store .reversed count ((48 + value % 10).setWidth 8)
  if more : value / 10 ≠ 0 then reverseDigits (value / 10) (count + 1) else return count + 1
termination_by value.toNat
decreasing_by
  rw [Ne, ← BitVec.toNat_inj, quotient_toNat] at more
  rw [quotient_toNat]
  simp at more
  omega

/-- The while loop of `appendUnsigned`. -/
def appendReversed (destination : Nat) : Nat → Logger Nat
  | 0 => return destination
  | count + 1 => do
      let digit ← load .reversed count
      store .line destination digit
      appendReversed (destination + 1) count

def appendUnsigned (destination : Nat) (value : BitVec 32) : Logger Nat := do
  let count ← reverseDigits value 0
  appendReversed destination count

def appendHexByte (destination : Nat) (value : Byte) : Logger Nat := do
  let high ← load .hexDigits (value >>> 4).toNat
  store .line destination high
  let low ← load .hexDigits (value &&& 0x0F).toNat
  store .line (destination + 1) low
  return destination + 2

/-- The loop of `printFrame`. -/
def appendFrame (frameLength cursor index : Nat) : Logger Nat :=
  if index < frameLength then do
    let byte ← load .frame index
    let cursor ← appendHexByte cursor byte
    if index + 1 < frameLength then do
      store .line cursor 0x20
      appendFrame frameLength (cursor + 1) (index + 1)
    else appendFrame frameLength cursor (index + 1)
  else return cursor

def appendText (cursor : Nat) (text : List Byte) : Logger Nat := do
  storeAll .line cursor text
  return cursor + text.length

/-- `LORA_APP_PrintFrame` up to its `DEBUG_LOG`. -/
def formatFrame (direction : List Byte) (frameLength : Nat) : Logger Unit := do
  let cursor ← appendText 0 (ascii "status: ")
  let cursor ← appendText cursor direction
  let cursor ← appendText cursor (ascii " len=")
  let cursor ← appendUnsigned cursor (BitVec.ofNat 32 frameLength)
  let cursor ← appendText cursor (ascii " hex=")
  let cursor ← appendFrame frameLength cursor 0
  storeAll .line cursor (ascii "\r\n" ++ [0])

/-- The string that starts here, up to the byte that ends it. The limit lies
behind the end of every array. -/
def readString (buffer : LogBuffer) (index : Nat) : Nat → Logger (List Byte)
  | 0 => return []
  | limit + 1 => do
      let char ← load buffer index
      if char = 0 then return []
      else
        let rest ← readString buffer (index + 1) limit
        return char :: rest

/-- `vsnprintf(transfer, capacity, "%s", line)` -/
def formatString (capacity : Nat) : Logger Nat := do
  let text ← readString .line 0 (debugLogCapacity + 1)
  storeAll .transfer 0 (text.take (capacity - 1) ++ [0])
  return text.length

inductive Uart : Type → Type where
  /-- `SERCOM5_USART_WriteIsBusy` -/
  | writeIsBusy : Uart Bool
  /-- `SERCOM5_USART_Write` of the first bytes of `transfer`. -/
  | write (length : Nat) : Uart Bool

abbrev LogCall (Reply : Type) := ArrayCall LogBuffer Reply ⊕ Uart Reply

/-- The waiting loop, with the attempts it leaves. -/
def waitForWriter : Nat → Program LogCall Nat
  | 0 => return 0
  | attempts + 1 => do
      if ← perform (Sum.inr .writeIsBusy) then waitForWriter attempts else return attempts + 1

inductive LogReturn where
  | stillBusy
  | dropped
  | refused
  | stalled
  | sent
  deriving DecidableEq

/-- `DEBUG_LOG_Printf("%s", line)` -/
def debugLogPrintf : Program LogCall LogReturn := do
  let attempts ← waitForWriter debugLogWaitAttempts
  if attempts = 0 then return .stillBusy
  else
    let length ← (formatString debugLogCapacity).lift Sum.inl
    if length ≤ 0 ∨ debugLogCapacity ≤ length then return .dropped
    else if !(← perform (Sum.inr (.write length))) then return .refused
    else
      let attempts ← waitForWriter attempts
      if attempts = 0 then return .stalled else return .sent

def printFrame (direction : List Byte) (frameLength : Nat) : Program LogCall LogReturn := do
  (formatFrame direction frameLength).lift Sum.inl
  debugLogPrintf

end LoraNode.FrameLog
