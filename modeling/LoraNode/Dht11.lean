import LoraNode.Foundation.Bytes
import LoraNode.Foundation.Program

/-!
# The sensor driver (`DHT11.c`, `DHT11.h`)

The functions that drive the line are programs over the port and the delays; a
pin is a single line, so its number is left out. The handle keeps the last
sample, with floats as exact rationals. Names leave out the prefix `DHT11_`.
-/

namespace LoraNode.Dht11

open LoraNode.Foundation LoraNode.Foundation.Bytes LoraNode.Foundation.Program

def startLowUs : Nat := 18000
def startHighUs : Nat := 30
def responseWaitUs : Nat := 100
def bitThresholdUs : Nat := 40
def totalBits : Nat := 40
def defaultTimeout : BitVec 32 := 200

/-- Accesses to the DATA pin; the delays wait at least what they are given. -/
inductive Pin : Type → Type where
  | outputEnable : Pin Unit
  | inputEnable : Pin Unit
  | set : Pin Unit
  | clear : Pin Unit
  | read : Pin Bool
  | delayUs (usec : Nat) : Pin Unit
  | delayMs (msec : Nat) : Pin Unit

abbrev Line := Program Pin

def access {Reply : Type} (call : Pin Reply) : Line Reply := perform call

def pinSetOutputHigh : Line Unit := do
  access .outputEnable
  access .set

def pinSetOutputLow : Line Unit := do
  access .outputEnable
  access .clear

def sendStartSignal : Line Unit := do
  pinSetOutputLow
  access (.delayMs (startLowUs / 1000))
  access .set
  access .inputEnable
  access (.delayUs startHighUs)

/-- The polling loop of the driver: while the pin reads `level`, wait 1 us, and
give up when the counter reaches the limit. `more` polls may still be tried after
the next one. -/
def pollEnd (level : Bool) : Nat → Line Bool
  | 0 => do
      if (← access .read) = level then
        access (.delayUs 1)
        return false
      else return true
  | more + 1 => do
      if (← access .read) = level then
        access (.delayUs 1)
        pollEnd level more
      else return true

/-- The counter is compared after it is incremented, so a limit of 0 acts as 1. -/
def waitWhileLevel (level : Bool) (limit : Nat) : Line Bool := pollEnd level (limit - 1)

def waitResponse (timeoutUs : BitVec 32) : Line Bool := do
  if !(← waitWhileLevel true responseWaitUs) then return false
  else if !(← waitWhileLevel false timeoutUs.toNat) then return false
  else waitWhileLevel true timeoutUs.toNat

/-- `DHT11_ReadBit`; the bit is meaningless when the first wait times out. -/
def readBit (timeoutUs : BitVec 32) : Line (Bool × Bool) := do
  if !(← waitWhileLevel false timeoutUs.toNat) then return (false, false)
  else
    access (.delayUs bitThresholdUs)
    let bit ← access .read
    if !(← waitWhileLevel true timeoutUs.toNat) then return (false, bit)
    else return (true, bit)

def setBit (raw : List Byte) (i : Nat) : List Byte :=
  raw.set (i / 8) (raw.getD (i / 8) 0 ||| (1 : Byte) <<< (7 - i % 8))

/-- The loop of `DHT11_ReadAllBits`, `count` more bits from bit `i`. -/
def readBits (timeoutUs : BitVec 32) : Nat → Nat → List Byte → Line (Bool × List Byte)
  | 0, _, raw => return (true, raw)
  | count + 1, i, raw => do
      let (ret, bit) ← readBit timeoutUs
      if !ret then return (false, raw)
      else readBits timeoutUs count (i + 1) (if bit then setBit raw i else raw)

def readAllBits (timeoutUs : BitVec 32) : Line (Bool × List Byte) :=
  readBits timeoutUs totalBits 0 (List.replicate 5 0)

structure Data where
  humidityInt : Byte
  humidityDec : Byte
  temperatureInt : Byte
  temperatureDec : Byte
  checksum : Byte
  humidity : Rat
  temperature : Rat
  isValid : Bool

/-- `DHT11_HandleTypeDef` without the pin. -/
structure Handle where
  data : Data
  timeoutUs : BitVec 32

def verifyChecksum (raw : List Byte) : Bool :=
  let sum : BitVec 16 := (raw.getD 0 0).setWidth 16 + (raw.getD 1 0).setWidth 16 +
    (raw.getD 2 0).setWidth 16 + (raw.getD 3 0).setWidth 16
  sum.setWidth 8 == raw.getD 4 0

def decimalValue (whole decimal : Byte) : Rat := whole.toNat + decimal.toNat / 10

def parseData (handle : Handle) (raw : List Byte) : Handle :=
  let isValid := verifyChecksum raw
  { handle with
    data :=
      { humidityInt := raw.getD 0 0
        humidityDec := raw.getD 1 0
        temperatureInt := raw.getD 2 0
        temperatureDec := raw.getD 3 0
        checksum := raw.getD 4 0
        isValid := isValid
        humidity := if isValid then decimalValue (raw.getD 0 0) (raw.getD 1 0) else 0
        temperature := if isValid then decimalValue (raw.getD 2 0) (raw.getD 3 0) else 0 } }

/-- The handle `DHT11_Init` fills; a timeout of 0 selects the default. -/
def Handle.fresh (timeoutUs : BitVec 32) : Handle where
  timeoutUs := if 0 < timeoutUs then timeoutUs else defaultTimeout
  data :=
    { humidityInt := 0
      humidityDec := 0
      temperatureInt := 0
      temperatureDec := 0
      checksum := 0
      humidity := 0
      temperature := 0
      isValid := false }

def initHandle (timeoutUs : BitVec 32) : Line (Bool × Handle) := do
  pinSetOutputHigh
  return (true, .fresh timeoutUs)

def readSample (handle : Handle) : Line (Bool × Handle) := do
  sendStartSignal
  if !(← waitResponse handle.timeoutUs) then
    pinSetOutputHigh
    return (false, handle)
  else
    let (ret, raw) ← readAllBits handle.timeoutUs
    if !ret then
      pinSetOutputHigh
      return (false, handle)
    else
      pinSetOutputHigh
      let handle := parseData handle raw
      return (handle.data.isValid, handle)

/-- `DHT11_GetTemperature`; a refusal writes nothing. -/
def getTemperature (handle : Handle) : Option Rat :=
  if !handle.data.isValid then none else some handle.data.temperature

def getHumidity (handle : Handle) : Option Rat :=
  if !handle.data.isValid then none else some handle.data.humidity

end LoraNode.Dht11
