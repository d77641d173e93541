import LoraNode.Foundation.Program
import LoraNode.Sx1278

/-!
# RTC and Standby (`node_power.c`, `node_power.h`)

Every access to a register, to a peripheral library and to the flag the RTC
callback sets is a call of the program, in the order of the source. Barriers are
left out. Names leave out the prefix `NODE_POWER_`.
-/

namespace LoraNode.NodePower

open LoraNode.Foundation LoraNode.Foundation.Bytes LoraNode.Foundation.Program LoraNode.Sx1278

def waitAttempts : Nat := 1000000
def radioOpMode : Byte := 0x01
def radioModeMask : Byte := 0xF8

def enableMask : BitVec 16 := 0x0002

/-- `RTC_MODE0_INTENSET_Msk` and `RTC_MODE0_INTFLAG_Msk` -/
def rtcInterruptMask : Byte := 0xC1

def compareMatch : Byte := 0x01

def sleepDeepMask : BitVec 32 := 0x00000004

inductive Access : Type → Type where
  | usartWriteIsBusy : Access Bool
  | usartTransmitComplete : Access Bool
  | spiIsBusy : Access Bool
  | setNss (high : Bool) : Access Unit
  | spiWriteRead (command value : Byte) : Access Bool
  | spiRx1 : Access Byte
  | rtcSyncBusy : Access Bool
  | readCtrl : Access (BitVec 16)
  | writeCtrl (value : BitVec 16) : Access Unit
  | writeCount (value : BitVec 32) : Access Unit
  | writeComp (value : BitVec 32) : Access Unit
  | writeIntenclr (mask : Byte) : Access Unit
  | writeIntenset (mask : Byte) : Access Unit
  | writeIntflag (mask : Byte) : Access Unit
  | clearPendingIrq : Access Unit
  | getEnableIrq : Access Bool
  | getIpsr : Access (BitVec 32)
  | getPrimask : Access Bool
  | setPrimask (masked : Bool) : Access Unit
  | readScr : Access (BitVec 32)
  | writeScr (value : BitVec 32) : Access Unit
  | wfi : Access Unit
  | readWakePending : Access Bool
  | writeWakePending (value : Bool) : Access Unit

abbrev Power := Program Access

def access {Reply : Type} (call : Access Reply) : Power Reply := perform call

/-- `NVIC_INT_Disable`: whether interrupts were enabled. -/
def intDisable : Power Bool := do
  let masked ← access .getPrimask
  access (.setPrimask true)
  return !masked

def intRestore (state : Bool) : Power Unit := access (.setPrimask (!state))

def pmStandbyModeEnter : Power Unit := do
  let scr ← access .readScr
  access (.writeScr (scr ||| sleepDeepMask))
  access .wfi

/-- The flag after `NODE_POWER_RtcCallback`. -/
def rtcCallback (cause : Byte) (rtcWakePending : Bool) : Bool :=
  if cause &&& compareMatch ≠ 0 then true else rtcWakePending

def waitRtcSync : Power Bool := waitWhile (access .rtcSyncBusy) waitAttempts

def stopRtc : Power Bool := do
  if !(← waitRtcSync) then return false
  else
    access (.writeIntenclr rtcInterruptMask)
    let ctrl ← access .readCtrl
    access (.writeCtrl (ctrl &&& ~~~enableMask))
    if !(← waitRtcSync) then return false
    else
      access (.writeIntflag rtcInterruptMask)
      access .clearPendingIrq
      return true

def waitSpi : Power Bool := waitWhile (access .spiIsBusy) waitAttempts

/-- `SERCOM5_USART_WriteIsBusy() || !SERCOM5_USART_TransmitComplete()` -/
def usartBusy : Power Bool := do
  if ← access .usartWriteIsBusy then return true
  else
    let complete ← access .usartTransmitComplete
    return !complete

def drainPeripherals : Power Bool := do
  if !(← waitWhile usartBusy waitAttempts) then return false else waitSpi

/-- `NODE_POWER_RadioRegister`, with `spiRx[1]` when the transfer is complete. -/
def radioRegister (command value : Byte) : Power (Option Byte) := do
  if !(← waitSpi) then return none
  else
    access (.setNss false)
    let started ← access (.spiWriteRead command value)
    let transferred ← if started then waitSpi else pure false
    access (.setNss true)
    if !transferred then return none
    else
      let received ← access .spiRx1
      return some received

def sleepRadio (module : Module) : Power (Bool × Module) := do
  match ← radioRegister radioOpMode 0 with
  | none => return (false, module)
  | some mode =>
      if mode &&& 0x80 = 0 then return (false, module)
      else
        let sleepMode := mode &&& radioModeMask
        match ← radioRegister (radioOpMode ||| 0x80) sleepMode with
        | none => return (false, module)
        | some _ =>
            match ← radioRegister radioOpMode 0 with
            | none => return (false, module)
            | some readBack =>
                if readBack ≠ sleepMode then return (false, module)
                else return (true, { module with status := .sleep, readBytes := 0 })

def ticksOf (intervalMs : BitVec 32) : BitVec 64 := (intervalMs.setWidth 64 * 1024 + 999) / 1000

/-- From `NODE_POWER_StopRtc` to the synchronized ENABLE. -/
def startRtc (ticks : BitVec 64) : Power Bool := do
  let ready ← stopRtc
  access (.writeWakePending false)
  if !ready then return false
  else
    access (.writeCount 0)
    if !(← waitRtcSync) then return false
    else
      access (.writeComp (ticks.setWidth 32))
      if !(← waitRtcSync) then return false
      else
        access (.writeIntenset compareMatch)
        let ctrl ← access .readCtrl
        access (.writeCtrl (ctrl ||| enableMask))
        waitRtcSync

/-- Arming, with interrupts masked. -/
def arm (ticks : BitVec 64) : Power Bool := do
  let interruptState ← intDisable
  let ready ← startRtc ticks
  intRestore interruptState
  return ready

/-- The inner check of the wait loop. -/
def standByUnlessWoken : Power Unit := do
  if ← access .readWakePending then return ()
  else pmStandbyModeEnter

/-- `while (!rtcWakePending)`, followed for so many turns; `false` when it would
still be turning. -/
def waitLoop (savedSleepDeep : BitVec 32) : Nat → Power Bool
  | 0 => return false
  | turns + 1 => do
      if ← access .readWakePending then return true
      else
        let interruptState ← intDisable
        standByUnlessWoken
        let scr ← access .readScr
        access (.writeScr ((scr &&& ~~~sleepDeepMask) ||| savedSleepDeep))
        intRestore interruptState
        waitLoop savedSleepDeep turns

def waitForWake (turns : Nat) : Power Bool := do
  let scr ← access .readScr
  waitLoop (scr &&& sleepDeepMask) turns

/-- The last block: stop the RTC with interrupts masked. -/
def disarm : Power Bool := do
  let interruptState ← intDisable
  let ready ← stopRtc
  intRestore interruptState
  return ready

structure Radio where
  hwPresent : Bool
  module : Module

structure SleepResult where
  returned : Bool
  powerReady : Bool
  radio : Option Radio

/-- The guards on the arguments and on `powerReady`, before anything is accessed. -/
def acceptable (powerReady : Bool) (radio : Option Radio) (ticks : BitVec 64) : Bool :=
  powerReady && (radio.elim false Radio.hwPresent) && ticks != 0 && ticks ≤ 0xFFFFFFFF

/-- `NODE_POWER_Sleep` after its guards. -/
def powerDown (turns : Nat) (pointed : Radio) (ticks : BitVec 64) :
    Power (Option SleepResult) := do
  if !(← drainPeripherals) then return some ⟨false, false, some pointed⟩
  else
    let (slept, module) ← sleepRadio pointed.module
    let radio := some { pointed with module := module }
    if !slept then return some ⟨false, false, radio⟩
    else if !(← arm ticks) then
      let _ ← stopRtc
      return some ⟨false, false, radio⟩
    else if !(← waitForWake turns) then return none
    else
      let ready ← disarm
      return some ⟨ready, ready, radio⟩

/-- `NODE_POWER_Sleep`; `none` while the wait loop is still turning after `turns`
turns. -/
def sleep (turns : Nat) (powerReady : Bool) (radio : Option Radio) (intervalMs : BitVec 32) :
    Power (Option SleepResult) := do
  let ticks := ticksOf intervalMs
  let rejected : SleepResult := ⟨false, powerReady, radio⟩
  match radio with
  | none => return some rejected
  | some pointed =>
      if !acceptable powerReady radio ticks then return some rejected
      else if (← access .getIpsr) ≠ 0 then return some rejected
      else if !(← access .getEnableIrq) then return some rejected
      else
        let interruptState ← intDisable
        intRestore interruptState
        if !interruptState then return some rejected else powerDown turns pointed ticks

section Only

variable {kind : {Reply : Type} → Access Reply → Prop}

theorem waitRtcSync_only (polls : kind Access.rtcSyncBusy) : waitRtcSync.Only kind :=
  only_waitWhile (only_perform polls) waitAttempts

/-- The calls of `NODE_POWER_StopRtc`. -/
theorem stopRtc_only (polls : kind Access.rtcSyncBusy) (reads : kind Access.readCtrl)
    (silences : kind (Access.writeIntenclr rtcInterruptMask))
    (disables : ∀ ctrl, kind (Access.writeCtrl (ctrl &&& ~~~enableMask)))
    (clears : kind (Access.writeIntflag rtcInterruptMask))
    (unpends : kind Access.clearPendingIrq) : stopRtc.Only kind := by
  apply only_bind (waitRtcSync_only polls)
  intro inTime
  apply only_ite (only_pure false)
  apply only_bind (only_perform silences)
  intro _
  apply only_bind (only_perform reads)
  intro ctrl
  apply only_bind (only_perform (disables ctrl))
  intro _
  apply only_bind (waitRtcSync_only polls)
  intro inTime
  apply only_ite (only_pure false)
  apply only_bind (only_perform clears)
  intro _
  apply only_bind (only_perform unpends)
  exact fun _ => only_pure true

theorem waitSpi_only (polls : kind Access.spiIsBusy) : waitSpi.Only kind :=
  only_waitWhile (only_perform polls) waitAttempts

theorem drainPeripherals_only (writes : kind Access.usartWriteIsBusy)
    (completes : kind Access.usartTransmitComplete) (polls : kind Access.spiIsBusy) :
    drainPeripherals.Only kind := by
  have polled : usartBusy.Only kind := by
    apply only_bind (only_perform writes)
    intro busy
    apply only_ite (only_pure true)
    exact only_bind (only_perform completes) fun _ => only_pure _
  apply only_bind (only_waitWhile polled waitAttempts)
  intro inTime
  exact only_ite (only_pure false) (waitSpi_only polls)

section Radio

variable (polls : kind Access.spiIsBusy) (selects : ∀ high, kind (Access.setNss high))
  (transfers : ∀ command value, kind (Access.spiWriteRead command value))
  (receives : kind Access.spiRx1)

include polls selects transfers receives

theorem radioRegister_only (command value : Byte) : (radioRegister command value).Only kind := by
  apply only_bind (waitSpi_only polls)
  intro idle
  apply only_ite (only_pure none)
  apply only_bind (only_perform (selects false))
  intro _
  apply only_bind (only_perform (transfers command value))
  intro started
  have ends (transferred : Bool) : (do
      access (.setNss true)
      if !transferred then return none
      else
        let received ← access .spiRx1
        return some received : Power (Option Byte)).Only kind := by
    apply only_bind (only_perform (selects true))
    intro _
    apply only_ite (only_pure none)
    exact only_bind (only_perform receives) fun received => only_pure (some received)
  exact only_ite (only_bind (waitSpi_only polls) ends) (ends false)

/-- The calls of `NODE_POWER_SleepRadio`. -/
theorem sleepRadio_only (module : Module) : (sleepRadio module).Only kind := by
  have transferred := radioRegister_only polls selects transfers receives
  apply only_bind (transferred radioOpMode 0)
  intro first
  cases first with
  | none => exact only_pure _
  | some mode =>
      apply only_ite (only_pure _)
      apply only_bind (transferred (radioOpMode ||| 0x80) (mode &&& radioModeMask))
      intro written
      cases written with
      | none => exact only_pure _
      | some _ =>
          apply only_bind (transferred radioOpMode 0)
          intro last
          cases last with
          | none => exact only_pure _
          | some readBack => exact only_ite (only_pure _) (only_pure _)

end Radio

section Wait

variable (looks : kind Access.getPrimask) (masks : ∀ masked, kind (Access.setPrimask masked))

include looks masks in
theorem intDisable_only : intDisable.Only kind :=
  only_bind (only_perform looks) fun _ => only_bind (only_perform (masks true)) fun _ =>
    only_pure _

variable (reads : kind Access.readScr) (writes : ∀ value, kind (Access.writeScr value))
  (halts : kind Access.wfi) (wakes : kind Access.readWakePending)

include reads writes halts wakes

theorem standByUnlessWoken_only : standByUnlessWoken.Only kind := by
  apply only_bind (only_perform wakes)
  intro woken
  apply only_ite (only_pure ())
  apply only_bind (only_perform reads)
  intro scr
  exact only_bind (only_perform (writes (scr ||| sleepDeepMask))) fun _ => only_perform halts

include looks masks

/-- The calls of the wait loop, however long it turns. -/
theorem waitLoop_only (savedSleepDeep : BitVec 32) (turns : Nat) :
    (waitLoop savedSleepDeep turns).Only kind := by
  induction turns with
  | zero => exact only_pure false
  | succ turns induction =>
      apply only_bind (only_perform wakes)
      intro woken
      apply only_ite (only_pure true)
      apply only_bind (intDisable_only looks masks)
      intro state
      apply only_bind (standByUnlessWoken_only reads writes halts wakes)
      intro _
      apply only_bind (only_perform reads)
      intro scr
      apply only_bind (only_perform (writes _))
      intro _
      exact only_bind (only_perform (masks (!state))) fun _ => induction

end Wait

end Only

end LoraNode.NodePower
