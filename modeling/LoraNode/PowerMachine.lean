import LoraNode.Foundation.Interference
import LoraNode.NodePower

/-!
# The core, the RTC and the interrupts around `NODE_POWER_Sleep`

Between two accesses of the main program the RTC may count to its compare value,
raise its other flags and finish a synchronization, and interrupts may be raised
and handled. `RTC_InterruptHandler` reads the cause, clears the flags and runs
the callback in three steps of its own. What happened is kept with the latest first.
-/

namespace LoraNode.PowerMachine

open LoraNode.Foundation LoraNode.Foundation.Bytes LoraNode.Foundation.Program
  LoraNode.Foundation.Interference LoraNode.NodePower

def overflow : Byte := 0x80

def syncReady : Byte := 0x40

/-- How far `RTC_InterruptHandler` is. -/
inductive Handler where
  | idle
  | entered
  | caused (cause : Byte)
  | cleared (cause : Byte)

inductive Happening where
  | own (entry : Entry Access)
  | compareFired
  | handlerCause (cause : Byte)
  | handlerDone (cause : Byte)

def writesTimer {Reply : Type} : Access Reply → Bool
  | .writeCtrl _ => true
  | .writeCount _ => true
  | .writeComp _ => true
  | _ => false

def timerWrite : Happening → Bool
  | .own entry => writesTimer entry.call
  | _ => false

structure Machine where
  primask : Bool
  ipsr : BitVec 32
  scr : BitVec 32
  rtcIrqEnabled : Bool
  rtcPending : Bool
  /-- Some other interrupt is enabled and pending. -/
  otherPending : Bool
  ctrl : BitVec 16
  inten : Byte
  intflag : Byte
  /-- The last write to a synchronized register has reached the clock domain. -/
  synced : Bool
  /-- ENABLE as the clock domain sees it. -/
  running : Bool
  handler : Handler
  rtcWakePending : Bool
  /-- The compare fired since the control register was written. -/
  compared : Bool
  trace : List Happening

def Machine.enabled (machine : Machine) : Prop := machine.ctrl &&& enableMask ≠ 0

instance (machine : Machine) : Decidable machine.enabled := inferInstanceAs (Decidable (_ ≠ _))

def Machine.counting (machine : Machine) : Prop := machine.running = true ∨ machine.enabled

def Machine.raise (machine : Machine) (flag : Byte) : Machine :=
  { machine with
    intflag := machine.intflag ||| flag
    rtcPending := machine.rtcPending || machine.inten &&& flag != 0 }

def Machine.record (machine : Machine) (happening : Happening) : Machine :=
  { machine with trace := happening :: machine.trace }

/-- WFI returns when an enabled interrupt is pending, masked or not. -/
def Machine.released (machine : Machine) : Prop :=
  machine.rtcPending = true ∧ machine.rtcIrqEnabled = true ∨ machine.otherPending = true

/-- The steps of the RTC, of its handler and of other interrupts. -/
inductive Moves (machine : Machine) : Machine → Prop where
  | compare (counting : machine.counting) :
      Moves machine ({ machine.raise compareMatch with compared := true }.record .compareFired)
  | overflow (counting : machine.counting) : Moves machine (machine.raise overflow)
  | synchronize (busy : machine.synced = false) :
      Moves machine { machine.raise syncReady with
        synced := true, running := decide machine.enabled }
  | pend (asserted : machine.intflag &&& machine.inten &&& rtcInterruptMask ≠ 0) :
      Moves machine { machine with rtcPending := true }
  | otherRaised : Moves machine { machine with otherPending := true }
  | otherHandled (unmasked : machine.primask = false) :
      Moves machine { machine with otherPending := false }
  | enter (unmasked : machine.primask = false) (idle : machine.handler = .idle)
      (enabled : machine.rtcIrqEnabled = true) (pending : machine.rtcPending = true) :
      Moves machine { machine with rtcPending := false, handler := .entered }
  | readCause (entered : machine.handler = .entered) :
      Moves machine ({ machine with handler := .caused machine.intflag }.record
        (.handlerCause machine.intflag))
  | clearFlags (cause : Byte) (caused : machine.handler = .caused cause) :
      Moves machine { machine with
        handler := .cleared cause, intflag := machine.intflag &&& ~~~rtcInterruptMask }
  | callback (cause : Byte) (cleared : machine.handler = .cleared cause) :
      Moves machine ({ machine with
        handler := .idle
        rtcWakePending := rtcCallback cause machine.rtcWakePending }.record (.handlerDone cause))

def Machine.effect {Reply : Type} (machine : Machine) : Access Reply → Machine
  | .writeCtrl value => { machine with ctrl := value, synced := false, compared := false }
  | .writeCount _ => { machine with synced := false }
  | .writeComp _ => { machine with synced := false }
  | .writeIntenclr mask => { machine with inten := machine.inten &&& ~~~mask }
  | .writeIntenset mask => { machine with inten := machine.inten ||| mask }
  | .writeIntflag mask => { machine with intflag := machine.intflag &&& ~~~mask }
  | .clearPendingIrq => { machine with rtcPending := false }
  | .setPrimask masked => { machine with primask := masked }
  | .writeScr value => { machine with scr := value }
  | .writeWakePending value => { machine with rtcWakePending := value }
  | _ => machine

/-- What an answer tells; the UART, the SPI and the radio answer anything. -/
def Machine.replies {Reply : Type} (machine : Machine) : Access Reply → Reply → Prop
  | .rtcSyncBusy, answer => answer = !machine.synced
  | .readCtrl, answer => answer = machine.ctrl
  | .getEnableIrq, answer => answer = machine.rtcIrqEnabled
  | .getIpsr, answer => answer = machine.ipsr
  | .getPrimask, answer => answer = machine.primask
  | .readScr, answer => answer = machine.scr
  | .readWakePending, answer => answer = machine.rtcWakePending
  | .wfi, _ => machine.released
  | _, _ => True

/-- The main program runs only while the handler does not. -/
def power : Setting Access Machine where
  answers machine call answer next :=
    machine.handler = .idle ∧ machine.replies call answer ∧
      next = (machine.effect call).record (.own ⟨call, answer⟩)
  interferes := Moves

variable {during : Guard Access Machine} {pre : Machine → Prop}

theorem triple_access {Reply : Type} {call : Access Reply} {post : Reply → Machine → Prop}
    (stable : Stable power pre) (stablePost : ∀ answer, Stable power (post answer))
    (guarded : ∀ machine, pre machine → during call machine)
    (does : ∀ machine answer, pre machine → machine.handler = .idle → machine.replies call answer →
      post answer ((machine.effect call).record (.own ⟨call, answer⟩))) :
    Triple power during pre (access call) post := by
  apply triple_perform stable stablePost guarded
  intro machine answer next holds answered
  obtain ⟨idle, replied, rfl⟩ := answered
  exact does machine answer holds idle replied

/-- These happenings took place in this order, the latest first. -/
def Shows (happenings : List Happening) (machine : Machine) : Prop :=
  happenings.Sublist machine.trace

theorem shows_next {happenings : List Happening} {machine : Machine}
    (shown : Shows happenings machine) (happening : Happening) :
    Shows (happening :: happenings) (machine.record happening) :=
  shown.cons_cons happening

theorem shows_stable (happenings : List Happening) : Stable power (Shows happenings) := by
  intro machine next shown moved
  cases moved with
  | compare counting => exact shown.cons _
  | readCause entered => exact shown.cons _
  | callback cause cleared => exact shown.cons _
  | _ => exact shown

theorem effect_trace {Reply : Type} (machine : Machine) (call : Access Reply) :
    (machine.effect call).trace = machine.trace := by
  cases call <;> rfl

/-- An access is shown after what was shown before it. -/
theorem shows_access {Reply : Type} {happenings : List Happening} {machine : Machine}
    (shown : Shows happenings machine) (call : Access Reply) (answer : Reply) :
    Shows (.own ⟨call, answer⟩ :: happenings)
      ((machine.effect call).record (.own ⟨call, answer⟩)) := by
  have kept : Shows happenings (machine.effect call) := by
    rw [Shows, effect_trace]
    exact shown
  exact shows_next kept _

end LoraNode.PowerMachine
