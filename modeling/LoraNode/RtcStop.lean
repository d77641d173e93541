import LoraNode.PowerMachine

/-!
# Stopping the RTC

What `NODE_POWER_StopRtc` leaves when it succeeds: the clock domain has seen
ENABLE cleared, so no flag can rise again, and nothing is pending. The record of
what happened before is carried through every access.
-/

namespace LoraNode.PowerMachine

open LoraNode.Foundation LoraNode.Foundation.Bytes LoraNode.Foundation.Program
  LoraNode.Foundation.Interference LoraNode.NodePower

variable {during : Guard Access Machine}

/-- The RTC interrupt is enabled and these happenings are on record, with every
write to the timer among them. -/
structure Known (happenings : List Happening) (machine : Machine) : Prop where
  irqEnabled : machine.rtcIrqEnabled = true
  shown : Shows happenings machine
  written : machine.trace.filter timerWrite = happenings.filter timerWrite

theorem moves_irqEnabled {machine next : Machine} (moved : Moves machine next) :
    next.rtcIrqEnabled = machine.rtcIrqEnabled := by
  cases moved <;> rfl

theorem moves_written {machine next : Machine} (moved : Moves machine next) :
    next.trace.filter timerWrite = machine.trace.filter timerWrite := by
  cases moved <;> rfl

theorem effect_irqEnabled {Reply : Type} (machine : Machine) (call : Access Reply) :
    (machine.effect call).rtcIrqEnabled = machine.rtcIrqEnabled := by
  cases call <;> rfl

theorem known_stable (happenings : List Happening) : Stable power (Known happenings) := by
  intro machine next known moved
  constructor
  · exact (moves_irqEnabled moved).trans known.irqEnabled
  · exact shows_stable happenings machine next known.shown moved
  · exact (moves_written moved).trans known.written

section Known

variable {Reply : Type} {happenings : List Happening} {machine : Machine}

theorem known_access (known : Known happenings machine) (call : Access Reply) (answer : Reply) :
    Known (.own ⟨call, answer⟩ :: happenings)
      ((machine.effect call).record (.own ⟨call, answer⟩)) := by
  constructor
  · exact (effect_irqEnabled machine call).trans known.irqEnabled
  · exact shows_access known.shown call answer
  · rw [Machine.record, effect_trace, List.filter_cons, List.filter_cons, known.written]

theorem known_passed (known : Known happenings machine) {call : Access Reply} (answer : Reply)
    (passes : writesTimer call = false) :
    Known happenings ((machine.effect call).record (.own ⟨call, answer⟩)) := by
  have recorded := known_access known call answer
  have unwritten : timerWrite (.own ⟨call, answer⟩) = false := passes
  constructor
  · exact recorded.irqEnabled
  · exact (List.sublist_cons_self _ happenings).trans recorded.shown
  · rw [recorded.written, List.filter_cons, unwritten]
    simp

end Known

section Access

variable {Reply : Type} {call : Access Reply} {before : Machine → Prop}
  {after : Reply → Machine → Prop} {happenings : List Happening}

/-- One access that goes from one assertion to another and is put on record. -/
theorem triple_recorded (stable : Stable power before)
    (stableAfter : ∀ answer, Stable power (after answer))
    (guarded : ∀ machine, before machine → during call machine)
    (does : ∀ machine answer, before machine → machine.handler = .idle →
      machine.replies call answer →
      after answer ((machine.effect call).record (.own ⟨call, answer⟩))) :
    Triple power during (fun machine => before machine ∧ Known happenings machine) (access call)
      fun answer machine => after answer machine ∧
        Known (.own ⟨call, answer⟩ :: happenings) machine := by
  apply triple_access (stable_and stable (known_stable happenings))
  · exact fun answer => stable_and (stableAfter answer) (known_stable _)
  · exact fun machine holds => guarded machine holds.1
  · intro machine answer holds idle replied
    exact ⟨does machine answer holds.1 idle replied, known_access holds.2 call answer⟩

/-- The same for an access that is not worth a record. -/
theorem triple_passed (stable : Stable power before)
    (stableAfter : ∀ answer, Stable power (after answer))
    (guarded : ∀ machine, before machine → during call machine)
    (passes : writesTimer call = false)
    (does : ∀ machine answer, before machine → machine.handler = .idle →
      machine.replies call answer →
      after answer ((machine.effect call).record (.own ⟨call, answer⟩))) :
    Triple power during (fun machine => before machine ∧ Known happenings machine) (access call)
      fun answer machine => after answer machine ∧ Known happenings machine := by
  apply triple_access (stable_and stable (known_stable happenings))
  · exact fun answer => stable_and (stableAfter answer) (known_stable _)
  · exact fun machine holds => guarded machine holds.1
  · intro machine answer holds idle replied
    exact ⟨does machine answer holds.1 idle replied, known_passed holds.2 answer passes⟩

end Access

theorem synced_stable : Stable power fun machine => machine.synced = true := by
  intro machine next synced moved
  cases moved with
  | synchronize busy => rfl
  | _ => exact synced

/-- `NODE_POWER_WaitRtcSync` keeps what its polls keep. -/
theorem waitRtcSync_waits {before : Machine → Prop} (stable : Stable power before)
    (kept : ∀ machine answer, before machine →
      before (machine.record (.own ⟨Access.rtcSyncBusy, answer⟩)))
    (guarded : ∀ machine, before machine → during Access.rtcSyncBusy machine)
    (happenings : List Happening) :
    Triple power during (fun machine => before machine ∧ Known happenings machine) waitRtcSync
      fun inTime machine => (before machine ∧ Known happenings machine) ∧
        (inTime = true → machine.synced = true) := by
  apply triple_waitWhile (stable_and stable (known_stable happenings)) synced_stable
  apply triple_access (stable_and stable (known_stable happenings))
  · exact fun answer => stable_and (stable_and stable (known_stable happenings))
      (stable_imp synced_stable)
  · exact fun machine holds => guarded machine holds.1
  · intro machine answer holds _ replied
    refine ⟨⟨kept machine answer holds.1, known_passed holds.2 answer rfl⟩, ?_⟩
    intro idle
    subst idle
    have synced : machine.synced = true := by simpa [Machine.replies] using replied
    exact synced

def Silent (machine : Machine) : Prop := machine.inten &&& rtcInterruptMask = 0

theorem silent_stable : Stable power Silent := by
  intro machine next silent moved
  cases moved <;> exact silent

/-- ENABLE is cleared, and the clock domain will see it with the next synchronization. -/
structure Stopping (machine : Machine) : Prop where
  disabled : ¬machine.enabled
  silent : Silent machine
  still : machine.synced = true → machine.running = false

theorem stopping_stable : Stable power Stopping := by
  intro machine next stopping moved
  have silent := silent_stable machine next stopping.silent moved
  cases moved with
  | synchronize busy =>
      exact ⟨stopping.disabled, silent, fun _ => decide_eq_false stopping.disabled⟩
  | _ => exact ⟨stopping.disabled, silent, stopping.still⟩

def Stopped (machine : Machine) : Prop := Stopping machine ∧ machine.synced = true

theorem stopped_stable : Stable power Stopped := stable_and stopping_stable synced_stable

theorem stopped_counts {machine : Machine} (stopped : Stopped machine) : ¬machine.counting := by
  intro counting
  rcases counting with running | enabled
  · rw [stopped.1.still stopped.2] at running
    exact absurd running (by decide)
  · exact stopped.1.disabled enabled

structure Flagless (machine : Machine) : Prop where
  stopped : Stopped machine
  flags : machine.intflag &&& rtcInterruptMask = 0

theorem flagless_stable : Stable power Flagless := by
  intro machine next flagless moved
  have stopped := stopped_stable machine next flagless.stopped moved
  have counts := stopped_counts flagless.stopped
  cases moved with
  | compare counting => exact absurd counting counts
  | overflow counting => exact absurd counting counts
  | synchronize busy =>
      rw [flagless.stopped.2] at busy
      exact absurd busy (by decide)
  | clearFlags cause caused =>
      refine ⟨stopped, ?_⟩
      rw [BitVec.and_assoc, BitVec.and_comm (~~~_), ← BitVec.and_assoc, flagless.flags]
      decide
  | _ => exact ⟨stopped, flagless.flags⟩

structure Resting (machine : Machine) : Prop where
  flagless : Flagless machine
  unpended : machine.rtcPending = false
  idle : machine.handler = .idle

theorem resting_stable : Stable power Resting := by
  intro machine next resting moved
  have flagless := flagless_stable machine next resting.flagless moved
  have counts := stopped_counts resting.flagless.stopped
  have idle := resting.idle
  cases moved with
  | compare counting => exact absurd counting counts
  | overflow counting => exact absurd counting counts
  | synchronize busy =>
      rw [resting.flagless.stopped.2] at busy
      exact absurd busy (by decide)
  | pend asserted =>
      rw [BitVec.and_assoc, resting.flagless.stopped.1.silent] at asserted
      simp at asserted
  | enter unmasked _ enabled pending =>
      rw [resting.unpended] at pending
      exact absurd pending (by decide)
  | readCause entered => rw [idle] at entered; exact Handler.noConfusion entered
  | clearFlags cause caused => rw [idle] at caused; exact Handler.noConfusion caused
  | callback cause cleared => rw [idle] at cleared; exact Handler.noConfusion cleared
  | _ => exact ⟨flagless, resting.unpended, idle⟩

def Matched (flags : Byte) : Prop := flags &&& compareMatch ≠ 0

instance (flags : Byte) : Decidable (Matched flags) := inferInstanceAs (Decidable (_ ≠ _))

structure Clean (machine : Machine) : Prop where
  unmatched : ¬Matched machine.intflag
  unpended : machine.rtcPending = false
  idle : machine.handler = .idle
  unwoken : machine.rtcWakePending = false

def armingWrites (ticks : BitVec 64) (stop start : BitVec 16) : List Happening :=
  [.own ⟨.writeCtrl (start ||| enableMask), ()⟩, .own ⟨.writeComp (ticks.setWidth 32), ()⟩,
    .own ⟨.writeCount 0, ()⟩, .own ⟨.writeCtrl (stop &&& ~~~enableMask), ()⟩]

/-- What holds while the core is halted, and when ENABLE is written. -/
def halted (ticks : BitVec 64) : Guard Access Machine := fun call machine =>
  match call with
  | .wfi => machine.rtcWakePending = false ∧
      (machine.compared = false ∨ machine.rtcPending = true ∧ machine.rtcIrqEnabled = true) ∧
      ∃ stop start, machine.trace.filter timerWrite = armingWrites ticks stop start
  | .writeCtrl value => value &&& enableMask ≠ 0 → Clean machine
  | _ => True

def stopRecord (ctrl : BitVec 16) : List Happening :=
  [.own ⟨.clearPendingIrq, ()⟩, .own ⟨.writeIntflag rtcInterruptMask, ()⟩,
    .own ⟨.writeCtrl (ctrl &&& ~~~enableMask), ()⟩, .own ⟨.writeIntenclr rtcInterruptMask, ()⟩]

theorem cleared_mask (value mask : Byte) : value &&& ~~~mask &&& mask = 0 := by
  rw [BitVec.and_assoc]
  simp

theorem enable_cleared (ctrl : BitVec 16) : ctrl &&& ~~~enableMask &&& enableMask = 0 := by
  rw [BitVec.and_assoc]
  simp

/-- A failed preparation says nothing. -/
theorem triple_failed {before after : Machine → Prop} (stable : Stable power after) :
    Triple power during before (pure false) fun ready machine => ready = true → after machine :=
  triple_pure (stable_imp stable) fun _ _ => nofun

/-- `NODE_POWER_StopRtc` succeeds only with the RTC at rest. -/
theorem stopRtc_rests (ticks : BitVec 64) (happenings : List Happening) :
    Triple power (halted ticks) (fun machine => True ∧ Known happenings machine) stopRtc
      fun ready machine => ready = true →
        ∃ ctrl, Resting machine ∧ Known (stopRecord ctrl ++ happenings) machine := by
  have stable : Stable power fun machine =>
      ∃ ctrl, Resting machine ∧ Known (stopRecord ctrl ++ happenings) machine :=
    stable_exists fun ctrl => stable_and resting_stable (known_stable _)
  have silenced : Triple power (halted ticks) (fun machine => True ∧ Known happenings machine)
      (access (.writeIntenclr rtcInterruptMask)) fun _ machine => Silent machine ∧
        Known (.own ⟨.writeIntenclr rtcInterruptMask, ()⟩ :: happenings) machine :=
    triple_recorded (stable_fact True) (fun _ => silent_stable) (fun _ _ => trivial)
      fun machine _ _ _ _ => cleared_mask machine.inten rtcInterruptMask
  have read (known : List Happening) : Triple power (halted ticks)
      (fun machine => Silent machine ∧ Known known machine) (access .readCtrl)
      fun _ machine => Silent machine ∧ Known known machine :=
    triple_passed silent_stable (fun _ => silent_stable) (fun _ _ => trivial) rfl
      fun _ _ silent _ _ => silent
  have disabled (ctrl : BitVec 16) (known : List Happening) : Triple power (halted ticks)
      (fun machine => Silent machine ∧ Known known machine)
      (access (.writeCtrl (ctrl &&& ~~~enableMask))) fun _ machine => Stopping machine ∧
        Known (.own ⟨.writeCtrl (ctrl &&& ~~~enableMask), ()⟩ :: known) machine :=
    triple_recorded silent_stable (fun _ => stopping_stable)
      (fun _ _ enables => absurd (enable_cleared ctrl) enables)
      fun _ _ silent _ _ => ⟨fun enabled => enabled (enable_cleared ctrl), silent, nofun⟩
  have unflagged (known : List Happening) : Triple power (halted ticks)
      (fun machine => Stopped machine ∧ Known known machine)
      (access (.writeIntflag rtcInterruptMask)) fun _ machine => Flagless machine ∧
        Known (.own ⟨.writeIntflag rtcInterruptMask, ()⟩ :: known) machine :=
    triple_recorded stopped_stable (fun _ => flagless_stable) (fun _ _ => trivial)
      fun machine _ stopped _ _ =>
        ⟨⟨⟨stopped.1.disabled, stopped.1.silent, stopped.1.still⟩, stopped.2⟩,
          cleared_mask machine.intflag rtcInterruptMask⟩
  have unpended (known : List Happening) : Triple power (halted ticks)
      (fun machine => Flagless machine ∧ Known known machine) (access .clearPendingIrq)
      fun _ machine => Resting machine ∧ Known (.own ⟨.clearPendingIrq, ()⟩ :: known) machine :=
    triple_recorded flagless_stable (fun _ => resting_stable) (fun _ _ => trivial)
      fun _ _ flagless idle _ =>
        have stopping := flagless.stopped.1
        ⟨⟨⟨⟨stopping.disabled, stopping.silent, stopping.still⟩, flagless.stopped.2⟩,
          flagless.flags⟩, rfl, idle⟩
  rw [stopRtc]
  apply triple_seq (waitRtcSync_waits (stable_fact True) (fun _ _ _ => trivial)
    (fun _ _ => trivial) happenings)
  intro inTime
  apply triple_ite
  · exact fun _ => triple_failed stable
  · intro _
    apply triple_seq (triple_pre silenced fun _ holds => holds.1)
    intro _
    apply triple_seq (read _)
    intro ctrl
    apply triple_seq (disabled ctrl _)
    intro _
    apply triple_seq (waitRtcSync_waits stopping_stable (fun _ _ stopping =>
      ⟨stopping.disabled, stopping.silent, stopping.still⟩) (fun _ _ => trivial) _)
    intro inTime
    apply triple_ite
    · exact fun _ => triple_failed stable
    · intro waited
      have inTime : inTime = true := by simpa using waited
      apply triple_seq (triple_pre (unflagged _) fun _ holds =>
        ⟨⟨holds.1.1, holds.2 inTime⟩, holds.1.2⟩)
      intro _
      apply triple_seq (unpended _)
      intro _
      apply triple_pure
      · exact stable_imp stable
      · exact fun _ holds _ => ⟨ctrl, holds⟩

end LoraNode.PowerMachine
