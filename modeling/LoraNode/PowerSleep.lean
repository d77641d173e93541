import Mathlib.Order.Bounds.Defs
import LoraNode.RtcWakeup

/-!
# What a successful sleep has done

Every step of `NODE_POWER_Sleep` is on record, the latest first: the drained
peripherals, the verified radio mode, the armed timer, the handled compare and
the stopped timer. The call returns true only with the whole record.
-/

namespace LoraNode.PowerMachine

open LoraNode.Foundation LoraNode.Foundation.Bytes LoraNode.Foundation.Program
  LoraNode.Foundation.Interference LoraNode.NodePower LoraNode.Sx1278

variable {ticks : BitVec 64} {happenings : List Happening}

section Ticks

/-- The computation in 64 bits neither overflows nor truncates. -/
theorem ticksOf_toNat (intervalMs : BitVec 32) :
    (ticksOf intervalMs).toNat = (intervalMs.toNat * 1024 + 999) / 1000 := by
  have bound := intervalMs.isLt
  have scaled : (intervalMs.setWidth 64 * 1024 + 999 : BitVec 64).toNat =
      intervalMs.toNat * 1024 + 999 := by
    rw [BitVec.toNat_add, BitVec.toNat_mul, BitVec.toNat_setWidth]
    change ((intervalMs.toNat % 2 ^ 64 * 1024) % 2 ^ 64 + 999) % 2 ^ 64 = _
    omega
  rw [ticksOf, BitVec.toNat_udiv, scaled]
  rfl

theorem ticks_least (intervalMs : BitVec 32) :
    IsLeast {count : Nat | 1024 * intervalMs.toNat ≤ 1000 * count} (ticksOf intervalMs).toNat := by
  rw [ticksOf_toNat]
  constructor
  · change 1024 * intervalMs.toNat ≤ 1000 * _
    omega
  · intro count enough
    change 1024 * intervalMs.toNat ≤ 1000 * count at enough
    omega

/-- COMP takes the whole tick count. -/
theorem comp_toNat {ticks : BitVec 64} (fits : ticks ≤ 0xFFFFFFFF) :
    (ticks.setWidth 32).toNat = ticks.toNat := by
  have bound : ticks.toNat ≤ 0xFFFFFFFF := fits
  rw [BitVec.toNat_setWidth]
  exact Nat.mod_eq_of_lt (by omega)

end Ticks

section Record

def drainRecord : List Happening :=
  [.own ⟨.spiIsBusy, false⟩, .own ⟨.usartTransmitComplete, true⟩,
    .own ⟨.usartWriteIsBusy, false⟩]

/-- RegOpMode is read, written and read back; the byte of the write is ignored. -/
def radioRecord (mode ignored : Byte) : List Happening :=
  [.own ⟨.spiRx1, mode &&& radioModeMask⟩, .own ⟨.spiWriteRead radioOpMode 0, true⟩,
    .own ⟨.spiRx1, ignored⟩,
    .own ⟨.spiWriteRead (radioOpMode ||| 0x80) (mode &&& radioModeMask), true⟩,
    .own ⟨.spiRx1, mode⟩, .own ⟨.spiWriteRead radioOpMode 0, true⟩]

theorem known_forget {happening : Happening} {machine : Machine}
    (known : Known (happening :: happenings) machine) (other : timerWrite happening = false) :
    Known happenings machine := by
  constructor
  · exact known.irqEnabled
  · exact (List.sublist_cons_self happening happenings).trans known.shown
  · rw [known.written, List.filter_cons, other]
    simp

/-- An access that is put on record. -/
theorem known_recorded {Reply : Type} (call : Access Reply)
    (guarded : ∀ machine, halted ticks call machine) (happenings : List Happening) :
    Triple power (halted ticks) (Known happenings) (access call) fun answer =>
      Known (.own ⟨call, answer⟩ :: happenings) :=
  triple_access (known_stable happenings) (fun _ => known_stable _)
    (fun machine _ => guarded machine) fun _ answer known _ _ => known_access known call answer

theorem waitSpi_drains (happenings : List Happening) :
    Triple power (halted ticks) (Known happenings) waitSpi fun inTime machine =>
      Known happenings machine ∧
        (inTime = true → Known (.own ⟨.spiIsBusy, false⟩ :: happenings) machine) := by
  apply triple_waitWhile (known_stable happenings) (known_stable _)
  apply triple_mono (known_recorded .spiIsBusy (fun _ => trivial) happenings) (fun _ known => known)
  intro busy machine known
  refine ⟨known_forget known rfl, ?_⟩
  intro idle
  subst idle
  exact known

theorem usartBusy_polls (happenings : List Happening) :
    Triple power (halted ticks) (Known happenings) usartBusy fun busy machine =>
      Known happenings machine ∧ (busy = false →
        Known (.own ⟨.usartTransmitComplete, true⟩ :: .own ⟨.usartWriteIsBusy, false⟩ ::
          happenings) machine) := by
  rw [usartBusy]
  apply triple_seq (known_recorded .usartWriteIsBusy (fun _ => trivial) happenings)
  intro busy
  apply triple_ite
  · intro _
    apply triple_pure
    · exact stable_and (known_stable _) (stable_imp (known_stable _))
    · exact fun _ known => ⟨known_forget known rfl, nofun⟩
  · intro idle
    rw [Bool.eq_false_iff.mpr idle]
    apply triple_seq (known_recorded .usartTransmitComplete (fun _ => trivial) _)
    intro complete
    apply triple_pure
    · exact stable_and (known_stable _) (stable_imp (known_stable _))
    · intro machine known
      refine ⟨known_forget (known_forget known rfl) rfl, ?_⟩
      intro finished
      have sent : complete = true := by simpa using finished
      exact sent ▸ known

theorem drainPeripherals_drains (happenings : List Happening) :
    Triple power (halted ticks) (Known happenings) drainPeripherals fun drained machine =>
      drained = true → Known (drainRecord ++ happenings) machine := by
  rw [drainPeripherals]
  apply triple_seq (triple_waitWhile (known_stable happenings) (known_stable _)
    (usartBusy_polls happenings) waitAttempts)
  intro inTime
  apply triple_ite
  · exact fun _ => triple_failed (known_stable _)
  · intro sent
    have inTime : inTime = true := by simpa using sent
    apply triple_mono (waitSpi_drains _) fun _ holds => holds.2 inTime
    exact fun _ _ holds => holds.2

def Transferred (command value : Byte) (happenings : List Happening) (answer : Option Byte)
    (machine : Machine) : Prop :=
  answer.elim True fun received =>
    Known (.own ⟨.spiRx1, received⟩ :: .own ⟨.spiWriteRead command value, true⟩ :: happenings)
      machine

theorem radioRegister_transfers (command value : Byte) (happenings : List Happening) :
    Triple power (halted ticks) (Known happenings) (radioRegister command value)
      (Transferred command value happenings) := by
  have failed : ∀ facts : Machine → Prop, Triple power (halted ticks) facts (pure none)
      (Transferred command value happenings) :=
    fun _ => triple_pure (stable_fact True) fun _ _ => trivial
  have nss (high : Bool) (known : List Happening) : Triple power (halted ticks) (Known known)
      (access (.setNss high)) fun _ => Known known :=
    known_only known (aside_access (.setNss high) trivial rfl fun _ => trivial)
  rw [radioRegister]
  apply triple_seq (waitSpi_drains happenings)
  intro idle
  apply triple_ite
  · exact fun _ => failed _
  · intro _
    apply triple_seq (triple_pre (nss false happenings) fun _ holds => holds.1)
    intro _
    apply triple_seq (known_recorded (.spiWriteRead command value) (fun _ => trivial) happenings)
    intro started
    cases started with
    | false =>
        have refused : Triple power (halted ticks)
            (Known (.own ⟨.spiWriteRead command value, false⟩ :: happenings))
            (access (.setNss true) >>= fun _ => pure none)
            (Transferred command value happenings) :=
          triple_seq (nss true _) fun _ => failed _
        exact refused
    | true =>
        apply triple_seq (waitSpi_drains _)
        intro transferred
        apply triple_seq (triple_pre (nss true _) fun _ holds => holds.1)
        intro _
        apply triple_ite
        · exact fun _ => failed _
        · intro _
          apply triple_seq (known_recorded .spiRx1 (fun _ => trivial) _)
          intro received
          exact triple_pure (known_stable _) fun _ known => known

def RadioSlept (happenings : List Happening) (machine : Machine) : Prop :=
  ∃ mode ignored, mode &&& 0x80 ≠ 0 ∧ Known (radioRecord mode ignored ++ happenings) machine

theorem radioSlept_stable (happenings : List Happening) : Stable power (RadioSlept happenings) :=
  stable_exists fun _ => stable_exists fun _ => stable_and (stable_fact _) (known_stable _)

theorem sleepRadio_recorded (module : Module) (happenings : List Happening) :
    Triple power (halted ticks) (Known happenings) (sleepRadio module) fun result machine =>
      result.1 = true → RadioSlept happenings machine := by
  have failed : ∀ facts : Machine → Prop, Triple power (halted ticks) facts
      (pure (false, module)) fun result machine =>
        result.1 = true → RadioSlept happenings machine :=
    fun _ => triple_pure (stable_imp (radioSlept_stable happenings)) fun _ _ => nofun
  rw [sleepRadio]
  apply triple_seq (radioRegister_transfers radioOpMode 0 happenings)
  intro first
  cases first with
  | none => exact failed _
  | some mode =>
      apply triple_ite
      · exact fun _ => failed _
      · intro lora
        apply triple_seq (radioRegister_transfers (radioOpMode ||| 0x80) (mode &&& radioModeMask) _)
        intro written
        cases written with
        | none => exact failed _
        | some ignored =>
            apply triple_seq (radioRegister_transfers radioOpMode 0 _)
            intro last
            cases last with
            | none => exact failed _
            | some readBack =>
                apply triple_ite
                · exact fun _ => failed _
                · intro same
                  have verified : readBack = mode &&& radioModeMask := not_not.mp same
                  subst verified
                  apply triple_pure
                  · exact stable_imp (radioSlept_stable happenings)
                  · exact fun _ known _ => ⟨mode, ignored, lora, known⟩

end Record

/-- The steps of a sleep that succeeded, the latest first. -/
def sleepRecord (ticks : BitVec 64) (mode ignored cause : Byte) (stop start finish : BitVec 16) :
    List Happening :=
  stopRecord finish ++ (wakeRecord cause ++ (armRecord ticks stop start ++
    (radioRecord mode ignored ++ drainRecord)))

/-- All that a true result promises. -/
structure Slept (intervalMs : BitVec 32) (machine : Machine) : Prop where
  steps : ∃ mode ignored cause stop start finish, mode &&& 0x80 ≠ 0 ∧ Matched cause ∧
    Shows (sleepRecord (ticksOf intervalMs) mode ignored cause stop start finish) machine
  least : IsLeast {count : Nat | 1024 * intervalMs.toNat ≤ 1000 * count}
    ((ticksOf intervalMs).setWidth 32).toNat
  positive : 1 ≤ ((ticksOf intervalMs).setWidth 32).toNat
  resting : Resting machine

def Begun (machine : Machine) : Prop := machine.trace.filter timerWrite = []

theorem begun_stable : Stable power Begun :=
  fun _ _ begun moved => (moves_written moved).trans begun

theorem slept_stable (intervalMs : BitVec 32) : Stable power (Slept intervalMs) := by
  intro machine next slept moved
  obtain ⟨mode, ignored, cause, stop, start, finish, lora, matched, shown⟩ := slept.steps
  constructor
  · exact ⟨mode, ignored, cause, stop, start, finish, lora, matched,
      shows_stable _ machine next shown moved⟩
  · exact slept.least
  · exact slept.positive
  · exact resting_stable machine next slept.resting moved

def Unasked (ticks : BitVec 64) {Reply : Type} (call : Access Reply) : Prop :=
  ∀ machine, halted ticks call machine

theorem unasked_runs {Result : Type} {program : Power Result}
    (only : program.Only (Unasked ticks)) :
    Triple power (halted ticks) (fun _ => True) program fun _ _ => True := by
  have guarded : ∀ {Reply : Type} (call : Access Reply) machine, Unasked ticks call →
      True → halted ticks call machine := fun _ machine unasked _ => unasked machine
  exact triple_only (stable_fact True) guarded (fun _ _ _ _ _ _ _ => trivial) only

theorem stopRtc_unasked : stopRtc.Only (Unasked ticks) :=
  stopRtc_only (fun _ => trivial) (fun _ => trivial) (fun _ => trivial)
    (fun ctrl _ enables => absurd (enable_cleared ctrl) enables) (fun _ => trivial)
    fun _ => trivial

def succeeded (result : Option SleepResult) : Bool := result.elim false SleepResult.returned

theorem accepted_ticks {powerReady : Bool} {radio : Option Radio} {ticks : BitVec 64}
    (accepted : acceptable powerReady radio ticks = true) :
    powerReady = true ∧ ticks ≠ 0 ∧ ticks ≤ 0xFFFFFFFF := by
  simp only [acceptable, Bool.and_eq_true, bne_iff_ne, decide_eq_true_eq] at accepted
  exact ⟨accepted.1.1.1, accepted.1.2, accepted.2⟩

/-- The whole record and an accepted interval are all that is promised. -/
theorem slept_of {powerReady : Bool} {radio : Option Radio} {intervalMs : BitVec 32}
    {mode ignored cause : Byte} {stop start finish : BitVec 16} {machine : Machine}
    (accepted : acceptable powerReady radio (ticksOf intervalMs) = true)
    (lora : mode &&& 0x80 ≠ 0) (matched : Matched cause) (resting : Resting machine)
    (shown : Shows (sleepRecord (ticksOf intervalMs) mode ignored cause stop start finish)
      machine) : Slept intervalMs machine := by
  obtain ⟨_, positive, fits⟩ := accepted_ticks accepted
  constructor
  · exact ⟨mode, ignored, cause, stop, start, finish, lora, matched, shown⟩
  · rw [comp_toNat fits]
    exact ticks_least intervalMs
  · rw [comp_toNat fits, Nat.one_le_iff_ne_zero]
    exact fun zero => positive (BitVec.eq_of_toNat_eq zero)
  · exact resting

/-- What the call does once the radio sleeps. -/
theorem sleep_finishes (turns : Nat) {powerReady : Bool} {radio radio' : Option Radio}
    {intervalMs : BitVec 32}
    (accepted : acceptable powerReady radio (ticksOf intervalMs) = true) :
    Triple power (halted (ticksOf intervalMs)) (RadioSlept drainRecord)
      (do
        if !(← arm (ticksOf intervalMs)) then
          let _ ← stopRtc
          return some ⟨false, false, radio'⟩
        else if !(← waitForWake turns) then return none
        else
          let ready ← disarm
          return some ⟨ready, ready, radio'⟩)
      fun result machine => succeeded result = true → Slept intervalMs machine := by
  have stable : Stable power (Slept intervalMs) := slept_stable intervalMs
  apply triple_exists
  intro mode
  apply triple_exists
  intro ignored
  apply triple_fact
  intro lora
  apply triple_seq (arm_arms (ticksOf intervalMs) _)
  intro armed
  cases armed with
  | false =>
      have stopped : Triple power (halted (ticksOf intervalMs)) (fun _ => True)
          (stopRtc >>= fun _ => pure (some ⟨false, false, radio'⟩)) fun result machine =>
            succeeded result = true → Slept intervalMs machine :=
        triple_seq (unasked_runs stopRtc_unasked) fun _ =>
          triple_pure (stable_imp stable) fun _ _ => nofun
      exact triple_pre stopped fun _ _ => trivial
  | true =>
      refine triple_pre (triple_exists fun stop => triple_exists fun start => ?_)
        fun _ holds => holds rfl
      have arming : Arming (ticksOf intervalMs) (armRecord (ticksOf intervalMs) stop start ++
          (radioRecord mode ignored ++ drainRecord)) := ⟨stop, start, rfl⟩
      apply triple_seq (waitForWake_wakes arming turns)
      intro exited
      cases exited with
      | false => exact triple_pure (stable_imp stable) fun _ _ => nofun
      | true =>
          refine triple_pre (triple_exists fun cause => ?_) fun _ holds => holds rfl
          apply triple_fact
          intro matched
          apply triple_seq (disarm_rests (ticksOf intervalMs) _)
          intro ready
          apply triple_pure
          · exact stable_imp stable
          · intro machine holds returned
            obtain ⟨finish, resting, known⟩ := holds returned
            exact slept_of accepted lora matched resting known.shown

/-- From any state the call returns true only after every step. -/
theorem sleep_records (turns : Nat) (powerReady : Bool) (radio : Option Radio)
    (intervalMs : BitVec 32) :
    Triple power (halted (ticksOf intervalMs)) (fun machine => machine.trace = [])
      (sleep turns powerReady radio intervalMs) fun result machine =>
        succeeded result = true → Slept intervalMs machine := by
  have failed : ∀ (facts : Machine → Prop) (powerReady : Bool) (radio : Option Radio),
      Triple power (halted (ticksOf intervalMs)) facts
        (pure (some ⟨false, powerReady, radio⟩)) fun result machine =>
          succeeded result = true → Slept intervalMs machine :=
    fun _ _ _ => triple_pure (stable_imp (slept_stable intervalMs)) fun _ _ => nofun
  have begins : ∀ machine : Machine, machine.trace = [] → Begun machine := by
    intro machine started
    rw [Begun, started]
    rfl
  have enabledRead : Triple power (halted (ticksOf intervalMs)) Begun (access .getEnableIrq)
      fun enabled machine => enabled = true → Known [] machine := by
    apply triple_access begun_stable (fun _ => stable_imp (known_stable [])) (fun _ _ => trivial)
    intro machine enabled begun _ replied given
    have same : enabled = machine.rtcIrqEnabled := replied
    have written : machine.trace.filter timerWrite = [] := begun
    exact ⟨same.symm.trans given, List.nil_sublist _, written⟩
  have inspected {Reply : Type} (call : Access Reply) (passes : writesTimer call = false)
      (guarded : ∀ machine, halted (ticksOf intervalMs) call machine) :
      Triple power (halted (ticksOf intervalMs)) Begun (access call) fun _ => Begun := by
    apply triple_access begun_stable (fun _ => begun_stable) (fun machine _ => guarded machine)
    intro machine answer begun _ _
    rw [Begun, Machine.record, effect_trace, List.filter_cons, begun]
    exact if_neg (Bool.eq_false_iff.mp passes)
  cases radio with
  | none => exact failed _ powerReady none
  | some pointed =>
      unfold sleep
      apply triple_ite (fun _ => failed _ powerReady (some pointed))
      intro accepted
      apply triple_seq (triple_pre (inspected .getIpsr rfl fun _ => trivial) begins)
      intro ipsr
      apply triple_ite (fun _ => failed _ powerReady (some pointed))
      intro _
      apply triple_seq enabledRead
      intro enabled
      apply triple_ite (fun _ => failed _ powerReady (some pointed))
      intro isEnabled
      have enabled : enabled = true := by simpa using isEnabled
      apply triple_seq (triple_pre (known_only [] intDisable_aside) fun _ holds => holds enabled)
      intro interruptState
      apply triple_seq (known_only [] (intRestore_aside interruptState))
      intro _
      apply triple_ite (fun _ => failed _ powerReady (some pointed))
      intro _
      unfold powerDown
      apply triple_seq (drainPeripherals_drains [])
      intro drained
      apply triple_ite (fun _ => failed _ false (some pointed))
      intro isDrained
      have drained : drained = true := by simpa using isDrained
      apply triple_seq (triple_pre (sleepRadio_recorded pointed.module drainRecord) fun _ holds =>
        holds drained)
      intro result
      obtain ⟨slept, module⟩ := result
      apply triple_ite (fun _ => failed _ false (some { pointed with module := module }))
      intro hasSlept
      have slept : slept = true := by simpa using hasSlept
      exact triple_pre (sleep_finishes turns (by simpa using accepted)) fun _ holds => holds slept

/-- From arming to the end of the wait loop. -/
def armAndWait (turns : Nat) (ticks : BitVec 64) : Power Bool := do
  if ← arm ticks then waitForWake turns else return false

theorem armAndWait_wakes (turns : Nat) (ticks : BitVec 64) :
    Triple power (halted ticks) (Known []) (armAndWait turns ticks) fun exited machine =>
      exited = true → ∃ stop start, Roused (armRecord ticks stop start) machine := by
  have stable : Stable power fun machine =>
      ∃ stop start, Roused (armRecord ticks stop start) machine :=
    stable_exists fun _ => stable_exists fun _ => roused_stable _
  rw [armAndWait]
  apply triple_seq (arm_arms ticks [])
  intro armed
  apply triple_ite
  · intro ready
    refine triple_pre (triple_exists fun stop => triple_exists fun start => ?_)
      fun _ holds => holds ready
    have arming : Arming ticks (armRecord ticks stop start ++ []) := ⟨stop, start, rfl⟩
    apply triple_mono (waitForWake_wakes arming turns) fun _ holds => holds
    exact fun _ _ roused exited => ⟨stop, start, roused exited⟩
  · exact fun _ => triple_failed stable

/-- Whenever a call is halted the compare is still to come or pending. The wait ends, and
the call returns true, only after a compare that this call armed. -/
theorem no_lost_wakeup (turns : Nat) (powerReady : Bool) (radio : Option Radio)
    (intervalMs : BitVec 32) (ticks : BitVec 64) :
    Always power (halted (ticksOf intervalMs)) (fun machine => machine.trace = [])
        (sleep turns powerReady radio intervalMs) (fun result machine =>
          succeeded result = true → Slept intervalMs machine) ∧
      Always power (halted ticks)
        (fun machine => machine.trace = [] ∧ machine.rtcIrqEnabled = true)
        (armAndWait turns ticks) fun exited machine => exited = true →
          ∃ stop start cause, Matched cause ∧
            Shows (wakeRecord cause ++ armRecord ticks stop start) machine ∧
            machine.trace.filter timerWrite = armingWrites ticks stop start := by
  constructor
  · exact triple_always (sleep_records turns powerReady radio intervalMs)
  · apply triple_always
    apply triple_mono (armAndWait_wakes turns ticks)
    · intro machine holds
      refine ⟨holds.2, List.nil_sublist _, ?_⟩
      rw [holds.1]
    · intro exited machine roused exit
      obtain ⟨stop, start, cause, matched, known⟩ := roused exit
      exact ⟨stop, start, cause, matched, known.shown, known.written⟩

end LoraNode.PowerMachine
