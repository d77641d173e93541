import LoraNode.RtcArmed

/-!
# No lost RTC wakeup

Arming and the wait loop of `NODE_POWER_Sleep` against every interleaving with
the RTC, its handler and other interrupts. The core halts only while the compare
is still to come or already pending, and the loop ends only after the handler has
seen a compare that fired since this call wrote ENABLE.
-/

namespace LoraNode.PowerMachine

open LoraNode.Foundation LoraNode.Foundation.Bytes LoraNode.Foundation.Program
  LoraNode.Foundation.Interference LoraNode.NodePower

variable {ticks : BitVec 64}

def armRecord (ticks : BitVec 64) (stop start : BitVec 16) : List Happening :=
  [.own ⟨.writeCtrl (start ||| enableMask), ()⟩, .own ⟨.writeIntenset compareMatch, ()⟩,
    .own ⟨.writeComp (ticks.setWidth 32), ()⟩, .own ⟨.writeCount 0, ()⟩] ++ stopRecord stop

section Arm

variable {happenings : List Happening}

theorem resting_parks {machine : Machine} (resting : Resting machine) (answer : Unit) :
    Parked 0 ((machine.effect (.writeWakePending false)).record
      (.own ⟨.writeWakePending false, answer⟩)) := by
  have within : compareMatch = rtcInterruptMask &&& compareMatch := by decide
  have stopped := resting.flagless.stopped
  refine ⟨stopped.1.disabled, stopped.1.still stopped.2, ⟨.inl rfl, stopped.1.silent⟩, ?_⟩
  refine ⟨?_, resting.unpended, resting.idle, rfl⟩
  intro matched
  have flags : machine.intflag &&& compareMatch ≠ 0 := matched
  rw [within, ← BitVec.and_assoc, resting.flagless.flags] at flags
  exact flags (by decide)

def Harmless {Reply : Type} : Access Reply → Prop
  | .writeCtrl _ => False
  | .writeIntenclr _ => False
  | .writeIntenset _ => False
  | .writeIntflag _ => False
  | .clearPendingIrq => False
  | .writeWakePending _ => False
  | _ => True

theorem parked_record {mask : Byte} {machine : Machine} (parked : Parked mask machine)
    (happening : Happening) : Parked mask (machine.record happening) := by
  have clean := parked.clean
  exact ⟨parked.disabled, parked.still, parked.selects,
    ⟨clean.unmatched, clean.unpended, clean.idle, clean.unwoken⟩⟩

theorem parked_effect {Reply : Type} {mask : Byte} {machine : Machine}
    (parked : Parked mask machine) {call : Access Reply} (harmless : Harmless call) :
    Parked mask (machine.effect call) := by
  have clean := parked.clean
  cases call <;> first
    | exact harmless.elim
    | exact ⟨parked.disabled, parked.still, parked.selects,
        ⟨clean.unmatched, clean.unpended, clean.idle, clean.unwoken⟩⟩

theorem parked_waits (mask : Byte) (happenings : List Happening) :
    Triple power (halted ticks) (fun machine => Parked mask machine ∧ Known happenings machine)
      waitRtcSync fun _ machine => Parked mask machine ∧ Known happenings machine := by
  apply triple_mono (waitRtcSync_waits (parked_stable mask) _ (fun _ _ => trivial) happenings)
    (fun _ holds => holds)
  · exact fun _ _ holds => holds.1
  · exact fun _ _ parked => parked_record parked _

/-- Writing ENABLE to a parked timer arms it. -/
theorem parked_arms {machine : Machine} (parked : Parked compareMatch machine)
    (known : Known happenings machine) (value : BitVec 16) (answer : Unit) :
    Armed (.own ⟨.writeCtrl value, answer⟩ :: happenings)
      ((machine.effect (.writeCtrl value)).record (.own ⟨.writeCtrl value, answer⟩)) := by
  have clean := parked.clean
  constructor
  · exact known_access known (.writeCtrl value) answer
  · exact parked.selects
  · exact fun matched => absurd matched clean.unmatched
  · intro cause has
    have idle : machine.handler.has cause := has
    rw [clean.idle] at idle
    exact idle.elim
  · intro wake
    exact absurd (wake.symm.trans clean.unwoken) (by decide)
  · intro _
    have idle : machine.handler = .idle := clean.idle
    simp only [Expected, Machine.record, Machine.effect, idle]
    exact ⟨fun pending => absurd (pending.symm.trans clean.unpended) (by decide),
      fun compared => absurd compared (by decide)⟩

theorem armed_access {Reply : Type} {record : List Happening} {machine : Machine}
    (armed : Armed record machine) {call : Access Reply} (harmless : Harmless call)
    (passes : writesTimer call = false) (answer : Reply) :
    Armed record ((machine.effect call).record (.own ⟨call, answer⟩)) := by
  have known := known_passed armed.known answer passes
  have kept : ∀ happenings, Shows happenings machine →
      Shows happenings ((machine.effect call).record (.own ⟨call, answer⟩)) := by
    intro happenings shown
    exact (List.sublist_cons_self _ happenings).trans (shows_access shown call answer)
  have woken : machine.rtcWakePending = true →
      Woken record ((machine.effect call).record (.own ⟨call, answer⟩)) := by
    intro wake
    obtain ⟨cause, matched, shown⟩ := armed.woken wake
    exact ⟨cause, matched, kept _ shown⟩
  cases call <;> first
    | exact harmless.elim
    | exact ⟨known, armed.selects, fun matched => kept _ (armed.flagged matched),
        fun cause has matched => kept _ (armed.caused cause has matched), woken, armed.expected⟩

def Aside (ticks : BitVec 64) {Reply : Type} (call : Access Reply) : Prop :=
  Harmless call ∧ writesTimer call = false ∧ ∀ machine, halted ticks call machine

theorem aside_access {Reply : Type} (call : Access Reply) (harmless : Harmless call)
    (passes : writesTimer call = false) (guarded : ∀ machine, halted ticks call machine) :
    (access call).Only (Aside ticks) :=
  only_perform ⟨harmless, passes, guarded⟩

/-- A program of harmless accesses keeps the timer armed. -/
theorem armed_only {Result : Type} (record : List Happening) {program : Power Result}
    (only : program.Only (Aside ticks)) :
    Triple power (halted ticks) (Armed record) program fun _ => Armed record := by
  have guarded : ∀ {Reply : Type} (call : Access Reply) machine, Aside ticks call →
      Armed record machine → halted ticks call machine :=
    fun _ machine allowed _ => allowed.2.2 machine
  apply triple_only (armed_stable record) guarded _ only
  intro Reply call machine answer next allowed armed answered
  obtain ⟨_, _, rfl⟩ := answered
  exact armed_access armed allowed.1 allowed.2.1 answer

theorem known_only {Result : Type} (happenings : List Happening) {program : Power Result}
    (only : program.Only (Aside ticks)) :
    Triple power (halted ticks) (Known happenings) program fun _ => Known happenings := by
  have guarded : ∀ {Reply : Type} (call : Access Reply) machine, Aside ticks call →
      Known happenings machine → halted ticks call machine :=
    fun _ machine allowed _ => allowed.2.2 machine
  apply triple_only (known_stable happenings) guarded _ only
  intro Reply call machine answer next allowed known answered
  obtain ⟨_, _, rfl⟩ := answered
  exact known_passed known answer allowed.2.1

theorem intDisable_aside : intDisable.Only (Aside ticks) :=
  intDisable_only ⟨trivial, rfl, fun _ => trivial⟩ fun _ => ⟨trivial, rfl, fun _ => trivial⟩

theorem intRestore_aside (state : Bool) : (intRestore state).Only (Aside ticks) :=
  aside_access (.setPrimask (!state)) trivial rfl fun _ => trivial

theorem waitRtcSync_aside : waitRtcSync.Only (Aside ticks) :=
  waitRtcSync_only ⟨trivial, rfl, fun _ => trivial⟩

/-- One access while the timer is parked. -/
theorem parked_recorded {Reply : Type} (call : Access Reply) {mask mask' : Byte}
    (guarded : ∀ machine, halted ticks call machine)
    (kept : ∀ machine, Parked mask machine → Parked mask' (machine.effect call))
    (happenings : List Happening) :
    Triple power (halted ticks) (fun machine => Parked mask machine ∧ Known happenings machine)
      (access call) fun answer machine => Parked mask' machine ∧
        Known (.own ⟨call, answer⟩ :: happenings) machine :=
  triple_recorded (parked_stable mask) (fun _ => parked_stable mask')
    (fun machine _ => guarded machine)
    fun machine _ parked _ _ => parked_record (kept machine parked) _

theorem intenset_selects {machine : Machine} (parked : Parked 0 machine) :
    Parked compareMatch (machine.effect (.writeIntenset compareMatch)) := by
  refine ⟨parked.disabled, parked.still, ⟨.inr rfl, ?_⟩, parked.clean.unmatched,
    parked.clean.unpended, parked.clean.idle, parked.clean.unwoken⟩
  have silent : machine.inten &&& rtcInterruptMask = 0#8 := parked.selects.2
  change (machine.inten ||| compareMatch) &&& rtcInterruptMask = compareMatch
  rw [BitVec.and_or_distrib_right, silent, BitVec.zero_or]
  decide

def ArmedOnce (ticks : BitVec 64) (happenings : List Happening) (machine : Machine) : Prop :=
  ∃ stop start, Armed (armRecord ticks stop start ++ happenings) machine

theorem armedOnce_stable (ticks : BitVec 64) (happenings : List Happening) :
    Stable power (ArmedOnce ticks happenings) :=
  stable_exists fun _ => stable_exists fun _ => armed_stable _

theorem readCtrl_harmless : Harmless Access.readCtrl := trivial

/-- The accesses after `NODE_POWER_StopRtc` succeeded. -/
theorem parked_starts (stop : BitVec 16) (happenings : List Happening) :
    Triple power (halted ticks)
      (fun machine => Parked 0 machine ∧ Known (stopRecord stop ++ happenings) machine)
      (do
        access (.writeCount 0)
        if !(← waitRtcSync) then return false
        else
          access (.writeComp (ticks.setWidth 32))
          if !(← waitRtcSync) then return false
          else
            access (.writeIntenset compareMatch)
            let ctrl ← access .readCtrl
            access (.writeCtrl (ctrl ||| enableMask))
            waitRtcSync)
      fun ready machine => ready = true → ArmedOnce ticks happenings machine := by
  have failed : ∀ (facts : Machine → Prop), Triple power (halted ticks) facts (pure false)
      fun ready machine => ready = true → ArmedOnce ticks happenings machine :=
    fun _ => triple_failed (armedOnce_stable ticks happenings)
  have enabled (value : BitVec 16) (known : List Happening) : Triple power (halted ticks)
      (fun machine => Parked compareMatch machine ∧ Known known machine)
      (access (.writeCtrl value)) fun _ machine =>
        Armed (.own ⟨.writeCtrl value, ()⟩ :: known) machine :=
    triple_access (stable_and (parked_stable compareMatch) (known_stable known))
      (fun _ => armed_stable _) (fun _ holds _ => holds.1.clean)
      fun _ answer holds _ _ => parked_arms holds.1 holds.2 value answer
  apply triple_seq (parked_recorded (.writeCount 0) (fun _ => trivial)
    (fun _ parked => parked_effect parked trivial) _)
  intro _
  apply triple_seq (parked_waits 0 _)
  intro inTime
  apply triple_ite (fun _ => failed _)
  intro _
  apply triple_seq (parked_recorded (.writeComp (ticks.setWidth 32)) (fun _ => trivial)
    (fun _ parked => parked_effect parked trivial) _)
  intro _
  apply triple_seq (parked_waits 0 _)
  intro inTime
  apply triple_ite (fun _ => failed _)
  intro _
  apply triple_seq (parked_recorded (.writeIntenset compareMatch) (fun _ => trivial)
    (fun _ => intenset_selects) _)
  intro _
  apply triple_seq (triple_passed (parked_stable compareMatch)
    (fun _ => parked_stable compareMatch) (fun _ _ => trivial) rfl fun _ _ parked _ _ =>
      parked_record (parked_effect parked readCtrl_harmless) _)
  intro start
  apply triple_seq (enabled (start ||| enableMask) _)
  intro _
  apply triple_mono (armed_only _ waitRtcSync_aside) (fun _ holds => holds)
  exact fun _ _ armed _ => ⟨stop, start, armed⟩

theorem startRtc_arms (ticks : BitVec 64) (happenings : List Happening) :
    Triple power (halted ticks) (fun machine => True ∧ Known happenings machine) (startRtc ticks)
      fun ready machine => ready = true → ArmedOnce ticks happenings machine := by
  rw [startRtc]
  apply triple_seq (stopRtc_rests ticks happenings)
  intro ready
  cases ready with
  | false =>
      apply triple_seq (triple_access (stable_imp (stable_exists fun stop =>
        stable_and resting_stable (known_stable _))) (fun _ => stable_fact True)
        (fun _ _ => trivial) fun _ _ _ _ _ => trivial)
      exact fun _ => triple_failed (armedOnce_stable ticks happenings)
  | true =>
      refine triple_pre (triple_exists fun stop => ?_) fun _ holds => holds rfl
      apply triple_seq (triple_passed resting_stable (fun _ => parked_stable 0)
        (fun _ _ => trivial) rfl fun _ answer resting _ _ => resting_parks resting answer)
      exact fun _ => parked_starts stop happenings

/-- A part of the program between `NVIC_INT_Disable` and `NVIC_INT_Restore`. -/
theorem masked_section {program : Power Bool} {happenings : List Happening}
    {post : Machine → Prop} (stable : Stable power post)
    (kept : ∀ machine masked answer, post machine →
      post ((machine.effect (.setPrimask masked)).record (.own ⟨.setPrimask masked, answer⟩)))
    (triple : Triple power (halted ticks) (fun machine => True ∧ Known happenings machine) program
      fun ready machine => ready = true → post machine) :
    Triple power (halted ticks) (Known happenings)
      (do
        let state ← intDisable
        let ready ← program
        intRestore state
        return ready)
      fun ready machine => ready = true → post machine := by
  apply triple_seq (known_only happenings intDisable_aside)
  intro state
  apply triple_seq (triple_pre triple fun _ known => ⟨trivial, known⟩)
  intro ready
  have restored : Triple power (halted ticks) (fun machine => ready = true → post machine)
      (intRestore state) fun _ machine => ready = true → post machine :=
    triple_access (stable_imp stable) (fun _ => stable_imp stable) (fun _ _ => trivial)
      fun machine answer holds _ _ succeeded => kept machine (!state) answer (holds succeeded)
  apply triple_seq restored
  intro _
  exact triple_pure (stable_imp stable) fun _ holds => holds

theorem arm_arms (ticks : BitVec 64) (happenings : List Happening) :
    Triple power (halted ticks) (Known happenings) (arm ticks) fun ready machine =>
      ready = true → ArmedOnce ticks happenings machine := by
  apply masked_section (armedOnce_stable ticks happenings) _ (startRtc_arms ticks happenings)
  intro machine masked answer holds
  obtain ⟨stop, start, armed⟩ := holds
  have harmless : Harmless (Access.setPrimask masked) := trivial
  exact ⟨stop, start, armed_access armed harmless rfl answer⟩

end Arm

section Wait

variable {record : List Happening}

def Masked (machine : Machine) : Prop := machine.primask = true ∧ machine.handler = .idle

theorem masked_stable : Stable power Masked := by
  intro machine next masked moved
  obtain ⟨primask, idle⟩ := masked
  cases moved with
  | enter unmasked _ enabled pending =>
      rw [primask] at unmasked
      exact absurd unmasked (by decide)
  | readCause entered => rw [idle] at entered; exact Handler.noConfusion entered
  | clearFlags cause caused => rw [idle] at caused; exact Handler.noConfusion caused
  | callback cause cleared => rw [idle] at cleared; exact Handler.noConfusion cleared
  | _ => exact ⟨primask, idle⟩

/-- With interrupts masked nobody sets the wake flag. -/
def Watched (machine : Machine) : Prop := Masked machine ∧ machine.rtcWakePending = false

theorem watched_stable : Stable power Watched := by
  intro machine next watched moved
  have masked := masked_stable machine next watched.1 moved
  have idle := watched.1.2
  cases moved with
  | callback cause cleared => rw [idle] at cleared; exact Handler.noConfusion cleared
  | _ => exact ⟨masked, watched.2⟩

def Arming (ticks : BitVec 64) (record : List Happening) : Prop :=
  ∃ stop start, record.filter timerWrite = armingWrites ticks stop start

/-- WFI is entered only when the compare is still to come or pending. -/
theorem watched_halts {machine : Machine} (arming : Arming ticks record)
    (armed : Armed record machine) (watched : Watched machine) :
    halted ticks Access.wfi machine := by
  obtain ⟨⟨_, idle⟩, unwoken⟩ := watched
  have expected := armed.expected unwoken
  simp only [Expected, idle] at expected
  refine ⟨unwoken, ?_, ?_⟩
  · cases fired : machine.compared with
    | false => exact .inl rfl
    | true => exact .inr ⟨expected.2 fired, armed.known.irqEnabled⟩
  · rw [armed.known.written]
    exact arming

theorem pmStandbyModeEnter_halts (arming : Arming ticks record) :
    Triple power (halted ticks) (fun machine => Armed record machine ∧ Watched machine)
      pmStandbyModeEnter fun _ => Armed record := by
  have stable := stable_and (armed_stable record) watched_stable
  have kept {Reply : Type} (call : Access Reply) (harmless : Harmless call)
      (passes : writesTimer call = false)
      (same : ∀ machine, Watched machine → Watched (machine.effect call))
      (guarded : ∀ machine, halted ticks call machine) :
      Triple power (halted ticks) (fun machine => Armed record machine ∧ Watched machine)
        (access call) fun _ machine => Armed record machine ∧ Watched machine :=
    triple_access stable (fun _ => stable) (fun machine _ => guarded machine)
      fun machine answer holds _ _ =>
        ⟨armed_access holds.1 harmless passes answer, same machine holds.2⟩
  rw [pmStandbyModeEnter]
  apply triple_seq (kept .readScr trivial rfl (fun _ watched => watched) fun _ => trivial)
  intro scr
  apply triple_seq (kept (.writeScr (scr ||| sleepDeepMask)) trivial rfl
    (fun _ watched => watched) fun _ => trivial)
  intro _
  apply triple_access stable (fun _ => armed_stable record)
  · exact fun _ holds => watched_halts arming holds.1 holds.2
  · intro machine answer holds _ _
    have harmless : Harmless Access.wfi := trivial
    exact armed_access holds.1 harmless rfl answer

theorem standByUnlessWoken_halts (arming : Arming ticks record) :
    Triple power (halted ticks) (fun machine => Armed record machine ∧ Masked machine)
      standByUnlessWoken fun _ => Armed record := by
  have checked : Triple power (halted ticks)
      (fun machine => Armed record machine ∧ Masked machine) (access .readWakePending)
      fun woken machine => Armed record machine ∧ (woken = false → Watched machine) := by
    apply triple_access (stable_and (armed_stable record) masked_stable)
    · exact fun woken => stable_and (armed_stable record) (stable_imp watched_stable)
    · exact fun _ _ => trivial
    · intro machine woken holds _ replied
      have harmless : Harmless Access.readWakePending := trivial
      refine ⟨armed_access holds.1 harmless rfl woken, ?_⟩
      intro unwoken
      have same : woken = machine.rtcWakePending := replied
      exact ⟨holds.2, same.symm.trans unwoken⟩
  rw [standByUnlessWoken]
  apply triple_seq checked
  intro woken
  apply triple_ite
  · exact fun _ => triple_pure (armed_stable record) fun _ holds => holds.1
  · intro unwoken
    apply triple_pre (pmStandbyModeEnter_halts arming)
    exact fun _ holds => ⟨holds.1, holds.2 (Bool.eq_false_iff.mpr unwoken)⟩

/-- `NVIC_INT_Disable` in the loop keeps the handler out. -/
theorem intDisable_masks :
    Triple power (halted ticks) (Armed record) intDisable fun _ machine =>
      Armed record machine ∧ Masked machine := by
  have masks : Triple power (halted ticks) (Armed record) (access (.setPrimask true))
      fun _ machine => Armed record machine ∧ Masked machine := by
    apply triple_access (armed_stable record)
    · exact fun _ => stable_and (armed_stable record) masked_stable
    · exact fun _ _ => trivial
    · intro machine answer armed idle _
      have harmless : Harmless (Access.setPrimask true) := trivial
      exact ⟨armed_access armed harmless rfl answer, rfl, idle⟩
  rw [intDisable]
  apply triple_seq (armed_only record (aside_access .getPrimask trivial rfl fun _ => trivial))
  intro masked
  apply triple_seq masks
  intro _
  exact triple_pure (stable_and (armed_stable record) masked_stable) fun _ holds => holds

def wakeRecord (cause : Byte) : List Happening :=
  [.handlerDone cause, .handlerCause cause, .compareFired]

def Roused (record : List Happening) (machine : Machine) : Prop :=
  ∃ cause, Matched cause ∧ Known (wakeRecord cause ++ record) machine

theorem roused_stable (record : List Happening) : Stable power (Roused record) :=
  stable_exists fun _ => stable_and (stable_fact _) (known_stable _)

theorem armed_roused {machine : Machine} (armed : Armed record machine)
    (wake : machine.rtcWakePending = true) : Roused record machine := by
  obtain ⟨cause, matched, shown⟩ := armed.woken wake
  exact ⟨cause, matched, armed.known.irqEnabled, shown, armed.known.written⟩

theorem wake_read :
    Triple power (halted ticks) (Armed record) (access .readWakePending) fun woken machine =>
      Armed record machine ∧ (woken = true → Roused record machine) := by
  apply triple_access (armed_stable record)
  · exact fun _ => stable_and (armed_stable record) (stable_imp (roused_stable record))
  · exact fun _ _ => trivial
  · intro machine woken armed _ replied
    have harmless : Harmless Access.readWakePending := trivial
    have still := armed_access armed harmless rfl woken
    refine ⟨still, ?_⟩
    intro wake
    have same : woken = machine.rtcWakePending := replied
    exact armed_roused still (same.symm.trans wake)

/-- The loop ends only when the handler has seen the compare. -/
theorem waitLoop_wakes (arming : Arming ticks record) (saved : BitVec 32) (turns : Nat) :
    Triple power (halted ticks) (Armed record) (waitLoop saved turns) fun exited machine =>
      exited = true → Roused record machine := by
  have stable : Stable power fun machine => true = true → Roused record machine :=
    stable_imp (roused_stable record)
  induction turns with
  | zero => exact triple_failed (roused_stable record)
  | succ turns induction =>
      apply triple_seq wake_read
      intro woken
      apply triple_ite
      · intro wake
        exact triple_pure stable fun _ holds _ => holds.2 wake
      · intro _
        apply triple_seq (triple_pre intDisable_masks fun _ holds => holds.1)
        intro state
        apply triple_seq (standByUnlessWoken_halts arming)
        intro _
        apply triple_seq (armed_only record (aside_access .readScr trivial rfl fun _ => trivial))
        intro scr
        apply triple_seq (armed_only record (aside_access
          (.writeScr ((scr &&& ~~~sleepDeepMask) ||| saved)) trivial rfl fun _ => trivial))
        intro _
        apply triple_seq (armed_only record (intRestore_aside state))
        exact fun _ => induction

theorem waitForWake_wakes (arming : Arming ticks record) (turns : Nat) :
    Triple power (halted ticks) (Armed record) (waitForWake turns) fun exited machine =>
      exited = true → Roused record machine := by
  rw [waitForWake]
  apply triple_seq (armed_only record (aside_access .readScr trivial rfl fun _ => trivial))
  exact fun scr => waitLoop_wakes arming (scr &&& sleepDeepMask) turns

end Wait

section Disarm

theorem resting_masked {machine : Machine} (resting : Resting machine) (masked : Bool)
    (answer : Unit) : Resting ((machine.effect (.setPrimask masked)).record
      (.own ⟨.setPrimask masked, answer⟩)) := by
  obtain ⟨⟨⟨⟨disabled, silent, still⟩, synced⟩, flags⟩, unpended, idle⟩ := resting
  exact ⟨⟨⟨⟨disabled, silent, still⟩, synced⟩, flags⟩, unpended, idle⟩

/-- After the loop the RTC is stopped, and the record goes on from the wakeup. -/
theorem disarm_rests (ticks : BitVec 64) (happenings : List Happening) :
    Triple power (halted ticks) (Known happenings) disarm fun ready machine =>
      ready = true → ∃ stop, Resting machine ∧ Known (stopRecord stop ++ happenings) machine := by
  apply masked_section _ _ (stopRtc_rests ticks happenings)
  · exact stable_exists fun _ => stable_and resting_stable (known_stable _)
  · intro machine masked answer holds
    obtain ⟨stop, resting, known⟩ := holds
    exact ⟨stop, resting_masked resting masked answer, known_passed known answer rfl⟩

end Disarm

end LoraNode.PowerMachine
