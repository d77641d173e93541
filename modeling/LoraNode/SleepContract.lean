import LoraNode.PowerSleep

/-!
# The contract of `NODE_POWER_Sleep`

Every return restores PRIMASK and SLEEPDEEP. A call that is refused touches
nothing and keeps `powerReady`; any other call either completes every step or
clears `powerReady` for good.
-/

namespace LoraNode.PowerMachine

open LoraNode.Foundation LoraNode.Foundation.Bytes LoraNode.Foundation.Program
  LoraNode.Foundation.Interference LoraNode.NodePower LoraNode.Sx1278

section Restore

def Core (primask : Bool) (deep : BitVec 32) (machine : Machine) : Prop :=
  machine.primask = primask ∧ machine.scr &&& sleepDeepMask = deep

theorem core_stable (primask : Bool) (deep : BitVec 32) : Stable power (Core primask deep) := by
  intro machine next core moved
  cases moved <;> exact core

def Neutral {Reply : Type} : Access Reply → Prop
  | .setPrimask _ => False
  | .writeScr _ => False
  | _ => True

theorem neutral_access {Reply : Type} {primask : Bool} {deep : BitVec 32} {machine : Machine}
    (core : Core primask deep machine) {call : Access Reply} (neutral : Neutral call)
    (answer : Reply) :
    Core primask deep ((machine.effect call).record (.own ⟨call, answer⟩)) := by
  cases call <;> first | exact core | exact neutral.elim

variable {primask : Bool} {deep : BitVec 32}

theorem neutral_keeps {Result : Type} {program : Power Result} (only : program.Only Neutral) :
    Triple power unguarded (Core primask deep) program fun _ => Core primask deep := by
  have guarded : ∀ {Reply : Type} (call : Access Reply) (machine : Machine), Neutral call →
      Core primask deep machine → unguarded call machine := fun _ _ _ _ => trivial
  apply triple_only (core_stable primask deep) guarded _ only
  intro Reply call machine answer next neutral core answered
  obtain ⟨_, _, rfl⟩ := answered
  exact neutral_access core neutral answer

theorem neutral_perform {Reply : Type} (call : Access Reply) (neutral : Neutral call) :
    (access call).Only Neutral := only_perform neutral

theorem waitRtcSync_neutral : waitRtcSync.Only Neutral := waitRtcSync_only trivial

theorem drainPeripherals_neutral : drainPeripherals.Only Neutral :=
  drainPeripherals_only trivial trivial trivial

theorem sleepRadio_neutral (module : Module) : (sleepRadio module).Only Neutral :=
  sleepRadio_only trivial (fun _ => trivial) (fun _ _ => trivial) trivial module

theorem stopRtc_neutral : stopRtc.Only Neutral :=
  stopRtc_only trivial trivial trivial (fun _ => trivial) trivial trivial

theorem startRtc_neutral (ticks : BitVec 64) : (startRtc ticks).Only Neutral := by
  apply only_bind stopRtc_neutral
  intro ready
  apply only_bind (neutral_perform (.writeWakePending false) trivial)
  intro _
  apply only_ite (only_pure false)
  apply only_bind (neutral_perform (.writeCount 0) trivial)
  intro _
  apply only_bind waitRtcSync_neutral
  intro inTime
  apply only_ite (only_pure false)
  apply only_bind (neutral_perform (.writeComp (ticks.setWidth 32)) trivial)
  intro _
  apply only_bind waitRtcSync_neutral
  intro inTime
  apply only_ite (only_pure false)
  apply only_bind (neutral_perform (.writeIntenset compareMatch) trivial)
  intro _
  apply only_bind (neutral_perform .readCtrl trivial)
  intro ctrl
  apply only_bind (neutral_perform (.writeCtrl (ctrl ||| enableMask)) trivial)
  exact fun _ => waitRtcSync_neutral

/-- The saved bit goes back in place of what is there. -/
theorem sleepDeep_restored (scr saved : BitVec 32) (bit : saved &&& sleepDeepMask = saved) :
    ((scr &&& ~~~sleepDeepMask) ||| saved) &&& sleepDeepMask = saved := by
  rw [BitVec.and_or_distrib_right, bit, BitVec.and_assoc]
  simp

theorem setPrimask_sets (was masked : Bool) :
    Triple power unguarded (Core was deep) (access (.setPrimask masked))
      fun _ => Core masked deep := by
  apply triple_access (core_stable was deep) (fun _ => core_stable masked deep)
    (fun _ _ => trivial)
  exact fun machine _ core _ _ => ⟨rfl, core.2⟩

theorem intDisable_saves :
    Triple power unguarded (Core primask deep) intDisable fun state machine =>
      state = !primask ∧ Core true deep machine := by
  have read : Triple power unguarded (Core primask deep) (access .getPrimask)
      fun masked machine => masked = primask ∧ Core primask deep machine := by
    apply triple_access (core_stable primask deep)
    · exact fun _ => stable_and (stable_fact _) (core_stable primask deep)
    · exact fun _ _ => trivial
    · intro machine masked core _ replied
      have same : masked = machine.primask := replied
      exact ⟨same.trans core.1, core⟩
  rw [intDisable]
  apply triple_seq read
  intro masked
  apply triple_fact
  intro same
  subst same
  apply triple_seq (setPrimask_sets masked true)
  intro _
  apply triple_pure
  · exact stable_and (stable_fact _) (core_stable true deep)
  · exact fun _ core => ⟨rfl, core⟩

theorem intRestore_restores {state : Bool} (saved : state = !primask) :
    Triple power unguarded (Core true deep) (intRestore state) fun _ => Core primask deep := by
  have same : (!state) = primask := by
    rw [saved, Bool.not_not]
  rw [intRestore, same]
  exact setPrimask_sets true primask

theorem primask_stable (masked : Bool) : Stable power fun machine => machine.primask = masked :=
  fun _ _ same moved => by cases moved <;> exact same

def Unmasking {Reply : Type} : Access Reply → Prop
  | .setPrimask _ => False
  | _ => True

theorem primask_keeps {Result : Type} {program : Power Result} (only : program.Only Unmasking) :
    Triple power unguarded (fun machine => machine.primask = true) program
      fun _ machine => machine.primask = true := by
  have guarded : ∀ {Reply : Type} (call : Access Reply) (machine : Machine), Unmasking call →
      machine.primask = true → unguarded call machine := fun _ _ _ _ => trivial
  apply triple_only (primask_stable true) guarded _ only
  intro Reply call machine answer next unmasking masked answered
  obtain ⟨_, _, rfl⟩ := answered
  cases call <;> first | exact masked | exact unmasking.elim

theorem unmasking_perform {Reply : Type} (call : Access Reply) (unmasking : Unmasking call) :
    (access call).Only Unmasking := only_perform unmasking

theorem standByUnlessWoken_unmasking : standByUnlessWoken.Only Unmasking := by
  apply only_bind (unmasking_perform .readWakePending trivial)
  intro woken
  apply only_ite (only_pure ())
  apply only_bind (unmasking_perform .readScr trivial)
  intro scr
  apply only_bind (unmasking_perform (.writeScr (scr ||| sleepDeepMask)) trivial)
  exact fun _ => unmasking_perform .wfi trivial

/-- Standby may leave SLEEPDEEP set; writing the saved bit back undoes it. -/
theorem writeScr_restores (bit : deep &&& sleepDeepMask = deep) (scr : BitVec 32) :
    Triple power unguarded (fun machine => machine.primask = true)
      (access (.writeScr ((scr &&& ~~~sleepDeepMask) ||| deep))) fun _ => Core true deep :=
  triple_access (primask_stable true) (fun _ => core_stable true deep) (fun _ _ => trivial)
    fun _ _ masked _ _ => ⟨masked, sleepDeep_restored scr deep bit⟩

/-- One turn after the other restores PRIMASK and SLEEPDEEP. -/
theorem waitLoop_restores (bit : deep &&& sleepDeepMask = deep) (turns : Nat) :
    Triple power unguarded (Core primask deep) (waitLoop deep turns)
      fun _ => Core primask deep := by
  induction turns with
  | zero => exact triple_pure (core_stable primask deep) fun _ core => core
  | succ turns induction =>
      apply triple_seq (neutral_keeps (neutral_perform .readWakePending trivial))
      intro woken
      apply triple_ite
      · exact fun _ => triple_pure (core_stable primask deep) fun _ core => core
      · intro _
        apply triple_seq intDisable_saves
        intro state
        apply triple_fact
        intro saved
        apply triple_seq (triple_pre (primask_keeps standByUnlessWoken_unmasking)
          fun _ core => core.1)
        intro _
        apply triple_seq (primask_keeps (unmasking_perform .readScr trivial))
        intro scr
        apply triple_seq (writeScr_restores bit scr)
        intro _
        apply triple_seq (intRestore_restores saved)
        exact fun _ => induction

theorem waitForWake_restores (turns : Nat) :
    Triple power unguarded (Core primask deep) (waitForWake turns) fun _ => Core primask deep := by
  have read : Triple power unguarded (Core primask deep) (access .readScr) fun scr machine =>
      scr &&& sleepDeepMask = deep ∧ Core primask deep machine := by
    apply triple_access (core_stable primask deep)
    · exact fun _ => stable_and (stable_fact _) (core_stable primask deep)
    · exact fun _ _ => trivial
    · intro machine scr core _ replied
      have same : scr = machine.scr := replied
      exact ⟨same ▸ core.2, core⟩
  rw [waitForWake]
  apply triple_seq read
  intro scr
  apply triple_fact
  intro same
  have bit : deep &&& sleepDeepMask = deep := by
    rw [← same, BitVec.and_assoc, BitVec.and_self]
  rw [same]
  exact waitLoop_restores bit turns

/-- A neutral part between `NVIC_INT_Disable` and `NVIC_INT_Restore`. -/
theorem section_restores {program : Power Bool} (only : program.Only Neutral) :
    Triple power unguarded (Core primask deep)
      (do
        let state ← intDisable
        let ready ← program
        intRestore state
        return ready)
      fun _ => Core primask deep := by
  apply triple_seq intDisable_saves
  intro state
  apply triple_fact
  intro saved
  apply triple_seq (neutral_keeps only)
  intro ready
  apply triple_seq (intRestore_restores saved)
  intro _
  exact triple_pure (core_stable primask deep) fun _ core => core

/-- PRIMASK and SLEEPDEEP are restored on every path. -/
theorem sleep_restores (turns : Nat) (powerReady : Bool) (radio : Option Radio)
    (intervalMs : BitVec 32) :
    Triple power unguarded (Core primask deep) (sleep turns powerReady radio intervalMs)
      fun _ => Core primask deep := by
  have ends (result : Option SleepResult) : Triple power unguarded (Core primask deep)
      (pure result) fun _ => Core primask deep :=
    triple_pure (core_stable primask deep) fun _ core => core
  cases radio with
  | none => exact ends _
  | some pointed =>
      unfold sleep
      apply triple_ite (fun _ => ends _)
      intro _
      apply triple_seq (neutral_keeps (neutral_perform .getIpsr trivial))
      intro ipsr
      apply triple_ite (fun _ => ends _)
      intro _
      apply triple_seq (neutral_keeps (neutral_perform .getEnableIrq trivial))
      intro enabled
      apply triple_ite (fun _ => ends _)
      intro _
      apply triple_seq intDisable_saves
      intro state
      apply triple_fact
      intro saved
      apply triple_seq (intRestore_restores saved)
      intro _
      apply triple_ite (fun _ => ends _)
      intro _
      unfold powerDown
      apply triple_seq (neutral_keeps drainPeripherals_neutral)
      intro drained
      apply triple_ite (fun _ => ends _)
      intro _
      apply triple_seq (neutral_keeps (sleepRadio_neutral pointed.module))
      intro result
      obtain ⟨slept, module⟩ := result
      apply triple_ite (fun _ => ends _)
      intro _
      apply triple_seq (section_restores (startRtc_neutral (ticksOf intervalMs)))
      intro armed
      apply triple_ite
      · intro _
        apply triple_seq (neutral_keeps stopRtc_neutral)
        exact fun _ => ends _
      · intro _
        apply triple_seq (waitForWake_restores turns)
        intro exited
        apply triple_ite (fun _ => ends _)
        intro _
        apply triple_seq (section_restores stopRtc_neutral)
        exact fun _ => ends _

end Restore

section Refuse

def Refuses (powerReady : Bool) (radio : Option Radio) (intervalMs ipsr : BitVec 32)
    (enabled masked : Bool) : Prop :=
  powerReady = false ∨ radio.elim false Radio.hwPresent = false ∨ ticksOf intervalMs = 0 ∨
    0xFFFFFFFF < ticksOf intervalMs ∨ ipsr ≠ 0 ∨ enabled = false ∨ masked = true

/-- The guards on the arguments come first, those on the context after them. -/
theorem refuses_iff (powerReady : Bool) (radio : Option Radio) (intervalMs ipsr : BitVec 32)
    (enabled masked : Bool) :
    Refuses powerReady radio intervalMs ipsr enabled masked ↔
      acceptable powerReady radio (ticksOf intervalMs) = false ∨
        ipsr ≠ 0 ∨ enabled = false ∨ masked = true := by
  simp only [Refuses, acceptable, Bool.and_eq_false_iff, bne_eq_false_iff_eq,
    decide_eq_false_iff_not, BitVec.not_le, or_assoc]

/-- The context as the guards see it; nobody else changes it. -/
def Context (ipsr : BitVec 32) (enabled masked : Bool) (machine : Machine) : Prop :=
  machine.ipsr = ipsr ∧ machine.rtcIrqEnabled = enabled ∧ machine.primask = masked

theorem context_stable (ipsr : BitVec 32) (enabled masked : Bool) :
    Stable power (Context ipsr enabled masked) :=
  fun _ _ context moved => by cases moved <;> exact context

def Inspects {Reply : Type} : Access Reply → Prop
  | .getIpsr => True
  | .getEnableIrq => True
  | .getPrimask => True
  | .setPrimask _ => True
  | _ => False

def Inspected (machine : Machine) : Prop :=
  ∀ entry, .own entry ∈ machine.trace → Inspects entry.call

theorem inspected_other {machine : Machine} (inspected : Inspected machine)
    {happening : Happening} (other : ∀ entry, happening ≠ .own entry) :
    Inspected (machine.record happening) := by
  intro entry found
  rcases List.mem_cons.mp found with same | earlier
  · exact absurd same.symm (other entry)
  · exact inspected entry earlier

theorem inspected_stable : Stable power Inspected := by
  intro machine next inspected moved
  cases moved with
  | compare counting => exact inspected_other inspected fun _ => nofun
  | readCause entered => exact inspected_other inspected fun _ => nofun
  | callback cause cleared => exact inspected_other inspected fun _ => nofun
  | _ => exact inspected

theorem inspected_access {Reply : Type} {machine : Machine} (inspected : Inspected machine)
    {call : Access Reply} (inspects : Inspects call) (answer : Reply) :
    Inspected ((machine.effect call).record (.own ⟨call, answer⟩)) := by
  intro entry found
  rw [Machine.record, effect_trace] at found
  rcases List.mem_cons.mp found with same | earlier
  · have entered : entry = ⟨call, answer⟩ := Happening.own.inj same
    rw [entered]
    exact inspects
  · exact inspected entry earlier

variable {ipsr : BitVec 32} {enabled masked : Bool}

/-- A look at the context answers with it. -/
theorem context_read {Reply : Type} (call : Access Reply) (value : Reply) (inspects : Inspects call)
    (same : ∀ machine, Context ipsr enabled masked machine → (machine.effect call) = machine)
    (answers : ∀ machine answer, Context ipsr enabled masked machine →
      machine.replies call answer → answer = value) :
    Triple power unguarded
      (fun machine => Context ipsr enabled masked machine ∧ Inspected machine) (access call)
      fun answer machine => answer = value ∧
        Context ipsr enabled masked machine ∧ Inspected machine := by
  have stable := stable_and (context_stable ipsr enabled masked) inspected_stable
  apply triple_access stable (fun _ => stable_and (stable_fact _) stable) (fun _ _ => trivial)
  intro machine answer holds _ replied
  refine ⟨answers machine answer holds.1 replied, ?_, inspected_access holds.2 inspects answer⟩
  have kept : Context ipsr enabled masked (machine.effect call) := by
    rw [same machine holds.1]
    exact holds.1
  exact kept

theorem setPrimask_inspected (state : Bool) :
    Triple power unguarded Inspected (access (.setPrimask state)) fun _ => Inspected := by
  apply triple_access inspected_stable (fun _ => inspected_stable) (fun _ _ => trivial)
  intro machine answer inspected _ _
  have inspects : Inspects (Access.setPrimask state) := trivial
  exact inspected_access inspected inspects answer

theorem intDisable_inspected :
    Triple power unguarded
      (fun machine => Context ipsr enabled masked machine ∧ Inspected machine) intDisable
      fun state machine => state = !masked ∧ Inspected machine := by
  rw [intDisable]
  apply triple_seq (context_read .getPrimask masked trivial (fun _ _ => rfl)
    fun machine _ context replied => replied.trans context.2.2)
  intro answered
  apply triple_fact
  intro same
  subst same
  apply triple_seq (triple_pre (setPrimask_inspected true) fun _ holds => holds.2)
  intro _
  apply triple_pure
  · exact stable_and (stable_fact _) inspected_stable
  · exact fun _ inspected => ⟨rfl, inspected⟩

/-- The guards: what is refused ends at once, the rest goes on. -/
theorem sleep_guards {turns : Nat} {powerReady : Bool} {radio : Option Radio}
    {intervalMs : BitVec 32} {post : Option SleepResult → Machine → Prop}
    (stable : Stable power (post (some ⟨false, powerReady, radio⟩)))
    (refused : Refuses powerReady radio intervalMs ipsr enabled masked → ∀ machine,
      Inspected machine → post (some ⟨false, powerReady, radio⟩) machine)
    (accepted : ¬Refuses powerReady radio intervalMs ipsr enabled masked → ∀ pointed,
      Triple power unguarded Inspected (powerDown turns pointed (ticksOf intervalMs)) post) :
    Triple power unguarded
      (fun machine => Context ipsr enabled masked machine ∧ Inspected machine)
      (sleep turns powerReady radio intervalMs) post := by
  rw [refuses_iff] at refused
  have rejects (refuses : acceptable powerReady radio (ticksOf intervalMs) = false ∨
      ipsr ≠ 0 ∨ enabled = false ∨ masked = true) :
      Triple power unguarded Inspected (pure (some ⟨false, powerReady, radio⟩)) post :=
    triple_pure stable (refused refuses)
  have rejectsFirst (refuses : acceptable powerReady radio (ticksOf intervalMs) = false ∨
      ipsr ≠ 0 ∨ enabled = false ∨ masked = true) :
      Triple power unguarded
        (fun machine => Context ipsr enabled masked machine ∧ Inspected machine)
        (pure (some ⟨false, powerReady, radio⟩)) post :=
    triple_pre (rejects refuses) fun _ holds => holds.2
  cases radio with
  | none =>
      have unacceptable : acceptable powerReady none (ticksOf intervalMs) = false := by
        simp [acceptable]
      exact rejectsFirst (.inl unacceptable)
  | some pointed =>
      unfold sleep
      apply triple_ite
      · intro unacceptable
        have unacceptable : acceptable powerReady (some pointed) (ticksOf intervalMs) = false := by
          simpa using unacceptable
        exact rejectsFirst (.inl unacceptable)
      · intro isAcceptable
        apply triple_seq (context_read .getIpsr ipsr trivial (fun _ _ => rfl)
          fun machine _ context replied => replied.trans context.1)
        intro found
        apply triple_fact
        intro same
        subst same
        apply triple_ite
        · exact fun handling => rejectsFirst (.inr (.inl handling))
        · intro threaded
          apply triple_seq (context_read .getEnableIrq enabled trivial (fun _ _ => rfl)
            fun machine _ context replied => replied.trans context.2.1)
          intro answered
          apply triple_fact
          intro same
          subst same
          apply triple_ite
          · intro disabled
            have disabled : answered = false := by simpa using disabled
            exact rejectsFirst (.inr (.inr (.inl disabled)))
          · intro isEnabled
            apply triple_seq intDisable_inspected
            intro state
            apply triple_fact
            intro saved
            subst saved
            apply triple_seq (setPrimask_inspected (!(!masked)))
            intro _
            apply triple_ite
            · intro isMasked
              have isMasked : masked = true := by simpa using isMasked
              exact rejects (.inr (.inr (.inr isMasked)))
            · intro unmasked
              have isAcceptable :
                  acceptable powerReady (some pointed) (ticksOf intervalMs) ≠ false := by
                simpa using isAcceptable
              have isEnabled : answered ≠ false := by simpa using isEnabled
              have unmasked : masked ≠ true := by simpa using unmasked
              have accepts :
                  ¬Refuses powerReady (some pointed) intervalMs found answered masked := by
                rw [refuses_iff, not_or, not_or, not_or]
                exact ⟨isAcceptable, threaded, isEnabled, unmasked⟩
              exact accepted accepts pointed

/-- What is refused touches nothing and keeps the latch. -/
theorem sleep_refuses {turns : Nat} {powerReady : Bool} {radio : Option Radio}
    {intervalMs : BitVec 32} (refuses : Refuses powerReady radio intervalMs ipsr enabled masked) :
    Triple power unguarded
      (fun machine => Context ipsr enabled masked machine ∧ Inspected machine)
      (sleep turns powerReady radio intervalMs) fun result machine =>
        result = some ⟨false, powerReady, radio⟩ ∧ Inspected machine := by
  apply sleep_guards
  · exact stable_and (stable_fact _) inspected_stable
  · exact fun _ _ inspected => ⟨rfl, inspected⟩
  · exact fun accepts => absurd refuses accepts

def Latched (result : Option SleepResult) : Prop :=
  ∀ found, result = some found → found.returned = found.powerReady

theorem latched_none : Latched none :=
  fun found same => absurd same.symm (Option.some_ne_none found)

theorem latched_some (ready : Bool) (radio : Option Radio) :
    Latched (some ⟨ready, ready, radio⟩) := by
  intro found same
  rw [← Option.some.inj same]

theorem powerDown_latches (turns : Nat) (pointed : Radio) (ticks : BitVec 64) :
    (powerDown turns pointed ticks).Ensures fun _ result => Latched result := by
  unfold powerDown
  apply ensures_after fun _ _ _ latched => latched
  intro drained
  rw [ensures_ite]
  refine ⟨fun _ => latched_some false _, fun _ => ?_⟩
  apply ensures_after fun _ _ _ latched => latched
  intro result
  obtain ⟨slept, module⟩ := result
  simp only [ensures_ite]
  refine ⟨fun _ => latched_some false _, fun _ => ?_⟩
  apply ensures_after fun _ _ _ latched => latched
  intro armed
  rw [ensures_ite]
  constructor
  · intro _
    apply ensures_after fun _ _ _ latched => latched
    exact fun _ => latched_some false _
  · intro _
    apply ensures_after fun _ _ _ latched => latched
    intro exited
    rw [ensures_ite]
    refine ⟨fun _ => latched_none, fun _ => ?_⟩
    apply ensures_after fun _ _ _ latched => latched
    exact fun ready => latched_some ready _

/-- What is accepted either succeeds or clears the latch. -/
theorem sleep_latches {turns : Nat} {powerReady : Bool} {radio : Option Radio}
    {intervalMs : BitVec 32} (accepts : ¬Refuses powerReady radio intervalMs ipsr enabled masked) :
    Triple power unguarded
      (fun machine => Context ipsr enabled masked machine ∧ Inspected machine)
      (sleep turns powerReady radio intervalMs) fun result _ => Latched result := by
  apply sleep_guards
  · exact stable_fact _
  · exact fun refuses => absurd refuses accepts
  · intro _ pointed
    have runs : Triple power unguarded (fun _ => True)
        (powerDown turns pointed (ticksOf intervalMs)) fun _ _ => True :=
      triple_trivial _
    apply triple_mono (triple_ensures runs (powerDown_latches turns pointed _))
    · exact fun _ _ => trivial
    · exact fun _ _ latched => latched.1

end Refuse

/-- `NODE_POWER_Sleep` is all or halt, and restores the processor state. -/
theorem sleep_all_or_halt (turns : Nat) (powerReady : Bool) (radio : Option Radio)
    (intervalMs : BitVec 32) :
    (∀ primask deep, Always power unguarded (Core primask deep)
        (sleep turns powerReady radio intervalMs) fun _ => Core primask deep) ∧
      Always power unguarded (fun machine => machine.trace = [])
        (sleep turns powerReady radio intervalMs)
        (fun result machine => succeeded result = true → Slept intervalMs machine) ∧
      Always power unguarded
        (fun machine => machine.trace = [] ∧ Refuses powerReady radio intervalMs machine.ipsr
          machine.rtcIrqEnabled machine.primask)
        (sleep turns powerReady radio intervalMs)
        (fun result machine => result = some ⟨false, powerReady, radio⟩ ∧ Inspected machine) ∧
      Always power unguarded
        (fun machine => machine.trace = [] ∧ ¬Refuses powerReady radio intervalMs machine.ipsr
          machine.rtcIrqEnabled machine.primask)
        (sleep turns powerReady radio intervalMs) fun result _ => Latched result := by
  have begins : ∀ machine : Machine, machine.trace = [] → Inspected machine := by
    intro machine started entry found
    rw [started] at found
    exact absurd found List.not_mem_nil
  constructor
  · exact fun primask deep => triple_always (sleep_restores turns powerReady radio intervalMs)
  constructor
  · exact triple_always fun machine started =>
      secured_unguarded (sleep_records turns powerReady radio intervalMs machine started)
  constructor
  · exact triple_always fun machine holds =>
      sleep_refuses holds.2 machine ⟨⟨rfl, rfl, rfl⟩, begins machine holds.1⟩
  · exact triple_always fun machine holds =>
      sleep_latches holds.2 machine ⟨⟨rfl, rfl, rfl⟩, begins machine holds.1⟩

end LoraNode.PowerMachine
