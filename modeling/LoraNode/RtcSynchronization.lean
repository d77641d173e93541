import LoraNode.RtcStop

/-!
# RTC writes and synchronization

`NODE_POWER_Initialize` and `NODE_POWER_Sleep` are called in any order while the
environment answers anything, SYNCBUSY included. A write to the RTC is made only
after SYNCBUSY was seen clear, and a wait that timed out is waited again first.
-/

namespace LoraNode.RtcSynchronization

open LoraNode.Foundation LoraNode.Foundation.Bytes LoraNode.Foundation.Program
  LoraNode.Foundation.Interference LoraNode.NodePower LoraNode.PowerMachine

def clockHz : BitVec 32 := 1024

/-- `RTC_MODE0_CTRL_MODE_Msk | RTC_MODE0_CTRL_PRESCALER_Msk` -/
def ctrlModeMask : BitVec 16 := 0x000C ||| 0x0F00

/-- What only `NODE_POWER_Initialize` calls. -/
inductive Setup : Type → Type where
  | timer32FrequencyGet : Setup (BitVec 32)
  | timer32CallbackRegister : Setup Unit

abbrev Call (Reply : Type) := Access Reply ⊕ Setup Reply

abbrev Lifetime := Program Call

def within {Result : Type} (program : Power Result) : Lifetime Result := program.lift Sum.inl

def setup {Reply : Type} (call : Setup Reply) : Lifetime Reply := perform (.inr call)

/-- `NODE_POWER_Initialize`, which leaves its result in `powerReady`. -/
def powerInitialize : Lifetime Bool := do
  let frequency ← setup .timer32FrequencyGet
  if frequency ≠ clockHz then return false
  else if !(← within (access .getEnableIrq)) then return false
  else if !(← within waitRtcSync) then return false
  else
    let ctrl ← within (access .readCtrl)
    if ctrl &&& ctrlModeMask ≠ 0 then return false
    else
      let interruptState ← within intDisable
      let powerReady ← within stopRtc
      within (access (.writeWakePending false))
      setup .timer32CallbackRegister
      within (intRestore interruptState)
      return powerReady

/-- One call of `node_power.h`; the wait loop of a sleep is followed for `turns` turns. -/
inductive PowerCall where
  | powerInitialize
  | powerSleep (turns : Nat) (radio : Option Radio) (intervalMs : BitVec 32)

/-- Calls one after the other, with `powerReady` between them. They come to their
end early at a sleep that is still waiting. -/
def powerCalls (powerReady : Bool) : List PowerCall → Lifetime Bool
  | [] => return powerReady
  | .powerInitialize :: rest => do
      let powerReady ← powerInitialize
      powerCalls powerReady rest
  | .powerSleep turns radio intervalMs :: rest => do
      match ← within (sleep turns powerReady radio intervalMs) with
      | none => return powerReady
      | some result => powerCalls result.powerReady rest

def writesRtc {Reply : Type} : Access Reply → Bool
  | .writeCtrl _ => true
  | .writeCount _ => true
  | .writeComp _ => true
  | .writeIntenset _ => true
  | .writeIntenclr _ => true
  | .writeIntflag _ => true
  | _ => false

abbrev Trace := List (Entry Access)

/-- SYNCBUSY was seen clear after the last write to CTRL, COUNT or COMP. -/
def SeenClear (trace : Trace) : Prop :=
  ∃ later earlier : Trace, trace = later ++ ⟨.rtcSyncBusy, false⟩ :: earlier ∧
    ∀ entry ∈ later, writesTimer entry.call = false

/-- After every wait that timed out another one has succeeded. -/
def WaitedAgain (trace : Trace) : Prop :=
  ∀ since polls before : Trace, trace = since ++ polls ++ before →
    Runs waitRtcSync polls.reverse false →
      ∃ later won between : Trace, since = later ++ won ++ between ∧
        Runs waitRtcSync won.reverse true

def synchronizedWrites : Guard Call Trace
  | _, .inl call, trace => writesRtc call = true → SeenClear trace ∧ WaitedAgain trace
  | _, .inr _, _ => True

def anything : Setting Call Trace where
  answers trace call answer next :=
    match call with
    | .inl call => next = ⟨call, answer⟩ :: trace
    | .inr _ => next = trace
  interferes _ _ := False

/-- What an entry tells about synchronization: a poll whether it is over, a write to
CTRL, COUNT or COMP that it has begun. -/
def synchronization : Entry Access → Option Bool
  | ⟨.rtcSyncBusy, busy⟩ => some !busy
  | ⟨call, _⟩ => if writesTimer call then some false else none

def Settled (trace : Trace) : Prop := trace.findSome? synchronization = some true

theorem synchronization_true {entry : Entry Access} (settled : synchronization entry = some true) :
    entry = ⟨.rtcSyncBusy, false⟩ := by
  obtain ⟨call, answer⟩ := entry
  cases call with
  | rtcSyncBusy =>
      have clear : answer = false := by simpa using Option.some.inj settled
      rw [clear]
  | _ => exact absurd settled (by simp [synchronization, writesTimer])

theorem synchronization_none {entry : Entry Access} (silent : synchronization entry = none) :
    writesTimer entry.call = false := by
  obtain ⟨call, answer⟩ := entry
  cases call with
  | writeCtrl value => exact absurd silent (by simp [synchronization, writesTimer])
  | writeCount value => exact absurd silent (by simp [synchronization, writesTimer])
  | writeComp value => exact absurd silent (by simp [synchronization, writesTimer])
  | _ => rfl

theorem settled_seen {trace : Trace} (settled : Settled trace) : SeenClear trace := by
  obtain ⟨later, poll, earlier, shape, ended, silent⟩ :=
    List.findSome?_eq_some_iff.mp settled
  have clear := synchronization_true ended
  subst clear
  exact ⟨later, earlier, shape, fun entry found => synchronization_none (silent entry found)⟩

/-- What a wait that timed out tells. -/
theorem timed_out_unsettled {polls : Trace} (timedOut : Runs waitRtcSync polls.reverse false) :
    polls.findSome? synchronization = some false := by
  have busy : polls.reverse = List.replicate waitAttempts ⟨.rtcSyncBusy, true⟩ :=
    waitWhile_timed_out timedOut
  have same : polls = List.replicate waitAttempts ⟨.rtcSyncBusy, true⟩ := by
    rw [← List.reverse_reverse polls, busy, List.reverse_replicate]
  have first : waitAttempts = (waitAttempts - 1) + 1 := rfl
  rw [same, first, List.replicate_succ]
  rfl

theorem settled_waited {trace : Trace} (settled : Settled trace) : WaitedAgain trace := by
  intro since polls before shape timedOut
  have unsettled := timed_out_unsettled timedOut
  have known : since.findSome? synchronization = some true := by
    rw [Settled, shape, List.append_assoc, List.findSome?_append, List.findSome?_append,
      unsettled] at settled
    cases found : since.findSome? synchronization with
    | none => rw [found] at settled; exact absurd settled (by simp)
    | some ended => rw [found] at settled; exact settled
  obtain ⟨later, poll, between, split, ended, _⟩ := List.findSome?_eq_some_iff.mp known
  have clear := synchronization_true ended
  subst clear
  refine ⟨later, [⟨.rtcSyncBusy, false⟩], between, ?_, ?_⟩
  · rw [split, List.append_assoc]
    rfl
  · exact waitWhile_at_once Access.rtcSyncBusy (waitAttempts - 1)

section Accesses

variable {Result : Type}

abbrev rtc : Setting Access Trace := anything.along Sum.inl

abbrev synchronized : Guard Access Trace := synchronizedWrites.along Sum.inl

theorem undisturbed (assertion : Trace → Prop) : Stable rtc assertion :=
  fun _ _ _ moved => moved.elim

/-- An access that tells nothing about synchronization. -/
theorem settled_access {Reply : Type} (call : Access Reply)
    (silent : ∀ answer, synchronization ⟨call, answer⟩ = none) :
    Triple rtc synchronized Settled (access call) fun _ => Settled := by
  apply triple_perform (undisturbed Settled) fun _ => undisturbed Settled
  · exact fun trace settled _ => ⟨settled_seen settled, settled_waited settled⟩
  · intro trace answer after settled recorded
    have same : after = ⟨call, answer⟩ :: trace := recorded
    rw [same, Settled, List.findSome?_cons, silent answer]
    exact settled

/-- Any access may follow when synchronization is over. -/
theorem settled_once {Reply : Type} (call : Access Reply) :
    Triple rtc synchronized Settled (access call) fun _ _ => True := by
  apply triple_perform (undisturbed Settled) fun _ => undisturbed fun _ => True
  · exact fun trace settled _ => ⟨settled_seen settled, settled_waited settled⟩
  · exact fun _ _ _ _ _ => trivial

def Passive {Reply : Type} (call : Access Reply) : Prop := writesRtc call = false

theorem passive_runs {facts : Trace → Prop} {program : Power Result}
    (only : program.Only Passive) :
    Triple rtc synchronized facts program fun _ _ => True := by
  have guarded : ∀ {Reply : Type} (call : Access Reply) (trace : Trace), Passive call →
      True → synchronized call trace := by
    intro Reply call trace passive _ writes
    rw [passive] at writes
    exact absurd writes (by decide)
  apply triple_pre (triple_only (undisturbed fun _ => True) guarded _ only)
  · exact fun _ _ => trivial
  · exact fun _ _ _ _ _ _ _ => trivial

theorem waitRtcSync_settles :
    Triple rtc synchronized (fun _ => True) waitRtcSync
      fun inTime trace => inTime = true → Settled trace := by
  have polled : Triple rtc synchronized (fun _ => True) (access .rtcSyncBusy)
      fun busy trace => True ∧ (busy = false → Settled trace) := by
    apply triple_perform (undisturbed fun _ => True) fun _ => undisturbed _
    · exact fun _ _ writes => absurd writes (by decide)
    · intro trace busy after _ recorded
      refine ⟨trivial, fun clear => ?_⟩
      have same : after = ⟨.rtcSyncBusy, busy⟩ :: trace := recorded
      subst clear
      rw [same]
      rfl
  apply triple_mono (triple_waitWhile (undisturbed _) (undisturbed Settled) polled waitAttempts)
  · exact fun _ _ => trivial
  · exact fun _ _ holds => holds.2

/-- A wait that may time out, and what follows it in time. -/
theorem wait_then {rest : Power Result} {failure : Result} {post : Result → Trace → Prop}
    (fails : ∀ trace, post failure trace) (next : Triple rtc synchronized Settled rest post) :
    Triple rtc synchronized (fun _ => True)
      (do
        if !(← waitRtcSync) then return failure
        else rest) post := by
  apply triple_seq waitRtcSync_settles
  intro inTime
  apply triple_ite
  · exact fun _ => triple_pure (undisturbed _) fun trace _ => fails trace
  · intro waited
    have inTime : inTime = true := by simpa using waited
    exact triple_pre next fun _ settles => settles inTime

end Accesses

theorem stopRtc_settles :
    Triple rtc synchronized (fun _ => True) stopRtc
      fun ready trace => ready = true → Settled trace := by
  apply wait_then
  · exact fun _ => nofun
  · apply triple_seq (settled_access (.writeIntenclr rtcInterruptMask) fun _ => rfl)
    intro _
    apply triple_seq (settled_access .readCtrl fun _ => rfl)
    intro ctrl
    apply triple_seq (settled_once (.writeCtrl (ctrl &&& ~~~enableMask)))
    intro _
    apply wait_then
    · exact fun _ => nofun
    · apply triple_seq (settled_access (.writeIntflag rtcInterruptMask) fun _ => rfl)
      intro _
      apply triple_seq (settled_access .clearPendingIrq fun _ => rfl)
      intro _
      exact triple_pure (undisturbed _) fun _ settled _ => settled

/-- Every write of the arming sequence has its own wait before it. -/
theorem startRtc_synchronized (ticks : BitVec 64) :
    Triple rtc synchronized (fun _ => True) (startRtc ticks) fun _ _ => True := by
  have failed (facts : Trace → Prop) :
      Triple rtc synchronized facts (pure false : Power Bool) fun _ _ => True :=
    triple_pure (undisturbed _) fun _ _ => trivial
  rw [startRtc]
  apply triple_seq stopRtc_settles
  intro ready
  cases ready with
  | false =>
      have passive : Passive (Access.writeWakePending false) := rfl
      exact triple_seq (passive_runs (only_perform passive)) fun _ => failed _
  | true =>
      apply triple_seq (triple_pre (settled_access (.writeWakePending false) fun _ => rfl)
        fun _ settles => settles rfl)
      intro _
      apply triple_seq (settled_once (.writeCount 0))
      intro _
      apply wait_then
      · exact fun _ => trivial
      · apply triple_seq (settled_once (.writeComp (ticks.setWidth 32)))
        intro _
        apply wait_then
        · exact fun _ => trivial
        · apply triple_seq (settled_access (.writeIntenset compareMatch) fun _ => rfl)
          intro _
          apply triple_seq (settled_access .readCtrl fun _ => rfl)
          intro ctrl
          apply triple_seq (settled_once (.writeCtrl (ctrl ||| enableMask)))
          intro _
          have polls : Passive Access.rtcSyncBusy := rfl
          exact passive_runs (waitRtcSync_only polls)

section Calls

variable {Result : Type}

theorem ended {facts : Trace → Prop} (result : Result) :
    Triple rtc synchronized facts (pure result) fun _ _ => True :=
  triple_pure (undisturbed _) fun _ _ => trivial

theorem intDisable_passive : intDisable.Only Passive := intDisable_only rfl fun _ => rfl

/-- With interrupts masked. -/
theorem masked_synchronized {program : Power Bool}
    (triple : Triple rtc synchronized (fun _ => True) program fun _ _ => True) :
    Triple rtc synchronized (fun _ => True)
      (do
        let state ← intDisable
        let ready ← program
        intRestore state
        return ready) fun _ _ => True := by
  apply triple_seq (passive_runs intDisable_passive)
  intro state
  apply triple_seq triple
  intro ready
  have restores : Passive (Access.setPrimask !state) := rfl
  exact triple_seq (passive_runs (only_perform restores)) fun _ => ended ready

theorem stopRtc_synchronized :
    Triple rtc synchronized (fun _ => True) stopRtc fun _ _ => True :=
  triple_mono stopRtc_settles (fun _ holds => holds) fun _ _ _ => trivial

/-- A sleep after its guards, with the cleanup after a failed arming. -/
theorem powerDown_synchronized (turns : Nat) (pointed : Radio) (ticks : BitVec 64) :
    Triple rtc synchronized (fun _ => True) (powerDown turns pointed ticks) fun _ _ => True := by
  have drains : drainPeripherals.Only Passive := drainPeripherals_only rfl rfl rfl
  have sleeps : (sleepRadio pointed.module).Only Passive :=
    sleepRadio_only rfl (fun _ => rfl) (fun _ _ => rfl) rfl pointed.module
  have waits : (waitForWake turns).Only Passive :=
    only_bind (only_perform (show Passive Access.readScr from rfl)) fun scr =>
      waitLoop_only rfl (fun _ => rfl) rfl (fun _ => rfl) rfl rfl (scr &&& sleepDeepMask) turns
  unfold powerDown
  apply triple_seq (passive_runs drains)
  intro drained
  apply triple_ite (fun _ => ended _)
  intro _
  apply triple_seq (passive_runs sleeps)
  intro result
  obtain ⟨slept, module⟩ := result
  apply triple_ite (fun _ => ended _)
  intro _
  apply triple_seq (masked_synchronized (startRtc_synchronized ticks))
  intro armed
  apply triple_ite
  · exact fun _ => triple_seq stopRtc_synchronized fun _ => ended _
  · intro _
    apply triple_seq (passive_runs waits)
    intro exited
    apply triple_ite (fun _ => ended _)
    intro _
    exact triple_seq (masked_synchronized stopRtc_synchronized) fun ready => ended _

theorem sleep_synchronized (turns : Nat) (powerReady : Bool) (radio : Option Radio)
    (intervalMs : BitVec 32) :
    Triple rtc synchronized (fun _ => True) (sleep turns powerReady radio intervalMs)
      fun _ _ => True := by
  have inspects : Passive Access.getIpsr := rfl
  have enabled : Passive Access.getEnableIrq := rfl
  cases radio with
  | none => exact ended _
  | some pointed =>
      unfold sleep
      apply triple_ite (fun _ => ended _)
      intro _
      apply triple_seq (passive_runs (only_perform inspects))
      intro ipsr
      apply triple_ite (fun _ => ended _)
      intro _
      apply triple_seq (passive_runs (only_perform enabled))
      intro irqEnabled
      apply triple_ite (fun _ => ended _)
      intro _
      apply triple_seq (passive_runs intDisable_passive)
      intro state
      have restores : Passive (Access.setPrimask !state) := rfl
      apply triple_seq (passive_runs (only_perform restores))
      intro _
      apply triple_ite (fun _ => ended _)
      exact fun _ => powerDown_synchronized turns pointed (ticksOf intervalMs)

/-- One function of `node_power.c` on the wider interface. -/
theorem within_synchronized {facts : Trace → Prop} {program : Power Result}
    (triple : Triple rtc synchronized (fun _ => True) program fun _ _ => True) :
    Triple anything synchronizedWrites facts (within program) fun _ _ => True :=
  triple_pre (triple_along triple) fun _ _ => trivial

theorem setup_synchronized {facts : Trace → Prop} (call : Setup Result) :
    Triple anything synchronizedWrites facts (setup call) fun _ _ => True := by
  have goes : Triple anything synchronizedWrites (fun _ => True) (setup call) fun _ _ => True := by
    apply triple_perform
    · exact stable_fact True
    · exact fun _ => stable_fact True
    · exact fun _ _ => trivial
    · exact fun _ _ _ _ _ => trivial
  exact triple_pre goes fun _ _ => trivial

theorem powerInitialize_synchronized :
    Triple anything synchronizedWrites (fun _ => True) powerInitialize fun _ _ => True := by
  have failed : Triple anything synchronizedWrites (fun _ => True) (pure false : Lifetime Bool)
      fun _ _ => True := triple_pure (stable_fact True) fun _ _ => trivial
  have enabled : Passive Access.getEnableIrq := rfl
  have polls : Passive Access.rtcSyncBusy := rfl
  have reads : Passive Access.readCtrl := rfl
  have clears : Passive (Access.writeWakePending false) := rfl
  rw [powerInitialize]
  apply triple_seq (setup_synchronized .timer32FrequencyGet)
  intro frequency
  apply triple_ite (fun _ => failed)
  intro _
  apply triple_seq (within_synchronized (passive_runs (only_perform enabled)))
  intro irqEnabled
  apply triple_ite (fun _ => failed)
  intro _
  apply triple_seq (within_synchronized (passive_runs (waitRtcSync_only polls)))
  intro inTime
  apply triple_ite (fun _ => failed)
  intro _
  apply triple_seq (within_synchronized (passive_runs (only_perform reads)))
  intro ctrl
  apply triple_ite (fun _ => failed)
  intro _
  apply triple_seq (within_synchronized (passive_runs intDisable_passive))
  intro state
  apply triple_seq (within_synchronized stopRtc_synchronized)
  intro ready
  apply triple_seq (within_synchronized (passive_runs (only_perform clears)))
  intro _
  apply triple_seq (setup_synchronized .timer32CallbackRegister)
  intro _
  have restores : Passive (Access.setPrimask !state) := rfl
  apply triple_seq (within_synchronized (passive_runs (only_perform restores)))
  intro _
  exact triple_pure (stable_fact True) fun _ _ => trivial

theorem powerCalls_synchronized (calls : List PowerCall) (powerReady : Bool) :
    Triple anything synchronizedWrites (fun _ => True) (powerCalls powerReady calls)
      fun _ _ => True := by
  have ends (ready : Bool) : Triple anything synchronizedWrites (fun _ => True)
      (pure ready : Lifetime Bool) fun _ _ => True :=
    triple_pure (stable_fact True) fun _ _ => trivial
  induction calls generalizing powerReady with
  | nil => exact ends powerReady
  | cons call rest induction =>
      cases call with
      | powerInitialize => exact triple_seq powerInitialize_synchronized induction
      | powerSleep turns radio intervalMs =>
          apply triple_seq
            (within_synchronized (sleep_synchronized turns powerReady radio intervalMs))
          intro found
          cases found with
          | none => exact ends powerReady
          | some result => exact induction result.powerReady

/-- In every sequence of calls, whatever SYNCBUSY does, no write to the RTC is made
while a synchronization may be outstanding. -/
theorem rtc_writes_wait (powerReady : Bool) (calls : List PowerCall) :
    Always anything synchronizedWrites (fun trace => trace = [])
      (powerCalls powerReady calls) fun _ _ => True :=
  triple_always (triple_pre (powerCalls_synchronized calls powerReady) fun _ _ => trivial)

end Calls

end LoraNode.RtcSynchronization
