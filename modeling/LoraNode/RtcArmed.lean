import LoraNode.RtcStop

/-!
# The armed RTC

From the write of ENABLE on, every way a compare can take is accounted for: while
the wake flag is clear a compare that fired is still flagged, pending or in the
handler, and the wake flag is set only by a handler that saw such a compare. No
step of the RTC or of an interrupt breaks this.
-/

namespace LoraNode.PowerMachine

open LoraNode.Foundation LoraNode.Foundation.Bytes LoraNode.Foundation.Program
  LoraNode.Foundation.Interference LoraNode.NodePower

theorem matched_compare (flags : Byte) : Matched (flags ||| compareMatch) := by
  have kept : (flags ||| compareMatch) &&& compareMatch = compareMatch := by
    rw [BitVec.and_or_distrib_right, BitVec.and_self, compareMatch]
    ext index bound
    simp
  rw [Matched, kept]
  decide

/-- The flags that are no compare. -/
theorem matched_other {flag : Byte} (other : flag = overflow ∨ flag = syncReady) (flags : Byte) :
    Matched (flags ||| flag) ↔ Matched flags := by
  have apart : flag &&& compareMatch = 0#8 := by
    rcases other with rfl | rfl <;> decide
  rw [Matched, BitVec.and_or_distrib_right, apart, BitVec.or_zero]
  rfl

theorem matched_cleared (flags : Byte) : ¬Matched (flags &&& ~~~rtcInterruptMask) := by
  have apart : ~~~rtcInterruptMask &&& compareMatch = 0#8 := by decide
  rw [Matched, BitVec.and_assoc, apart, BitVec.and_zero]
  exact fun differs => differs rfl

/-- Nothing but the compare interrupt may be enabled in INTENSET. -/
def Selects (machine : Machine) (mask : Byte) : Prop :=
  (mask = 0 ∨ mask = compareMatch) ∧ machine.inten &&& rtcInterruptMask = mask

theorem selects_moves {machine next : Machine} {mask : Byte} (selects : Selects machine mask)
    (moved : Moves machine next) : Selects next mask := by
  cases moved <;> exact selects

theorem unselected {machine : Machine} {mask flag : Byte} (selects : Selects machine mask)
    (other : flag = overflow ∨ flag = syncReady) : machine.inten &&& flag = 0 := by
  obtain ⟨known, same⟩ := selects
  have within : flag = rtcInterruptMask &&& flag := by
    rcases other with rfl | rfl <;> decide
  rw [within, ← BitVec.and_assoc, same]
  rcases known with rfl | rfl <;> rcases other with rfl | rfl <;> decide

/-- A flag that is not enabled does not pend the interrupt. -/
theorem raise_unselected {machine : Machine} {mask flag : Byte} (selects : Selects machine mask)
    (other : flag = overflow ∨ flag = syncReady) :
    (machine.raise flag).rtcPending = machine.rtcPending := by
  rw [Machine.raise, unselected selects other]
  simp

/-- The interrupt line is up for the compare only. -/
theorem asserted_matched {machine : Machine} {mask : Byte} (selects : Selects machine mask)
    (asserted : machine.intflag &&& machine.inten &&& rtcInterruptMask ≠ 0) :
    Matched machine.intflag := by
  rw [BitVec.and_assoc, selects.2] at asserted
  rcases selects.1 with rfl | rfl
  · simp at asserted
  · exact asserted

theorem raise_compare {machine : Machine} (selects : Selects machine compareMatch) :
    (machine.raise compareMatch).rtcPending = true := by
  have within : compareMatch = rtcInterruptMask &&& compareMatch := by decide
  have enabled : machine.inten &&& compareMatch = compareMatch := by
    rw [within, ← BitVec.and_assoc, selects.2]
    decide
  rw [Machine.raise, enabled]
  simp [compareMatch]

/-- The RTC stands still with nothing left over; INTENSET may already be set. -/
structure Parked (mask : Byte) (machine : Machine) : Prop where
  disabled : ¬machine.enabled
  still : machine.running = false
  selects : Selects machine mask
  clean : Clean machine

theorem parked_stable (mask : Byte) : Stable power (Parked mask) := by
  intro machine next parked moved
  have selects := selects_moves parked.selects moved
  have counts : ¬machine.counting := by
    intro counting
    rcases counting with running | enabled
    · rw [parked.still] at running
      exact absurd running (by decide)
    · exact parked.disabled enabled
  have idle := parked.clean.idle
  cases moved with
  | compare counting => exact absurd counting counts
  | overflow counting => exact absurd counting counts
  | synchronize busy =>
      refine ⟨parked.disabled, decide_eq_false parked.disabled, selects, ?_⟩
      refine ⟨?_, ?_, idle, parked.clean.unwoken⟩
      · exact (matched_other (.inr rfl) machine.intflag).not.mpr parked.clean.unmatched
      · exact (raise_unselected parked.selects (.inr rfl)).trans parked.clean.unpended
  | pend asserted =>
      exact absurd (asserted_matched parked.selects asserted) parked.clean.unmatched
  | enter unmasked _ enabled pending =>
      rw [parked.clean.unpended] at pending
      exact absurd pending (by decide)
  | readCause entered => rw [idle] at entered; exact Handler.noConfusion entered
  | clearFlags cause caused => rw [idle] at caused; exact Handler.noConfusion caused
  | callback cause cleared => rw [idle] at cleared; exact Handler.noConfusion cleared
  | otherRaised => exact ⟨parked.disabled, parked.still, selects, parked.clean.unmatched,
      parked.clean.unpended, idle, parked.clean.unwoken⟩
  | otherHandled unmasked => exact ⟨parked.disabled, parked.still, selects, parked.clean.unmatched,
      parked.clean.unpended, idle, parked.clean.unwoken⟩

def Woken (record : List Happening) (machine : Machine) : Prop :=
  ∃ cause, Matched cause ∧
    Shows (.handlerDone cause :: .handlerCause cause :: .compareFired :: record) machine

def Expected (machine : Machine) : Prop :=
  match machine.handler with
  | .idle => (machine.rtcPending = true → Matched machine.intflag) ∧
      (machine.compared = true → machine.rtcPending = true)
  | .entered => Matched machine.intflag
  | .caused cause => Matched cause
  | .cleared cause => Matched cause

def Handler.has : Handler → Byte → Prop
  | .caused found, cause => found = cause
  | .cleared found, cause => found = cause
  | _, _ => False

/-- The RTC since ENABLE was written, with what is on record until then. -/
structure Armed (record : List Happening) (machine : Machine) : Prop where
  known : Known record machine
  selects : Selects machine compareMatch
  flagged : Matched machine.intflag → Shows (.compareFired :: record) machine
  caused : ∀ cause, machine.handler.has cause → Matched cause →
    Shows (.handlerCause cause :: .compareFired :: record) machine
  woken : machine.rtcWakePending = true → Woken record machine
  expected : machine.rtcWakePending = false → Expected machine

section Moves

variable {record : List Happening} {machine next : Machine}

theorem flagged_moves (armed : Armed record machine) (moved : Moves machine next) :
    Matched next.intflag → Shows (.compareFired :: record) next := by
  have shown := shows_stable (.compareFired :: record) machine next
  cases moved with
  | compare counting => exact fun _ => shows_next armed.known.shown .compareFired
  | overflow counting =>
      intro matched
      exact armed.flagged ((matched_other (.inl rfl) machine.intflag).mp matched)
  | synchronize busy =>
      intro matched
      exact armed.flagged ((matched_other (.inr rfl) machine.intflag).mp matched)
  | readCause entered => exact fun matched => (armed.flagged matched).cons _
  | clearFlags cause caused => exact fun matched => absurd matched (matched_cleared _)
  | callback cause cleared => exact fun matched => (armed.flagged matched).cons _
  | _ => exact armed.flagged

theorem caused_moves (armed : Armed record machine) (moved : Moves machine next) :
    ∀ cause, next.handler.has cause → Matched cause →
      Shows (.handlerCause cause :: .compareFired :: record) next := by
  intro cause has matched
  cases moved with
  | compare counting => exact (armed.caused cause has matched).cons _
  | enter unmasked idle enabled pending => exact has.elim
  | readCause entered =>
      have same : machine.intflag = cause := has
      subst same
      exact shows_next (armed.flagged matched) _
  | clearFlags found caused =>
      have read : machine.handler.has cause := by
        rw [caused]
        exact has
      exact armed.caused cause read matched
  | callback found cleared => exact has.elim
  | _ => exact armed.caused cause has matched

theorem woken_moves (armed : Armed record machine) (moved : Moves machine next) :
    next.rtcWakePending = true → Woken record next := by
  have kept : machine.rtcWakePending = true → Woken record next := by
    intro wake
    obtain ⟨cause, matched, shown⟩ := armed.woken wake
    exact ⟨cause, matched, shows_stable _ machine next shown moved⟩
  cases moved with
  | callback cause cleared =>
      intro wake
      by_cases matched : Matched cause
      · have has : machine.handler.has cause := by
          rw [cleared]
          rfl
        exact ⟨cause, matched, shows_next (armed.caused cause has matched) _⟩
      · have same : rtcCallback cause machine.rtcWakePending = machine.rtcWakePending :=
          if_neg matched
        exact kept (same.symm.trans wake)
  | _ => exact kept

theorem expected_compare (armed : Armed record machine)
    (expected : Expected machine) :
    Expected ({ machine.raise compareMatch with compared := true }.record .compareFired) := by
  have matched := matched_compare machine.intflag
  have pending := raise_compare armed.selects
  unfold Expected at expected ⊢
  cases stage : machine.handler <;> simp only [stage] at expected <;>
    simp only [Machine.record, Machine.raise, stage]
  · exact ⟨fun _ => matched, fun _ => pending⟩
  · exact matched
  · exact expected
  · exact expected

/-- Other flags neither pend the interrupt nor hide the compare. -/
theorem expected_raise {flag : Byte} (other : flag = overflow ∨ flag = syncReady)
    (armed : Armed record machine) (expected : Expected machine) :
    Expected (machine.raise flag) := by
  have matched := (matched_other other machine.intflag).mpr
  have pending := raise_unselected armed.selects other
  unfold Expected at expected ⊢
  cases stage : machine.handler <;> simp only [stage] at expected <;>
    simp only [Machine.raise, stage] at pending ⊢
  · rw [pending]
    exact ⟨fun pended => matched (expected.1 pended), expected.2⟩
  · exact matched expected
  · exact expected
  · exact expected

theorem expected_pend (armed : Armed record machine) (expected : Expected machine)
    (asserted : machine.intflag &&& machine.inten &&& rtcInterruptMask ≠ 0) :
    Expected { machine with rtcPending := true } := by
  have matched := asserted_matched armed.selects asserted
  unfold Expected at expected ⊢
  cases stage : machine.handler <;> simp only [stage] at expected ⊢
  · exact ⟨fun _ => matched, fun _ => trivial⟩
  · exact expected
  · exact expected
  · exact expected

theorem expected_moves (armed : Armed record machine) (moved : Moves machine next) :
    next.rtcWakePending = false → Expected next := by
  intro unwoken
  cases moved with
  | compare counting => exact expected_compare armed (armed.expected unwoken)
  | overflow counting => exact expected_raise (.inl rfl) armed (armed.expected unwoken)
  | synchronize busy => exact expected_raise (.inr rfl) armed (armed.expected unwoken)
  | pend asserted => exact expected_pend armed (armed.expected unwoken) asserted
  | otherRaised => exact armed.expected unwoken
  | otherHandled unmasked => exact armed.expected unwoken
  | enter unmasked idle enabled pending =>
      have expected := armed.expected unwoken
      simp only [Expected, idle] at expected
      exact expected.1 pending
  | readCause entered =>
      have expected := armed.expected unwoken
      simp only [Expected, entered] at expected
      exact expected
  | clearFlags cause caused =>
      have expected := armed.expected unwoken
      simp only [Expected, caused] at expected
      exact expected
  | callback cause cleared =>
      -- The callback sets the wake flag, because the cause it is given has the compare.
      have matched : Matched cause := by
        by_contra unmatched
        have before : rtcCallback cause machine.rtcWakePending = machine.rtcWakePending :=
          if_neg unmatched
        have expected := armed.expected (before.symm.trans unwoken)
        simp only [Expected, cleared] at expected
        exact unmatched expected
      have woken : rtcCallback cause machine.rtcWakePending = true := if_pos matched
      exact absurd (woken.symm.trans unwoken) (by decide)

end Moves

theorem armed_stable (record : List Happening) : Stable power (Armed record) :=
  fun machine next armed moved =>
    { known := known_stable record machine next armed.known moved
      selects := selects_moves armed.selects moved
      flagged := flagged_moves armed moved
      caused := caused_moves armed moved
      woken := woken_moves armed moved
      expected := expected_moves armed moved }

end LoraNode.PowerMachine
