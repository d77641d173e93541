import LoraNode.Dht11

/-!
# One read of the sensor on the DATA line

Whatever the line does, `DHT11_Read` sends its start signal, then only listens, and
leaves the line driven high. Every loop counts the microseconds it waits, so the
delays of a read have a bound that only depends on the timeout of the handle.
-/

namespace LoraNode.Dht11

open LoraNode.Foundation LoraNode.Foundation.Bytes LoraNode.Foundation.Program

def Pin.delay {Reply : Type} : Pin Reply → Nat
  | .delayUs usec => usec
  | .delayMs msec => 1000 * msec
  | .outputEnable => 0
  | .inputEnable => 0
  | .set => 0
  | .clear => 0
  | .read => 0

def waited : List (Entry Pin) → Nat
  | [] => 0
  | entry :: trace => entry.call.delay + waited trace

def Pin.Listens {Reply : Type} : Pin Reply → Prop
  | .read => True
  | .delayUs _ => True
  | .delayMs _ => False
  | .outputEnable => False
  | .inputEnable => False
  | .set => False
  | .clear => False

def startSignal : List (Entry Pin) :=
  [⟨.outputEnable, ()⟩, ⟨.clear, ()⟩, ⟨.delayMs 18, ()⟩, ⟨.set, ()⟩, ⟨.inputEnable, ()⟩,
    ⟨.delayUs 30, ()⟩]

def drivenHigh : List (Entry Pin) := [⟨.outputEnable, ()⟩, ⟨.set, ()⟩]

def longestWait (timeoutUs : BitVec 32) : Nat := max timeoutUs.toNat 1

def deadlineUs (timeoutUs : BitVec 32) : Nat :=
  startLowUs + startHighUs + (responseWaitUs + 2 * longestWait timeoutUs) +
    totalBits * (2 * longestWait timeoutUs + bitThresholdUs)

example : deadlineUs defaultTimeout = 36130 := by decide

/-- The accesses of one read, start signal first. -/
structure Transaction (timeoutUs : BitVec 32) (trace : List (Entry Pin)) : Prop where
  framed : ∃ heard, trace = startSignal ++ heard ++ drivenHigh ∧
    ∀ entry ∈ heard, entry.call.Listens
  inTime : waited trace ≤ deadlineUs timeoutUs

theorem deadline_mono {shorter longer : BitVec 32} (fits : shorter ≤ longer) :
    deadlineUs shorter ≤ deadlineUs longer := by
  have less : shorter.toNat ≤ longer.toNat := BitVec.le_def.mp fits
  have waits : longestWait shorter ≤ longestWait longer := by
    rw [longestWait, longestWait]
    omega
  rw [deadlineUs, deadlineUs, totalBits]
  omega

theorem transaction_mono {shorter longer : BitVec 32} {trace : List (Entry Pin)}
    (transaction : Transaction shorter trace) (fits : shorter ≤ longer) :
    Transaction longer trace :=
  ⟨transaction.framed, Nat.le_trans transaction.inTime (deadline_mono fits)⟩

/-- A part of a read that only listens, for so long at most. -/
structure Hears (budget : Nat) (trace : List (Entry Pin)) : Prop where
  listens : ∀ entry ∈ trace, entry.call.Listens
  inTime : waited trace ≤ budget

theorem waited_append (first second : List (Entry Pin)) :
    waited (first ++ second) = waited first + waited second := by
  induction first with
  | nil => exact (Nat.zero_add _).symm
  | cons entry first induction => rw [List.cons_append, waited, waited, induction, Nat.add_assoc]

theorem hears_nothing (budget : Nat) : Hears budget [] := by
  constructor
  · simp
  · exact Nat.zero_le budget

theorem hears_append {budget more : Nat} {first second : List (Entry Pin)}
    (before : Hears budget first) (after : Hears more second) :
    Hears (budget + more) (first ++ second) := by
  constructor
  · intro entry member
    rcases List.mem_append.mp member with early | late
    · exact before.listens entry early
    · exact after.listens entry late
  · rw [waited_append]
    exact Nat.add_le_add before.inTime after.inTime

theorem hears_longer {budget longer : Nat} {trace : List (Entry Pin)} (hears : Hears budget trace)
    (fits : budget ≤ longer) : Hears longer trace :=
  ⟨hears.listens, Nat.le_trans hears.inTime fits⟩

def Patient {Result : Type} (budget : Nat) (program : Line Result) : Prop :=
  program.Ensures fun trace _ => Hears budget trace

variable {First Second Result : Type}

theorem patient_pure (budget : Nat) (result : Result) : Patient budget (pure result) :=
  hears_nothing budget

theorem patient_bind {budget more : Nat} {program : Line First} {next : First → Line Second}
    (first : Patient budget program) (second : ∀ value, Patient more (next value)) :
    Patient (budget + more) (program >>= next) := by
  rw [Patient, ensures_bind]
  apply ensures_mono first
  intro before value hears
  exact ensures_mono (second value) fun after _ => hears_append hears

theorem patient_ite {budget : Nat} {condition : Prop} [Decidable condition]
    {first second : Line Result} (left : Patient budget first) (right : Patient budget second) :
    Patient budget (if condition then first else second) := by
  split_ifs
  · exact left
  · exact right

theorem patient_longer {budget longer : Nat} {program : Line Result}
    (patient : Patient budget program) (fits : budget ≤ longer) : Patient longer program :=
  ensures_mono patient fun _ _ hears => hears_longer hears fits

theorem read_patient : Patient 0 (access .read) := by
  intro answer
  constructor
  · simp [Pin.Listens]
  · simp [waited, Pin.delay]

theorem delay_patient (usec : Nat) : Patient usec (access (.delayUs usec)) := by
  intro answer
  constructor
  · simp [Pin.Listens]
  · simp [waited, Pin.delay]

theorem pollEnd_patient (level : Bool) (more : Nat) : Patient (more + 1) (pollEnd level more) := by
  induction more with
  | zero =>
      have longer : 0 + (1 + 0) ≤ 0 + 1 := by omega
      apply patient_longer (patient_bind read_patient fun value => ?_) longer
      apply patient_ite
      · exact patient_bind (delay_patient 1) fun _ => patient_pure 0 false
      · exact patient_pure 1 true
  | succ more induction =>
      have longer : 0 + (1 + (more + 1)) ≤ more + 1 + 1 := by omega
      apply patient_longer (patient_bind read_patient fun value => ?_) longer
      apply patient_ite
      · exact patient_bind (delay_patient 1) fun _ => induction
      · exact patient_pure _ true

theorem waitWhileLevel_patient (level : Bool) (limit : Nat) :
    Patient (max limit 1) (waitWhileLevel level limit) := by
  have longer : limit - 1 + 1 ≤ max limit 1 := by omega
  exact patient_longer (pollEnd_patient level (limit - 1)) longer

theorem waitResponse_patient (timeoutUs : BitVec 32) :
    Patient (responseWaitUs + 2 * longestWait timeoutUs) (waitResponse timeoutUs) := by
  have longer : max responseWaitUs 1 + (longestWait timeoutUs + longestWait timeoutUs) ≤
      responseWaitUs + 2 * longestWait timeoutUs := by
    rw [responseWaitUs]
    omega
  apply patient_longer (patient_bind (waitWhileLevel_patient true responseWaitUs) ?_) longer
  intro low
  apply patient_ite
  · exact patient_pure _ false
  · apply patient_bind (waitWhileLevel_patient false timeoutUs.toNat)
    intro high
    apply patient_ite
    · exact patient_pure _ false
    · exact waitWhileLevel_patient true timeoutUs.toNat

theorem readBit_patient (timeoutUs : BitVec 32) :
    Patient (2 * longestWait timeoutUs + bitThresholdUs) (readBit timeoutUs) := by
  have longer : longestWait timeoutUs + (bitThresholdUs + (0 + (longestWait timeoutUs + 0))) ≤
      2 * longestWait timeoutUs + bitThresholdUs := by
    omega
  apply patient_longer (patient_bind (waitWhileLevel_patient false timeoutUs.toNat) ?_) longer
  intro high
  apply patient_ite
  · exact patient_pure _ _
  · apply patient_bind (delay_patient bitThresholdUs)
    intro _
    apply patient_bind read_patient
    intro bit
    apply patient_bind (waitWhileLevel_patient true timeoutUs.toNat)
    intro low
    apply patient_ite
    · exact patient_pure _ _
    · exact patient_pure _ _

theorem readBits_patient (timeoutUs : BitVec 32) (count i : Nat) (raw : List Byte) :
    Patient (count * (2 * longestWait timeoutUs + bitThresholdUs))
      (readBits timeoutUs count i raw) := by
  induction count generalizing i raw with
  | zero => exact patient_pure _ _
  | succ count induction =>
      rw [Nat.succ_mul, Nat.add_comm]
      apply patient_bind (readBit_patient timeoutUs)
      intro answer
      apply patient_ite
      · exact patient_pure _ _
      · exact induction _ _

theorem sendStartSignal_sends : sendStartSignal.Ensures fun trace _ => trace = startSignal :=
  fun _ _ _ _ _ _ => rfl

theorem pinSetOutputHigh_rests : pinSetOutputHigh.Ensures fun trace _ => trace = drivenHigh :=
  fun _ _ => rfl

section Transacts

variable {timeoutUs : BitVec 32} {heard : List (Entry Pin)} {budget : Nat}

/-- A read that has listened ends by driving the line. -/
theorem transaction_ends (hears : Hears budget heard)
    (fits : startLowUs + startHighUs + budget ≤ deadlineUs timeoutUs) :
    Transaction timeoutUs (startSignal ++ heard ++ drivenHigh) := by
  refine ⟨⟨heard, rfl, hears.listens⟩, ?_⟩
  have start : waited startSignal = startLowUs + startHighUs := rfl
  have rest : waited drivenHigh = 0 := rfl
  have inTime := hears.inTime
  rw [waited_append, waited_append]
  omega

theorem rest_transacts (hears : Hears budget heard)
    (fits : startLowUs + startHighUs + budget ≤ deadlineUs timeoutUs) (result : Bool × Handle)
    (same : result.2.timeoutUs = timeoutUs) :
    (pinSetOutputHigh >>= fun _ => pure result).Ensures fun trace result =>
      Transaction timeoutUs (startSignal ++ heard ++ trace) ∧ result.2.timeoutUs = timeoutUs := by
  rw [ensures_bind]
  apply ensures_mono pinSetOutputHigh_rests
  rintro _ _ rfl
  exact ⟨transaction_ends hears fits, same⟩

end Transacts

/-- Every read of the sensor is a transaction, and it keeps the timeout. -/
theorem readSample_transacts (handle : Handle) :
    (readSample handle).Ensures fun trace result =>
      Transaction handle.timeoutUs trace ∧ result.2.timeoutUs = handle.timeoutUs := by
  unfold readSample
  rw [ensures_bind]
  apply ensures_mono sendStartSignal_sends
  rintro _ _ rfl
  rw [ensures_bind]
  apply ensures_mono (waitResponse_patient handle.timeoutUs)
  intro response responded hears
  rw [ensures_ite]
  constructor
  · intro silent
    exact rest_transacts hears (Nat.le_add_right _ _) (false, handle) rfl
  · intro responds
    rw [ensures_bind]
    apply ensures_mono (readBits_patient handle.timeoutUs totalBits 0 (List.replicate 5 0))
    intro bits collected hearsBits
    have both := hears_append hears hearsBits
    have fits : startLowUs + startHighUs + (responseWaitUs + 2 * longestWait handle.timeoutUs +
        totalBits * (2 * longestWait handle.timeoutUs + bitThresholdUs)) ≤
          deadlineUs handle.timeoutUs := by
      rw [deadlineUs]
      omega
    simp only [← List.append_assoc]
    rw [ensures_ite]
    constructor
    · intro late
      exact rest_transacts both fits (false, handle) rfl
    · intro whole
      exact rest_transacts both fits (_, parseData handle collected.2) rfl

end LoraNode.Dht11
