import LoraNode.AppTime

/-!
# Elapsed time does not depend on the samples

The calls of `LORA_APP_TIME_NowMs` divide the count between two samples and carry
the remainder. However the samples are spread, the time shown is the one
division of the true count.
-/

namespace LoraNode.ElapsedTime

open LoraNode.Foundation LoraNode.Foundation.Program LoraNode.AppTime

/-- The true counts at successive calls, never a full wrap apart. -/
structure Schedule where
  count : Nat → Nat
  starts : count 0 = 0
  ordered : ∀ call, count call ≤ count (call + 1)
  sampled : ∀ call, count (call + 1) - count call < 2 ^ 32

/-- What TC4 shows at a true count. -/
def shown (initial : BitVec 32) (count : Nat) : BitVec 32 := initial + BitVec.ofNat 32 count

def clockAfter (initial : BitVec 32) (schedule : Schedule) : Nat → Clock
  | 0 => .baseline initial
  | call + 1 =>
      (nowMs (clockAfter initial schedule call) (shown initial (schedule.count (call + 1)))).2

/-- What a call returns, the first being call 1. -/
def returned (initial : BitVec 32) (schedule : Schedule) : Nat → BitVec 32
  | 0 => 0
  | call + 1 =>
      (nowMs (clockAfter initial schedule call) (shown initial (schedule.count (call + 1)))).1

theorem shown_eq (initial : BitVec 32) (count : Nat) :
    shown initial count = BitVec.ofNat 32 (initial.toNat + count) := by
  rw [shown, BitVec.ofNat_add, BitVec.ofNat_toNat, BitVec.setWidth_eq]

theorem baseline_tracks (initial : BitVec 32) :
    Tracks (.baseline initial) initial.toNat 0 := by
  constructor
  · simp [Clock.baseline]
  · rfl
  · rfl

theorem tracks_after (initial : BitVec 32) (schedule : Schedule) (call : Nat) :
    Tracks (clockAfter initial schedule call) (initial.toNat + schedule.count call)
        (1000 * schedule.count call) ∧
      returned initial schedule call = BitVec.ofNat 32 (1000 * schedule.count call / 46875) := by
  induction call with
  | zero =>
      rw [schedule.starts]
      exact ⟨baseline_tracks initial, rfl⟩
  | succ call induction =>
      have ordered := schedule.ordered call
      have next := tracks_now induction.1 _ (schedule.sampled call)
      have count : initial.toNat + schedule.count call +
          (schedule.count (call + 1) - schedule.count call) =
            initial.toNat + schedule.count (call + 1) := by omega
      have total : 1000 * schedule.count call +
          1000 * (schedule.count (call + 1) - schedule.count call) =
            1000 * schedule.count (call + 1) := by omega
      rw [count, total, ← shown_eq] at next
      exact next

/-- A failed initialization keeps the static variables; a successful one leaves
the baseline of the count it read last. -/
def Started (clock : Clock) (trace : List (Entry TimerAccess)) (result : Bool × Clock) : Prop :=
  result = (false, clock) ∨
    ∃ count, result = (true, .baseline count) ∧ trace.getLast? = some ⟨.readCount, count⟩

theorem started_extended (clock : Clock) (before after : List (Entry TimerAccess))
    (result : Bool × Clock) (started : Started clock after result) :
    Started clock (before ++ after) result := by
  rcases started with failed | ⟨count, succeeded, last⟩
  · exact Or.inl failed
  · refine Or.inr ⟨count, succeeded, ?_⟩
    rw [List.getLast?_append, last, Option.some_or]

theorem initialize_started (clock : Clock) :
    (timeInitialize clock).Ensures (Started clock) := by
  have extended := started_extended clock
  have guarded (wait : Program TimerAccess Bool) (rest : Program TimerAccess (Bool × Clock))
      (follows : rest.Ensures (Started clock)) :
      (wait >>= fun synchronized =>
        if (!synchronized) = true then pure (false, clock) else rest).Ensures (Started clock) := by
    apply ensures_after extended
    intro synchronized
    rw [ensures_ite]
    exact ⟨fun _ => Or.inl rfl, fun _ => follows⟩
  unfold timeInitialize
  apply ensures_after extended
  intro _
  apply ensures_after extended
  intro _
  apply guarded
  apply ensures_after extended
  intro _
  apply guarded
  apply guarded
  apply ensures_after extended
  intro _
  apply guarded
  apply ensures_after extended
  intro _
  apply guarded
  intro count
  exact Or.inr ⟨count, rfl, rfl⟩

/-- The words a call computes with, exactly: the difference since the last
sample, a 64-bit dividend that does not wrap, and a quotient and remainder that
the casts keep. -/
structure ExactCall (clock : Clock) (count : BitVec 32) (gap : Nat) : Prop where
  elapsed : (count - clock.loraTimeLastCount).toNat = gap
  dividend : ((count - clock.loraTimeLastCount).setWidth 64 * 1000 +
    clock.loraTimeRemainder.setWidth 64 : BitVec 64).toNat =
      gap * 1000 + clock.loraTimeRemainder.toNat
  quotient : (gap * 1000 + clock.loraTimeRemainder.toNat) / 46875 < 2 ^ 32
  remainder : (gap * 1000 + clock.loraTimeRemainder.toNat) % 46875 < 2 ^ 32

theorem tracked_call_exact {clock : Clock} {count total : Nat} (tracks : Tracks clock count total)
    (gap : Nat) (short : gap < 2 ^ 32) :
    ExactCall clock (BitVec.ofNat 32 (count + gap)) gap := by
  have elapsed := elapsed_counts count gap short
  rw [← tracks.lastCount] at elapsed
  have remainder := tracks.remainder
  constructor
  · exact elapsed
  · rw [scaled_toNat, elapsed]
  · omega
  · omega

/-- Call by call, the time and the remainder are those of the true count, no word
overflows, and two schedules that meet show the same time. -/
theorem elapsed_time_exact (initial : BitVec 32) (schedule : Schedule) :
    (∀ clock, (timeInitialize clock).Ensures (Started clock)) ∧
      (∀ call,
        returned initial schedule call =
            BitVec.ofNat 32 (1000 * schedule.count call / 46875) ∧
          (clockAfter initial schedule call).loraTimeMs = returned initial schedule call ∧
          (clockAfter initial schedule call).loraTimeRemainder.toNat =
            1000 * schedule.count call % 46875 ∧
          (clockAfter initial schedule call).loraTimeRemainder.toNat < 46875 ∧
          ExactCall (clockAfter initial schedule call)
            (shown initial (schedule.count (call + 1)))
            (schedule.count (call + 1) - schedule.count call)) ∧
      (∀ initial' schedule' call call', schedule.count call = schedule'.count call' →
        returned initial schedule call = returned initial' schedule' call') := by
  refine ⟨initialize_started, ?_, ?_⟩
  · intro call
    obtain ⟨tracks, shows⟩ := tracks_after initial schedule call
    have words := tracked_call_exact tracks _ (schedule.sampled call)
    have ordered := schedule.ordered call
    have count : initial.toNat + schedule.count call +
        (schedule.count (call + 1) - schedule.count call) =
          initial.toNat + schedule.count (call + 1) := by omega
    rw [count, ← shown_eq] at words
    refine ⟨shows, ?_, tracks.remainder, ?_, words⟩
    · rw [tracks.ms, shows]
    · rw [tracks.remainder]
      exact Nat.mod_lt _ (by decide)
  · intro initial' schedule' call call' meet
    rw [(tracks_after initial schedule call).2, (tracks_after initial' schedule' call').2, meet]

end LoraNode.ElapsedTime
