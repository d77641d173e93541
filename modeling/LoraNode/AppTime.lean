import LoraNode.Foundation.Bytes
import LoraNode.Foundation.CarriedDivision
import LoraNode.Foundation.Program

/-!
# The millisecond clock (`app_time.h`)

`nowMs` is `LORA_APP_TIME_NowMs` on the count it reads from the timer. `Tracks`
relates the three static words to the true, unbounded count. The initialization
is a program, since its waits may fail.
-/

namespace LoraNode.AppTime

open LoraNode.Foundation LoraNode.Foundation.Program

def cpuClockFrequency : BitVec 32 := 48000000

def countsPerSecond : BitVec 32 := cpuClockFrequency / 1024

/-- The static variables of `app_time.h`. -/
structure Clock where
  loraTimeLastCount : BitVec 32
  loraTimeMs : BitVec 32
  loraTimeRemainder : BitVec 32
  deriving DecidableEq

/-- `LORA_APP_TIME_NowMs` when TC4 shows `count`. -/
def nowMs (clock : Clock) (count : BitVec 32) : BitVec 32 × Clock :=
  let elapsed := count - clock.loraTimeLastCount
  let scaled : BitVec 64 :=
    elapsed.setWidth 64 * 1000 + clock.loraTimeRemainder.setWidth 64
  let divisor : BitVec 64 := countsPerSecond.setWidth 64
  let loraTimeMs := clock.loraTimeMs + (scaled / divisor).setWidth 32
  (loraTimeMs,
    { loraTimeLastCount := count
      loraTimeMs := loraTimeMs
      loraTimeRemainder := (scaled % divisor).setWidth 32 })

/-- The register accesses of `LORA_APP_TIME_Initialize`, in its order. -/
inductive TimerAccess : Type → Type where
  | enableBusClock : TimerAccess Unit
  | selectGenerator : TimerAccess Unit
  | generatorSyncBusy : TimerAccess Bool
  | softwareReset : TimerAccess Unit
  | resetActive : TimerAccess Bool
  | syncBusy : TimerAccess Bool
  | startDiv1024 : TimerAccess Unit
  | requestContinuousRead : TimerAccess Unit
  | readCount : TimerAccess (BitVec 32)

def waitAttempts : Nat := 1000000

def waitSync : Program TimerAccess Bool := waitWhile (perform .syncBusy) waitAttempts

def Clock.baseline (count : BitVec 32) : Clock where
  loraTimeLastCount := count
  loraTimeMs := 0
  loraTimeRemainder := 0

/-- `LORA_APP_TIME_Initialize`: on failure the static variables are kept. -/
def timeInitialize (clock : Clock) : Program TimerAccess (Bool × Clock) := do
  perform .enableBusClock
  perform .selectGenerator
  if !(← waitWhile (perform .generatorSyncBusy) waitAttempts) then return (false, clock)
  else
    perform .softwareReset
    if !(← waitWhile (perform .resetActive) waitAttempts) then return (false, clock)
    else if !(← waitSync) then return (false, clock)
    else
      perform .startDiv1024
      if !(← waitSync) then return (false, clock)
      else
        perform .requestContinuousRead
        if !(← waitSync) then return (false, clock)
        else return (true, .baseline (← perform .readCount))

/-- The 64-bit product and sum never wrap. -/
theorem scaled_toNat (elapsed remainder : BitVec 32) :
    (elapsed.setWidth 64 * 1000 + remainder.setWidth 64 : BitVec 64).toNat =
      elapsed.toNat * 1000 + remainder.toNat := by
  have elapsedBound := elapsed.isLt
  have remainderBound := remainder.isLt
  have thousand : (1000 : BitVec 64).toNat = 1000 := by decide
  rw [BitVec.toNat_add, BitVec.toNat_mul, BitVec.toNat_setWidth, BitVec.toNat_setWidth, thousand]
  omega

theorem divisor_toNat : (countsPerSecond.setWidth 64 : BitVec 64).toNat = 46875 := by decide

theorem remainder_reduced (clock : Clock) (count : BitVec 32) :
    (nowMs clock count).2.loraTimeRemainder.toNat < 46875 := by
  change (BitVec.setWidth 32 _).toNat < _
  rw [BitVec.toNat_setWidth, BitVec.toNat_umod, divisor_toNat]
  omega

/-- The clock shows `total` thousandths of a count, sampled at true count `count`. -/
structure Tracks (clock : Clock) (count total : Nat) : Prop where
  lastCount : clock.loraTimeLastCount = BitVec.ofNat 32 count
  ms : clock.loraTimeMs = BitVec.ofNat 32 (total / 46875)
  remainder : clock.loraTimeRemainder.toNat = total % 46875

/-- Any sampled clock tracks a total. -/
theorem tracks_sampled (clock : Clock) (count : Nat) :
    ∃ total, Tracks (nowMs clock (BitVec.ofNat 32 count)).2 count total := by
  have reduced := remainder_reduced clock (BitVec.ofNat 32 count)
  refine ⟨CarriedDivision.dividend 46875
    (nowMs clock (BitVec.ofNat 32 count)).2.loraTimeMs.toNat
    (nowMs clock (BitVec.ofNat 32 count)).2.loraTimeRemainder.toNat, rfl, ?_, ?_⟩
  · rw [CarriedDivision.dividend_div _ _ reduced, BitVec.ofNat_toNat, BitVec.setWidth_eq]
  · rw [CarriedDivision.dividend_mod _ _ reduced]

/-- A difference survives one wrap of a counter. -/
theorem elapsed_counts (count gap : Nat) (short : gap < 2 ^ 32) :
    (BitVec.ofNat 32 (count + gap) - BitVec.ofNat 32 count).toNat = gap := by
  rw [BitVec.ofNat_add, BitVec.add_comm, BitVec.add_sub_cancel, BitVec.toNat_ofNat,
    Nat.mod_eq_of_lt short]

/-- A sample less than one wrap after the last adds exactly the counts between. -/
theorem tracks_now {clock : Clock} {count total : Nat} (tracks : Tracks clock count total)
    (gap : Nat) (short : gap < 2 ^ 32) :
    let result := nowMs clock (BitVec.ofNat 32 (count + gap))
    Tracks result.2 (count + gap) (total + 1000 * gap) ∧
      result.1 = BitVec.ofNat 32 ((total + 1000 * gap) / 46875) := by
  intro result
  have elapsed := elapsed_counts count gap short
  rw [← tracks.lastCount] at elapsed
  have remainderBound : total % 46875 < 46875 := Nat.mod_lt _ (by decide)
  have ms : result.2.loraTimeMs = BitVec.ofNat 32 ((total + 1000 * gap) / 46875) := by
    rw [CarriedDivision.carry_div (by decide), BitVec.ofNat_add, ← tracks.ms]
    change clock.loraTimeMs + _ = _
    congr 1
    apply BitVec.eq_of_toNat_eq
    rw [BitVec.toNat_setWidth, BitVec.toNat_udiv, scaled_toNat, divisor_toNat, elapsed,
      tracks.remainder, BitVec.toNat_ofNat, Nat.mul_comm gap]
  refine ⟨⟨rfl, ms, ?_⟩, ms⟩
  rw [CarriedDivision.carry_mod]
  change (BitVec.setWidth 32 _).toNat = _
  rw [BitVec.toNat_setWidth, BitVec.toNat_umod, scaled_toNat, divisor_toNat, elapsed,
    tracks.remainder, Nat.mul_comm gap]
  omega

end LoraNode.AppTime
