import Mathlib.Tactic.IntervalCases
import LoraNode.Dht11
import LoraNode.Foundation.Waveform

/-!
# The bit reader inverts the sensor's line code

A zero is over when the reader samples, so the next bit starts somewhere inside
its LOW phase; a one is waited out. Every bit is therefore entered with some LOW
left, which is the invariant that keeps the forty bits in step.
-/

namespace LoraNode.Dht11LineCode

open LoraNode.Foundation LoraNode.Foundation.Bytes LoraNode.Foundation.Program
open LoraNode.Foundation.Waveform LoraNode.Dht11

/-- The line as the driver meets it: reads take no time, delays take exactly what
they are given, and time is counted from the release of the line. -/
def onLine (line : Nat → Bool) : {Reply : Type} → Nat → Pin Reply → Reply × Nat
  | _, time, .outputEnable => ((), time)
  | _, _, .inputEnable => ((), 0)
  | _, time, .set => ((), time)
  | _, time, .clear => ((), time)
  | _, time, .read => (line time, time)
  | _, time, .delayUs usec => ((), time + usec)
  | _, time, .delayMs msec => ((), time + 1000 * msec)

/-- Durations in microseconds the sensor may use for `word`. -/
structure Timing (timeoutUs : BitVec 32) (word : BitVec 40) where
  release : Nat
  responseLow : Nat
  responseHigh : Nat
  low : Nat → Nat
  high : Nat → Nat
  nonzero : 1 ≤ release ∧ 1 ≤ responseLow ∧ 1 ≤ responseHigh ∧ (∀ i ≤ 40, 1 ≤ low i) ∧
    ∀ i < 40, 1 ≤ high i
  releaseBound : release ≤ 129
  responsePending : 30 < release + responseLow
  responseLowBound : responseLow < timeoutUs.toNat
  responseHighBound : responseHigh < timeoutUs.toNat
  lowBound : ∀ i < 40, low i < timeoutUs.toNat
  zero : ∀ i < 40, word.getMsbD i = false → high i ≤ 40 ∧ 41 ≤ high i + low (i + 1)
  one : ∀ i < 40, word.getMsbD i = true → 41 ≤ high i ∧ high i ≤ timeoutUs.toNat + 39

/-- `count` bits from bit `i`, entered with `left` of its LOW phase left, and the
LOW phase after the last. -/
def Timing.bitPhases {timeoutUs : BitVec 32} {word : BitVec 40} (timing : Timing timeoutUs word) :
    Nat → Nat → Nat → List Phase
  | 0, _, left => [⟨false, left⟩]
  | count + 1, i, left =>
      ⟨false, left⟩ :: ⟨true, timing.high i⟩ :: timing.bitPhases count (i + 1) (timing.low (i + 1))

def Timing.phases {timeoutUs : BitVec 32} {word : BitVec 40} (timing : Timing timeoutUs word) :
    List Phase :=
  ⟨true, timing.release⟩ :: ⟨false, timing.responseLow⟩ :: ⟨true, timing.responseHigh⟩ ::
    timing.bitPhases totalBits 0 (timing.low 0)

def wordBytes (word : BitVec 40) : List Byte :=
  [word.extractLsb' 32 8, word.extractLsb' 24 8, word.extractLsb' 16 8, word.extractLsb' 8 8,
    word.extractLsb' 0 8]

section Polling

variable {line : Nat → Bool}

/-- A phase no longer than the polls allow is waited out exactly. -/
theorem poll_end (level : Bool) (duration after more now : Nat) (rest : List Phase)
    (follows : Follows line now (⟨level, duration⟩ :: ⟨!level, after⟩ :: rest))
    (enough : duration ≤ more) (continues : 1 ≤ after) :
    (pollEnd level more).simulate (onLine line) now = (true, now + duration) := by
  induction duration generalizing now more with
  | zero =>
      have next := follows_next follows
      have shown : line now = !level := follows_level next 0 (by omega)
      cases more <;> cases level <;> simp [pollEnd, simulate_bind, access, perform, simulate,
        onLine, shown] <;> rfl
  | succ duration induction =>
      obtain ⟨polls, rfl⟩ : ∃ polls, more = polls + 1 := ⟨more - 1, by omega⟩
      have shown : line now = level := follows_level follows 0 (by omega)
      have later := follows_advance follows 1 (by omega)
      have waited := induction polls (now + 1) later (by omega)
      have total : now + 1 + duration = now + (duration + 1) := by omega
      rw [total] at waited
      simp only [pollEnd, simulate_bind, access, perform, simulate, onLine, shown, if_true]
      exact waited

/-- One bit: the value is right and some of the next LOW phase is left. -/
theorem read_bit (timeoutUs : BitVec 32) (bit : Bool) (left high after now : Nat)
    (rest : List Phase)
    (follows : Follows line now (⟨false, left⟩ :: ⟨true, high⟩ :: ⟨false, after⟩ :: rest))
    (leftBound : left < timeoutUs.toNat) (continues : 1 ≤ high ∧ 1 ≤ after)
    (zero : bit = false → high ≤ 40 ∧ 41 ≤ high + after)
    (one : bit = true → 41 ≤ high ∧ high ≤ timeoutUs.toNat + 39) :
    ∃ later left', (readBit timeoutUs).simulate (onLine line) now = ((true, bit), later) ∧
      Follows line later (⟨false, left'⟩ :: rest) ∧ 1 ≤ left' ∧ left' ≤ after := by
  have risen := poll_end false left high (timeoutUs.toNat - 1) now _ follows (by omega)
    continues.1
  have rising := follows_next follows
  cases bit with
  | false =>
      -- The sample falls into the next LOW phase, where the last wait ends at once.
      obtain ⟨short, long⟩ := zero rfl
      have falling := follows_next rising
      have sampled := follows_advance falling (40 - high) (by omega)
      have place : now + left + high + (40 - high) = now + left + bitThresholdUs := by
        rw [bitThresholdUs]
        omega
      rw [place] at sampled
      have shown : line (now + left + bitThresholdUs) = false :=
        follows_level sampled 0 (by omega)
      have ended := poll_end true 0 (after - (40 - high)) (timeoutUs.toNat - 1)
        (now + left + bitThresholdUs) rest
        ⟨fun time _ before => absurd before (by simp only; omega), sampled⟩ (by omega) (by omega)
      refine ⟨now + left + bitThresholdUs, after - (40 - high), ?_, sampled, by omega, by omega⟩
      simp only [readBit, waitWhileLevel, simulate_bind, risen, Bool.not_true, Bool.false_eq_true,
        if_false, access, perform, simulate, onLine, shown, ended, Nat.add_zero]
      rfl
  | true =>
      obtain ⟨long, bound⟩ := one rfl
      have sampled := follows_advance rising 40 (by omega)
      have shown : line (now + left + 40) = true := follows_level sampled 0 (by omega)
      have ended := poll_end true (high - 40) after (timeoutUs.toNat - 1) (now + left + 40) rest
        sampled (by omega) continues.2
      have falling := follows_next sampled
      refine ⟨now + left + 40 + (high - 40), after, ?_, falling, continues.2, Nat.le_refl _⟩
      simp only [readBit, waitWhileLevel, simulate_bind, risen, Bool.not_true, Bool.false_eq_true,
        if_false, access, perform, simulate, onLine, bitThresholdUs, shown, ended]
      rfl

end Polling

section Reading

variable {timeoutUs : BitVec 32} {word : BitVec 40} (timing : Timing timeoutUs word)
  {line : Nat → Bool}

structure Collected (word : BitVec 40) (i : Nat) (raw : List Byte) : Prop where
  size : raw.length = 5
  bits : ∀ byte < 5, ∀ place < 8,
    (raw.getD byte 0).getMsbD place =
      (decide (8 * byte + place < i) && word.getMsbD (8 * byte + place))

theorem collected_start : Collected word 0 (List.replicate 5 0) := by
  constructor
  · rfl
  · intro byte inside place _
    have zero : (List.replicate 5 (0 : Byte)).getD byte 0 = 0 := by
      interval_cases byte <;> rfl
    rw [zero]
    simp

theorem mask_bit (bit place : Nat) (bitBound : bit < 8) (placeBound : place < 8) :
    ((1 : Byte) <<< (7 - bit)).getMsbD place = decide (place = bit) := by
  interval_cases bit <;> interval_cases place <;> decide

theorem collected_next {i : Nat} {raw : List Byte} (collected : Collected word i raw) :
    Collected word (i + 1) (if word.getMsbD i then setBit raw i else raw) := by
  obtain ⟨size, bits⟩ := collected
  cases value : word.getMsbD i with
  | false =>
      refine ⟨size, ?_⟩
      intro byte inByte place inPlace
      simp only [Bool.false_eq_true, if_false]
      rw [bits byte inByte place inPlace]
      by_cases same : 8 * byte + place = i
      · simp [same, value]
      · have bounds : 8 * byte + place < i ↔ 8 * byte + place < i + 1 := by omega
        simp only [bounds]
  | true =>
      refine ⟨by simp [setBit, size], ?_⟩
      intro byte inByte place inPlace
      simp only [if_true, setBit]
      by_cases same : byte = i / 8
      · subst same
        have here : i / 8 < raw.length := by omega
        rw [List.getD_eq_getElem?_getD, List.getElem?_set_self here, Option.getD_some,
          BitVec.getMsbD_or, bits _ inByte place inPlace,
          mask_bit (i % 8) place (Nat.mod_lt _ (by omega)) inPlace]
        by_cases hit : place = i % 8
        · have index : 8 * (i / 8) + place = i := by omega
          simp [hit, Nat.div_add_mod, value]
        · have bounds : 8 * (i / 8) + place < i ↔ 8 * (i / 8) + place < i + 1 := by omega
          simp only [hit, decide_false, Bool.or_false, bounds]
      · rw [List.getD_eq_getElem?_getD, List.getElem?_set_ne (by omega),
          ← List.getD_eq_getElem?_getD, bits byte inByte place inPlace]
        have bounds : 8 * byte + place < i ↔ 8 * byte + place < i + 1 := by omega
        simp only [bounds]

theorem byte_bit (byte place : Nat) (inByte : byte < 5) (inPlace : place < 8) :
    (word.extractLsb' (32 - 8 * byte) 8).getMsbD place = word.getMsbD (8 * byte + place) := by
  have inWord : 8 * byte + place < 40 := by omega
  have mirrored : 32 - 8 * byte + (7 - place) = 39 - (8 * byte + place) := by omega
  have low : 7 - place < 8 := by omega
  simp [BitVec.getMsbD_eq_getLsbD, inPlace, inWord, mirrored, low]

theorem collected_all {raw : List Byte} (collected : Collected word 40 raw) :
    raw = wordBytes word := by
  obtain ⟨size, bits⟩ := collected
  apply List.ext_getElem
  · rw [size]
    rfl
  · intro byte inRaw inWord
    have inByte : byte < 5 := by omega
    apply BitVec.eq_of_getMsbD_eq
    intro place inPlace
    have known := bits byte inByte place inPlace
    rw [List.getD_eq_getElem?_getD, List.getElem?_eq_getElem inRaw, Option.getD_some] at known
    have covered : 8 * byte + place < 40 := by omega
    rw [known, decide_eq_true covered, Bool.true_and, ← byte_bit byte place inByte inPlace]
    interval_cases byte <;> rfl

/-- The bits from `i` on, entered inside the LOW phase of bit `i`. -/
theorem read_bits (count i left now : Nat) (raw : List Byte) (last : i + count = 40)
    (collected : Collected word i raw)
    (follows : Follows line now (timing.bitPhases count i left))
    (leftBound : count ≠ 0 → left < timeoutUs.toNat) :
    ∃ raw' later, (readBits timeoutUs count i raw).simulate (onLine line) now =
        ((true, raw'), later) ∧ Collected word 40 raw' := by
  induction count generalizing i left now raw with
  | zero =>
      have finished : i = 40 := by omega
      exact ⟨raw, now, rfl, finished ▸ collected⟩
  | succ count induction =>
      obtain ⟨-, -, -, lowNonzero, highNonzero⟩ := timing.nonzero
      have continues : 1 ≤ timing.high i ∧ 1 ≤ timing.low (i + 1) :=
        ⟨highNonzero i (by omega), lowNonzero (i + 1) (by omega)⟩
      obtain ⟨rest, shape⟩ : ∃ rest, ∀ left', timing.bitPhases count (i + 1) left' =
          ⟨false, left'⟩ :: rest := by
        cases count with
        | zero => exact ⟨[], fun _ => rfl⟩
        | succ count => exact ⟨_, fun _ => rfl⟩
      rw [Timing.bitPhases, shape] at follows
      obtain ⟨later, left', bit, entered, -, shorter⟩ := read_bit timeoutUs (word.getMsbD i) left
        (timing.high i) (timing.low (i + 1)) now rest follows (leftBound (by omega)) continues
        (timing.zero i (by omega)) (timing.one i (by omega))
      rw [← shape] at entered
      have leftBound' : count ≠ 0 → left' < timeoutUs.toNat := by
        intro more
        have bound := timing.lowBound (i + 1) (by omega)
        omega
      obtain ⟨raw', done, read, all⟩ := induction (i + 1) left' later _ (by omega)
        (collected_next collected) entered leftBound'
      refine ⟨raw', done, ?_, all⟩
      simp only [readBits, simulate_bind, bit, Bool.not_true, Bool.false_eq_true, if_false]
      exact read

/-- The response, met 30 us after the release with the line high or already low. -/
theorem wait_response (follows : Follows line 0 timing.phases) :
    ∃ now, (waitResponse timeoutUs).simulate (onLine line) startHighUs = (true, now) ∧
      Follows line now (timing.bitPhases totalBits 0 (timing.low 0)) := by
  have releaseBound := timing.releaseBound
  have pending := timing.responsePending
  have lowBound := timing.responseLowBound
  have highBound := timing.responseHighBound
  obtain ⟨-, responseLow, responseHigh, lowNonzero, -⟩ := timing.nonzero
  obtain ⟨rest, shape⟩ : ∃ rest, timing.bitPhases totalBits 0 (timing.low 0) =
      ⟨false, timing.low 0⟩ :: rest := ⟨_, rfl⟩
  have firstLow : 1 ≤ timing.low 0 := lowNonzero 0 (by omega)
  obtain ⟨fallen, left, released, answering, leftNonzero, leftBound⟩ : ∃ fallen left,
      (pollEnd true (responseWaitUs - 1)).simulate (onLine line) startHighUs = (true, fallen) ∧
        Follows line fallen (⟨false, left⟩ :: ⟨true, timing.responseHigh⟩ ::
          timing.bitPhases totalBits 0 (timing.low 0)) ∧ 1 ≤ left ∧
          left ≤ timing.responseLow := by
    by_cases high : timing.release ≤ 30
    · have low := follows_advance (follows_next follows) (30 - timing.release) (by omega)
      have place : 0 + timing.release + (30 - timing.release) = startHighUs := by
        rw [startHighUs]
        omega
      rw [place] at low
      have ended := poll_end true 0 _ (responseWaitUs - 1) startHighUs _
        ⟨fun time _ before => absurd before (by simp only; omega), low⟩ (by omega)
        (by omega)
      exact ⟨startHighUs, _, ended, low, by omega, by omega⟩
    · have still := follows_advance follows 30 (by omega)
      rw [Nat.zero_add] at still
      have ended := poll_end true (timing.release - 30) timing.responseLow (responseWaitUs - 1) 30 _
        still (by simp only [responseWaitUs]; omega) responseLow
      exact ⟨_, timing.responseLow, ended, follows_next still, responseLow, Nat.le_refl _⟩
  have raised := poll_end false left timing.responseHigh (timeoutUs.toNat - 1) fallen _ answering
    (by omega) responseHigh
  have ready := follows_next answering
  rw [shape] at ready
  have started := poll_end true timing.responseHigh (timing.low 0) (timeoutUs.toNat - 1)
    (fallen + left) rest ready (by omega) firstLow
  rw [← shape] at ready
  refine ⟨fallen + left + timing.responseHigh, ?_, follows_next ready⟩
  simp only [waitResponse, waitWhileLevel, simulate_bind, released, raised, started,
    Bool.not_true, Bool.false_eq_true, if_false]

end Reading

/-- For every word and every admissible timing the response is found and the
forty bits are read back. -/
theorem reader_inverts_line_code (timeoutUs : BitVec 32) (word : BitVec 40)
    (timing : Timing timeoutUs word) (line : Nat → Bool)
    (follows : Follows line 0 timing.phases) (before : Nat) :
    let started := sendStartSignal.simulate (onLine line) before
    let responded := (waitResponse timeoutUs).simulate (onLine line) started.2
    let collected := (readAllBits timeoutUs).simulate (onLine line) responded.2
    started.2 = 30 ∧ responded.1 = true ∧ collected.1 = (true, wordBytes word) := by
  intro started responded collected
  have start : started.2 = startHighUs := by
    simp [started, sendStartSignal, pinSetOutputLow, simulate_bind, access, perform, simulate,
      onLine]
  obtain ⟨now, response, ready⟩ := wait_response timing follows
  have answered : responded = (true, now) := by
    simp only [responded, start, response]
  obtain ⟨raw, later, read, all⟩ := read_bits timing totalBits 0 (timing.low 0) now
    (List.replicate 5 0) rfl collected_start ready fun _ => timing.lowBound 0 (by omega)
  refine ⟨start, by rw [answered], ?_⟩
  simp only [collected, answered, readAllBits, read, collected_all all]

def Timing.nominal (word : BitVec 40) : Timing defaultTimeout word where
  release := 25
  responseLow := 80
  responseHigh := 80
  low _ := 50
  high i := if word.getMsbD i then 70 else 27
  nonzero := by
    refine ⟨by omega, by omega, by omega, fun _ _ => by omega, fun i _ => ?_⟩
    split_ifs <;> omega
  releaseBound := by omega
  responsePending := by omega
  responseLowBound := by decide
  responseHighBound := by decide
  lowBound _ _ := by decide
  zero i _ clear := by simp [clear]
  one i _ set := by simp [set, defaultTimeout]

theorem nominal_word_read :
    let line := lineOf (Timing.nominal 0x3705180256).phases
    let started := sendStartSignal.simulate (onLine line) 0
    let responded := (waitResponse defaultTimeout).simulate (onLine line) started.2
    let collected := (readAllBits defaultTimeout).simulate (onLine line) responded.2
    started.2 = 30 ∧ responded.1 = true ∧ collected.1 = (true, [0x37, 0x05, 0x18, 0x02, 0x56]) :=
  reader_inverts_line_code defaultTimeout 0x3705180256 (Timing.nominal 0x3705180256) _
    (follows_lineOf _ _ 0 fun time => by rw [Nat.zero_add]) 0

end LoraNode.Dht11LineCode
