import LoraNode.AppLoop
import LoraNode.Foundation.LabelledRun
import LoraNode.Foundation.Stateful
import LoraNode.ResponseOutcome
import LoraNode.SensorDriver

/-!
# What the node reports about its sensor

The driver carries out the calls of `LORA_APP_ReadSensor` on a line that answers
anything. The handle outlives a read, so after a timeout it still holds the last
sample, marked valid. The application asks for values only after a read that
succeeded, which is why no old value reaches a DATA frame.
-/

namespace LoraNode.SensorReport

open LoraNode.Foundation LoraNode.Foundation.Bytes LoraNode.Foundation.Program
  LoraNode.Foundation.Stateful
open LoraNode.NodePacket LoraNode.NodeResponse LoraNode.ResponseOutcome LoraNode.LoraApp
open LoraNode.Dht11 LoraNode.SensorDriver

/-- What one read meets on the line: a wait that timed out, or five bytes. -/
inductive Outcome where
  | timedOut
  | word (raw : List Byte) (size : raw.length = 5)

/-- What `DHT11_Read` returns and leaves in the handle. -/
def readOutcome (handle : Handle) : Outcome → Bool × Handle
  | .timedOut => (false, handle)
  | .word raw _ => ((parseData handle raw).data.isValid, parseData handle raw)

/-- One read is the start signal, then the response and the bits as the driver waits
for them, and the line driven high. The word is what `DHT11_ReadAllBits` returned. -/
inductive Meets (timeoutUs : BitVec 32) (trace : List (Entry Pin)) : Outcome → Prop where
  | unanswered (response : List (Entry Pin))
      (silent : Runs (waitResponse timeoutUs) response false)
      (whole : trace = startSignal ++ (response ++ drivenHigh)) : Meets timeoutUs trace .timedOut
  | cut (response bits : List (Entry Pin)) (raw : List Byte)
      (answered : Runs (waitResponse timeoutUs) response true)
      (stopped : Runs (readAllBits timeoutUs) bits (false, raw))
      (whole : trace = startSignal ++ (response ++ (bits ++ drivenHigh))) :
      Meets timeoutUs trace .timedOut
  | heard (response bits : List (Entry Pin)) (raw : List Byte) (size : raw.length = 5)
      (answered : Runs (waitResponse timeoutUs) response true)
      (collected : Runs (readAllBits timeoutUs) bits (true, raw))
      (whole : trace = startSignal ++ (response ++ (bits ++ drivenHigh))) :
      Meets timeoutUs trace (.word raw size)

def readStep (handle : Handle) (trace : List (Entry Pin)) (next : Handle) : Prop :=
  ∃ returned, Runs (readSample handle) trace (returned, next)

theorem history_keeps {first held : Handle} {history : List (List (Entry Pin))}
    (earlier : LabelledRun.Run readStep first history held) :
    held.timeoutUs = first.timeoutUs := by
  induction earlier with
  | nil handle => rfl
  | cons first middle held trace history step rest induction =>
      obtain ⟨returned, ran⟩ := step
      rw [induction]
      exact (ensures_runs (readSample_transacts first) ran).2

inductive Report where
  | error (code : Byte)
  | data (temperature : Int) (humidity : Nat)
  deriving DecidableEq

/-- The report this cycle's word asks for, whatever was read before. -/
def report (dht11Ready : Bool) (outcome : Outcome) : Report :=
  match dht11Ready, outcome with
  | false, _ => .error 1
  | true, .timedOut => .error 2
  | true, .word raw _ =>
      let byte (place : Nat) : Nat := (raw.getD place 0).toNat
      if byte 4 ≠ (byte 0 + byte 1 + byte 2 + byte 3) % 256 then .error 2
      else if 1000 < 10 * byte 0 + byte 1 then .error 3
      else .data (10 * byte 2 + byte 3) (10 * byte 0 + byte 1)

def Report.IsIn (report : Report) (message : Message) : Prop :=
  match report with
  | .error code => IsError code message
  | .data temperature humidity =>
      message.type = .data ∧ (temperatureField message).toInt = temperature ∧
        (humidityField message).toNat = humidity

theorem set_bit_size (raw : List Byte) (i : Nat) : (setBit raw i).length = raw.length := by
  simp [setBit]

theorem read_bits_size (timeoutUs : BitVec 32) (count i : Nat) (raw : List Byte)
    (size : raw.length = 5) :
    (readBits timeoutUs count i raw).Ensures fun _ result => result.2.length = 5 := by
  induction count generalizing i raw with
  | zero => exact size
  | succ count induction =>
      apply ensures_after fun _ _ _ holds => holds
      intro bit
      rw [ensures_ite]
      refine ⟨fun _ => size, fun _ => ?_⟩
      apply induction
      split_ifs
      · rw [set_bit_size, size]
      · exact size

theorem rests (result : Bool × Handle) :
    (pinSetOutputHigh >>= fun _ => pure result).Ensures fun trace found =>
      trace = drivenHigh ∧ found = result := by
  rw [ensures_bind]
  apply ensures_mono pinSetOutputHigh_rests
  rintro _ _ rfl
  exact ⟨rfl, rfl⟩

/-- Every read of the driver meets an outcome on the line and returns it. -/
theorem readSample_meets (handle : Handle) :
    (readSample handle).Ensures fun trace result =>
      ∃ outcome, Meets handle.timeoutUs trace outcome ∧ result = readOutcome handle outcome := by
  unfold readSample
  rw [ensures_bind]
  apply ensures_mono sendStartSignal_sends
  rintro _ _ rfl
  rw [ensures_bind]
  apply ensures_mono (ensures_ran (waitResponse handle.timeoutUs))
  intro response responded answered
  cases responded with
  | false =>
      apply ensures_mono (rests (false, handle))
      rintro _ _ ⟨rfl, rfl⟩
      exact ⟨.timedOut, .unanswered response answered rfl, rfl⟩
  | true =>
      rw [if_neg (by decide), ensures_bind]
      have collects := ensures_and (ensures_ran (readAllBits handle.timeoutUs))
        (read_bits_size handle.timeoutUs totalBits 0 (List.replicate 5 0) rfl)
      apply ensures_mono collects
      rintro bits ⟨ret, raw⟩ ⟨collected, size⟩
      cases ret with
      | false =>
          apply ensures_mono (rests (false, handle))
          rintro _ _ ⟨rfl, rfl⟩
          exact ⟨.timedOut, .cut response bits raw answered collected rfl, rfl⟩
      | true =>
          apply ensures_mono (rests (_, parseData handle raw))
          rintro _ _ ⟨rfl, rfl⟩
          exact ⟨.word raw size, .heard response bits raw size answered collected rfl, rfl⟩

/-- The accesses of a read say what it met. -/
theorem meets_unique {timeoutUs : BitVec 32} {trace : List (Entry Pin)} {first second : Outcome}
    (left : Meets timeoutUs trace first) (right : Meets timeoutUs trace second) :
    first = second := by
  have heard {response response' rest rest' : List (Entry Pin)} {responded responded' : Bool}
      (one : Runs (waitResponse timeoutUs) response responded)
      (other : Runs (waitResponse timeoutUs) response' responded')
      (whole : trace = startSignal ++ (response ++ rest))
      (whole' : trace = startSignal ++ (response' ++ rest')) :
      responded = responded' ∧ rest = rest' :=
    runs_unique one other (List.append_cancel_left (whole.symm.trans whole'))
  cases left with
  | unanswered response silent whole =>
      cases right with
      | unanswered => rfl
      | cut => rfl
      | heard _ _ _ _ answered _ whole' => exact nomatch (heard silent answered whole whole').1
  | cut response bits raw answered stopped whole =>
      cases right with
      | unanswered => rfl
      | cut => rfl
      | heard _ _ _ _ answered' collected whole' =>
          obtain ⟨-, same⟩ := heard answered answered' whole whole'
          exact nomatch (runs_unique stopped collected same).1
  | heard response bits raw size answered collected whole =>
      cases right with
      | unanswered _ silent whole' => exact nomatch (heard answered silent whole whole').1
      | cut _ _ _ answered' stopped whole' =>
          obtain ⟨-, same⟩ := heard answered answered' whole whole'
          exact nomatch (runs_unique collected stopped same).1
      | heard _ _ raw' _ answered' collected' whole' =>
          obtain ⟨-, same⟩ := heard answered answered' whole whole'
          obtain ⟨alike, -⟩ := runs_unique collected collected' same
          obtain rfl := (Prod.mk.inj alike).2
          rfl

theorem verify_checksum_iff (raw : List Byte) :
    verifyChecksum raw = true ↔
      (raw.getD 4 0).toNat = ((raw.getD 0 0).toNat + (raw.getD 1 0).toNat +
        (raw.getD 2 0).toNat + (raw.getD 3 0).toNat) % 256 := by
  have bound0 := (raw.getD 0 0).isLt
  have bound1 := (raw.getD 1 0).isLt
  have bound2 := (raw.getD 2 0).isLt
  have bound3 := (raw.getD 3 0).isLt
  rw [verifyChecksum, beq_iff_eq, ← BitVec.toNat_inj]
  simp only [BitVec.toNat_setWidth, BitVec.toNat_add]
  omega

theorem decimal_tenths (whole decimal : Byte) :
    decimalValue whole decimal * 10 = ((10 * whole.toNat + decimal.toNat : Nat) : Rat) := by
  rw [decimalValue]
  push_cast
  ring

/-- Adding one half and cutting returns the tenths exactly. -/
theorem tenths_exact (tenths : Nat) : truncate ((tenths : Rat) + 0.5) = tenths := by
  have positive : (0 : Rat) ≤ tenths + 0.5 := by positivity
  rw [truncate, if_pos positive]
  apply le_antisymm
  · have below : ((tenths : Rat) + 0.5).floor < (tenths : Int) + 1 := by
      rw [Rat.floor_lt_iff]
      push_cast
      norm_num
    omega
  · rw [Rat.le_floor_iff]
    push_cast
    norm_num

theorem humidity_above_iff (whole decimal : Byte) :
    decimalValue whole decimal > 100 ↔ 1000 < 10 * whole.toNat + decimal.toNat := by
  have tenths := decimal_tenths whole decimal
  rw [gt_iff_lt, ← Nat.cast_lt (α := Rat), ← tenths]
  push_cast
  constructor
  · intro above
    linarith
  · intro above
    linarith

theorem decimal_nonneg (whole decimal : Byte) : 0 ≤ decimalValue whole decimal := by
  rw [decimalValue]
  positivity

theorem temperature_in_range (whole decimal : Byte) : decimalValue whole decimal ≤ 3276.7 := by
  have tenths := decimal_tenths whole decimal
  have wholeBound := whole.isLt
  have decimalBound := decimal.isLt
  have bound : ((10 * whole.toNat + decimal.toNat : Nat) : Rat) ≤ (32767 : Nat) :=
    Nat.cast_le.mpr (by omega)
  rw [← tenths] at bound
  push_cast at bound
  linarith

def reading (dht11Ready : Bool) (outcome : Outcome) : SensorResult :=
  match report dht11Ready outcome with
  | .error code =>
      if code = 1 then ⟨.initFailed, 0, 0⟩
      else if code = 2 then ⟨.readFailed, 0, 0⟩
      else ⟨.valueInvalid, 0, 0⟩
  | .data temperature humidity => ⟨.ok, BitVec.ofInt 16 temperature, BitVec.ofInt 16 humidity⟩

theorem decimal_reading (whole decimal : Byte) :
    truncate (decimalValue whole decimal * 10 + 0.5) =
      ((10 * whole.toNat + decimal.toNat : Nat) : Int) := by
  rw [decimal_tenths, tenths_exact]

/-- Of the four range checks only the humidity's upper one can fail. -/
theorem value_rejected_iff (whole decimal whole' decimal' : Byte) :
    (decimalValue whole decimal < -3276.8 ∨ decimalValue whole decimal > 3276.7 ∨
        decimalValue whole' decimal' < 0 ∨ decimalValue whole' decimal' > 100) ↔
      1000 < 10 * whole'.toNat + decimal'.toNat := by
  have cold := decimal_nonneg whole decimal
  have hot := temperature_in_range whole decimal
  have dry := decimal_nonneg whole' decimal'
  rw [← humidity_above_iff]
  constructor
  · intro rejected
    rcases rejected with below | above | negative | wet
    · linarith
    · linarith
    · linarith
    · exact wet
  · intro wet
    exact Or.inr (Or.inr (Or.inr wet))

/-- What the accesses of `LORA_APP_ReadSensor` to DATA show; a sensor that was not
initialized is left alone. -/
def Senses (dht11Ready : Bool) (timeoutUs : BitVec 32) (trace : List (Entry Pin))
    (outcome : Outcome) : Prop :=
  if dht11Ready then Meets timeoutUs trace outcome else trace = []

/-- After a valid word both getters answer from it. -/
theorem word_kept (handle : Handle) {raw : List Byte} (size : raw.length = 5)
    (valid : verifyChecksum raw = true) :
    getTemperature (readOutcome handle (.word raw size)).2 =
        some (decimalValue (raw.getD 2 0) (raw.getD 3 0)) ∧
      getHumidity (readOutcome handle (.word raw size)).2 =
        some (decimalValue (raw.getD 0 0) (raw.getD 1 0)) := by
  constructor
  · simp [getTemperature, readOutcome, parseData, valid]
  · simp [getHumidity, readOutcome, parseData, valid]

/-- `LORA_APP_ReadSensor` returns the reading of what its driver met, whatever the
handle held. -/
theorem readSensor_senses (state : AppState) (handle : Handle) :
    (carriedOut driverBody (readSensor state) handle).Ensures fun below answered =>
      ∃ outcome, Senses state.dht11Ready handle.timeoutUs (pins below) outcome ∧
        answered.1 = reading state.dht11Ready outcome := by
  cases ready : state.dht11Ready with
  | false =>
      rw [readSensor, if_pos (by simp [ready])]
      exact ⟨.timedOut, rfl, rfl⟩
  | true =>
      rw [readSensor, if_neg (by simp [ready]), carriedOut_bind, invoke, carriedOut_perform,
        ensures_bind]
      apply ensures_mono (ensures_pins (readSample_meets handle))
      rintro below _ ⟨outcome, meets, rfl⟩
      cases outcome with
      | timedOut => exact ⟨.timedOut, by rwa [List.append_nil], rfl⟩
      | word raw size =>
          have senses : Senses true handle.timeoutUs (pins (below ++ [])) (.word raw size) := by
            rwa [List.append_nil]
          have checked := verify_checksum_iff raw
          cases valid : verifyChecksum raw with
          | false =>
              rw [valid] at checked
              have mismatch := mt checked.mpr Bool.false_ne_true
              have failed : (readOutcome handle (.word raw size)).1 = false := valid
              simp only [failed, Bool.not_false, if_true]
              refine ⟨_, senses, ?_⟩
              simp only [reading, report, if_pos mismatch]
              rfl
          | true =>
              have matched := checked.mp valid
              have succeeded : (readOutcome handle (.word raw size)).1 = true := valid
              obtain ⟨temperature, humidity⟩ := word_kept handle size valid
              have cold := decimal_nonneg (raw.getD 2 0) (raw.getD 3 0)
              simp only [succeeded, Bool.not_true, Bool.false_eq_true, if_false, carriedOut_bind,
                invoke, carriedOut_perform, driverBody, pure_bind, temperature, humidity,
                value_rejected_iff, if_pos cold, decimal_reading]
              split_ifs with wet
              · refine ⟨_, senses, ?_⟩
                simp only [reading, report, matched, ne_eq, not_true_eq_false, if_false, if_pos wet]
                rfl
              · refine ⟨_, senses, ?_⟩
                simp only [reading, report, matched, ne_eq, not_true_eq_false, if_false, if_neg wet]
                push_cast
                rfl

/-- A report is a failure with its code or values that fit their fields. -/
theorem reading_cases (dht11Ready : Bool) (outcome : Outcome) :
    (∃ code, report dht11Ready outcome = .error code ∧
        failureCode (reading dht11Ready outcome).status = some code) ∨
      ∃ temperature humidity : Nat, report dht11Ready outcome = .data temperature humidity ∧
        reading dht11Ready outcome =
          ⟨.ok, BitVec.ofInt 16 temperature, BitVec.ofInt 16 humidity⟩ ∧
        temperature < 2 ^ 15 ∧ humidity < 2 ^ 15 := by
  cases dht11Ready with
  | false => exact Or.inl ⟨1, rfl, rfl⟩
  | true =>
      cases outcome with
      | timedOut => exact Or.inl ⟨2, rfl, rfl⟩
      | word raw size =>
          have wholeBound := (raw.getD 2 0).isLt
          have decimalBound := (raw.getD 3 0).isLt
          simp only [reading, report]
          split_ifs with mismatch wet
          · exact Or.inl ⟨2, rfl, rfl⟩
          · exact Or.inl ⟨3, rfl, rfl⟩
          · refine Or.inr ⟨10 * (raw.getD 2 0).toNat + (raw.getD 3 0).toNat,
              10 * (raw.getD 0 0).toNat + (raw.getD 1 0).toNat, ?_, ?_, ?_, ?_⟩
            · push_cast
              rfl
            · push_cast
              rfl
            · omega
            · omega

theorem field_value (value : Nat) (bound : value < 2 ^ 15) :
    (BitVec.ofInt 16 value).toInt = value ∧ (BitVec.ofInt 16 value).toNat = value := by
  have natural : (BitVec.ofNat 16 value).toNat = value := by
    rw [BitVec.toNat_ofNat, Nat.mod_eq_of_lt (by omega)]
  rw [BitVec.ofInt_natCast]
  refine ⟨?_, natural⟩
  rw [BitVec.toInt_eq_toNat_of_lt (by omega), natural]

/-- The frame of a cycle carries this cycle's word or an ERROR, whatever the line did in
this and in earlier reads. What a read returns is what it met, and its accesses say
what that was. -/
theorem frame_reports_word (first held last : Handle) (history : List (List (Entry Pin)))
    (earlier : LabelledRun.Run readStep first history held) (state : AppState)
    (below : List (Entry NodeCall)) (sensor : SensorResult)
    (sensing : Runs (carriedOut driverBody (readSensor state) held) below (sensor, last))
    (nodeAddress id : Byte) (sequence : BitVec 16) (output : List Byte) (outputLength : Nat)
    (previous : Message) (address : PacketGrammar.NodeAddress nodeAddress)
    (capacity : output.length = 64) :
    let built := build ⟨nodeAddress, id, sequence, sensor⟩ output outputLength
    (∀ handle, (readSample handle).Ensures fun trace result =>
      ∃ met, Meets handle.timeoutUs trace met ∧ result = readOutcome handle met) ∧
    (∀ timeoutUs trace met other, Meets timeoutUs trace met → Meets timeoutUs trace other →
      met = other) ∧
    ∃ outcome message, Senses state.dht11Ready first.timeoutUs (pins below) outcome ∧
      decode (some built.frame) previous = (true, message) ∧
      message.source = nodeAddress ∧ message.destination = 0 ∧ message.transactionId = id ∧
      message.sequence = sequence ∧ (report state.dht11Ready outcome).IsIn message := by
  intro built
  refine ⟨readSample_meets, fun _ _ _ _ => meets_unique, ?_⟩
  obtain ⟨outcome, senses, sensed⟩ := ensures_runs (readSensor_senses state held) sensing
  change sensor = _ at sensed
  rw [history_keeps earlier] at senses
  rcases reading_cases state.dht11Ready outcome with
    ⟨code, reported, failed⟩ | ⟨temperature, humidity, reported, values, cold, dry⟩
  · rw [← sensed] at failed
    have delivers := (failure_delivered ⟨nodeAddress, id, sequence, sensor⟩ output outputLength
      address failed (by omega)).2
    obtain ⟨message, decoded, source, destination, transaction, number, error⟩ :=
      delivers.decoded previous
    exact ⟨outcome, message, senses, decoded, source, destination, transaction, number,
      reported ▸ error⟩
  · have ok : sensor.status = .ok := by rw [sensed, values]
    have delivers := (reading_delivered ⟨nodeAddress, id, sequence, sensor⟩ output outputLength
      address ok (by omega)).2
    obtain ⟨message, decoded, source, destination, transaction, number, data⟩ :=
      delivers.decoded previous
    refine ⟨outcome, message, senses, decoded, source, destination, transaction, number, ?_⟩
    have celsius := data.temperature
    have percent := data.humidity
    simp only [sensed, values] at celsius percent
    rw [(field_value temperature cold).1] at celsius
    rw [(field_value humidity dry).2] at percent
    rw [reported]
    exact ⟨data.type, celsius, percent⟩

theorem Report.of_data {report : Report} {message : Message} (told : report.IsIn message)
    (data : message.type = .data) :
    report = .data (temperatureField message).toInt (humidityField message).toNat := by
  cases report with
  | error code => exact absurd (told.type.symm.trans data) (by decide)
  | data temperature humidity =>
      obtain ⟨-, rfl, rfl⟩ := told
      rfl

def playedLine {Reply : Type} (levels : List Bool) : Pin Reply → Reply × List Bool
  | .read => (levels.headD true, levels.tail)
  | .delayUs _ => ((), levels)
  | .delayMs _ => ((), levels)
  | .outputEnable => ((), levels)
  | .inputEnable => ((), levels)
  | .set => ((), levels)
  | .clear => ((), levels)

def playedNode {Reply : Type} (levels : List Bool) : NodeCall Reply → Reply × List Bool
  | .pin access => playedLine levels access
  | .app call => ((AppLoop.bench 5000 call).1, levels)

def answering (raw : List Byte) : List Bool :=
  [false, true, false] ++ raw.flatMap fun byte =>
    [7, 6, 5, 4, 3, 2, 1, 0].flatMap fun place => [true, byte.getLsbD place, false]

def readyNode : AppState := { AppState.zero with dht11Ready := true }

/-- 24.2 degrees and 55.5 percent, after an older sample and a timeout. -/
theorem fresh_word_reported :
    let old := (readSample (.fresh 0)).simulate playedLine (answering [0x40, 0, 0x20, 0, 0x60])
    let late := (readSample old.1.2).simulate playedLine []
    let sensing := carriedOut driverBody (readSensor readyNode) late.1.2
    let levels := answering [0x37, 0x05, 0x18, 0x02, 0x56]
    let built := build ⟨0x02, 7, 9, (sensing.simulate playedNode levels).1.1⟩
      (List.replicate 64 0) 0
    old.1.1 = true ∧ late.1.1 = false ∧
      ∃ outcome message, Senses true defaultTimeout (pins (sensing.recorded playedNode levels))
          outcome ∧ report true outcome = .data 242 555 ∧
        decode (some built.frame) .zero = (true, message) ∧ message.sequence = 9 ∧
          (report true outcome).IsIn message := by
  intro old late sensing levels built
  have older : readStep (.fresh 0) _ old.1.2 := ⟨old.1.1, recorded_runs playedLine _ _⟩
  have later : readStep old.1.2 _ late.1.2 := ⟨late.1.1, recorded_runs playedLine _ []⟩
  have earlier := LabelledRun.Run.cons _ _ _ _ _ older (.cons _ _ _ _ _ later (.nil _))
  have sensed : Runs sensing (sensing.recorded playedNode levels)
      ((sensing.simulate playedNode levels).1.1, (sensing.simulate playedNode levels).1.2) := by
    rw [Prod.mk.eta]
    exact recorded_runs playedNode sensing levels
  obtain ⟨-, -, outcome, message, senses, decoded, -, -, -, sequence, told⟩ :=
    frame_reports_word (.fresh 0) late.1.2 _ _ earlier readyNode _ _ sensed 0x02 7 9
      (List.replicate 64 0) 0 .zero (by decide) rfl
  have found : (decode (some built.frame) .zero).2 = message := congrArg Prod.snd decoded
  refine ⟨by decide +kernel, by decide +kernel, outcome, message, senses, ?_, decoded, sequence,
    told⟩
  have data : message.type = .data := by
    rw [← found]
    decide +kernel
  have reported : report true outcome = _ := Report.of_data told data
  rw [reported, ← found]
  decide +kernel

end LoraNode.SensorReport
