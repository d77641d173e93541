import LoraNode.RadioSending

/-!
# What the settings mean to the chip

The register values of `SX1278_config`, decoded the way the modem reads them:
carrier frequency, spreading factor, bandwidth, coding rate, header and CRC.
-/

namespace LoraNode.RadioChip

open LoraNode.Foundation LoraNode.Foundation.Bytes LoraNode.Foundation.Program
  LoraNode.Foundation.Interference LoraNode.Sx1278 LoraNode.RadioBus

/-- The frequency word, in steps of 32 MHz / 2 ^ 19. -/
def carrier (registers : Registers) : Nat :=
  (registers regFrMsb).toNat * 2 ^ 16 + (registers (regFrMsb + 1)).toNat * 2 ^ 8 +
    (registers (regFrMsb + 2)).toNat

structure Indexed (tuning : Tuning) : Prop where
  power : tuning.power.toNat < powerTable.length
  loraSf : tuning.loraSf.toNat < spreadFactor.length
  loraBw : tuning.loraBw.toNat < loraBandwidth.length
  loraCr : tuning.loraCr.toNat < codingRate.length
  loraCrcSum : tuning.loraCrcSum.toNat < crcSum.length

/-- The frequency fits the register besides. -/
structure InRange (tuning : Tuning) : Prop extends Indexed tuning where
  frequency : tuning.frequency.toNat < 1024000000

structure Means (tuning : Tuning) (registers : Registers) : Prop where
  below : carrier registers * 32000000 ≤ tuning.frequency.toNat * 2 ^ 19
  above : tuning.frequency.toNat * 2 ^ 19 < (carrier registers + 1) * 32000000
  spreading : (registers regModemConfig2 >>> 4).toNat = tuning.loraSf.toNat + 6
  bandwidth : registers regModemConfig1 >>> 4 = tuning.loraBw
  coding : (registers regModemConfig1 >>> 1) &&& 0x07 = tuning.loraCr + 1
  implicit : (registers regModemConfig1).getLsbD 0 = decide (tuning.loraSf = loraSf6)
  crc : (registers regModemConfig2).getLsbD 2 = decide (tuning.loraCrcSum = 0)
  power : registers regPaConfig ∈ powerTable
  sync : registers regSyncWord = 0x34
  preamble : registers regPreambleMsb = 0 ∧ registers regPreambleLsb = 8

theorem small_member {value : Byte} {bound : Nat} (below : value.toNat < bound) :
    value ∈ (List.range bound).map (BitVec.ofNat 8) := by
  apply List.mem_map.mpr
  refine ⟨value.toNat, List.mem_range.mpr below, ?_⟩
  rw [BitVec.ofNat_toNat, BitVec.setWidth_eq]

/-- Every entry of the tables, as the modem registers show it. -/
theorem config1_table : ∀ bw ∈ (List.range 10).map (BitVec.ofNat 8),
    ∀ cr ∈ (List.range 4).map (BitVec.ofNat 8), ∀ header ∈ ([0, 1] : List Byte),
      ((entry loraBandwidth bw <<< 4) + (entry codingRate cr <<< 1) + header) >>> 4 = bw ∧
        (((entry loraBandwidth bw <<< 4) + (entry codingRate cr <<< 1) + header) >>> 1) &&& 0x07 =
          cr + 1 ∧
        ((entry loraBandwidth bw <<< 4) + (entry codingRate cr <<< 1) + header).getLsbD 0 =
          decide (header = 1) := by
  decide +kernel

theorem factor_table : ∀ sf ∈ (List.range 7).map (BitVec.ofNat 8),
    (entry spreadFactor sf = 6 ↔ sf = loraSf6) := by
  decide +kernel

theorem config1_decodes {tuning : Tuning} (range : InRange tuning) :
    config1 tuning >>> 4 = tuning.loraBw ∧
      (config1 tuning >>> 1) &&& 0x07 = tuning.loraCr + 1 ∧
      (config1 tuning).getLsbD 0 = decide (tuning.loraSf = loraSf6) := by
  have factor := factor_table tuning.loraSf (small_member range.loraSf)
  have table := config1_table tuning.loraBw (small_member range.loraBw) tuning.loraCr
    (small_member range.loraCr)
  by_cases six : tuning.loraSf = loraSf6
  · have same : config1 tuning = (entry loraBandwidth tuning.loraBw <<< 4) +
        (entry codingRate tuning.loraCr <<< 1) + 1 := by
      rw [config1, if_pos (factor.mpr six)]
    rw [same, decide_eq_true six]
    exact table 1 (by decide)
  · have same : config1 tuning = (entry loraBandwidth tuning.loraBw <<< 4) +
        (entry codingRate tuning.loraCr <<< 1) + 0 := by
      rw [config1, if_neg fun found => six (factor.mp found)]
    rw [same, decide_eq_false six]
    exact table 0 (by decide)

theorem config2_table : ∀ sf ∈ (List.range 7).map (BitVec.ofNat 8),
    ∀ sum ∈ (List.range 2).map (BitVec.ofNat 8),
      (config2 ⟨0, 0, sf, 0, 0, sum⟩ >>> 4).toNat = sf.toNat + 6 ∧
        (config2 ⟨0, 0, sf, 0, 0, sum⟩).getLsbD 2 = decide (sum = 0) := by
  decide +kernel

theorem power_table : ∀ power ∈ (List.range 4).map (BitVec.ofNat 8),
    entry powerTable power ∈ powerTable := by
  decide +kernel

/-- The three bytes are the whole frequency word. -/
theorem carrier_word (tuning : Tuning) (small : tuning.frequency.toNat < 1024000000)
    (registers : Registers)
    (high : registers regFrMsb = (frequencyRegister tuning.frequency).getD 0 0)
    (middle : registers (regFrMsb + 1) = (frequencyRegister tuning.frequency).getD 1 0)
    (low : registers (regFrMsb + 2) = (frequencyRegister tuning.frequency).getD 2 0) :
    carrier registers = tuning.frequency.toNat * 2 ^ 19 / 32000000 := by
  have shifted : (tuning.frequency <<< 19).toNat = tuning.frequency.toNat * 2 ^ 19 := by
    rw [BitVec.toNat_shiftLeft, Nat.shiftLeft_eq, Nat.mod_eq_of_lt (by omega)]
  have word : (tuning.frequency <<< 19 / 32000000).toNat =
      tuning.frequency.toNat * 2 ^ 19 / 32000000 := by
    rw [BitVec.toNat_udiv, shifted]
    rfl
  have bound : tuning.frequency.toNat * 2 ^ 19 / 32000000 < 2 ^ 24 := by omega
  have first : (registers regFrMsb).toNat =
      tuning.frequency.toNat * 2 ^ 19 / 32000000 / 2 ^ 16 % 2 ^ 8 := by
    rw [high, ← word, ← Nat.shiftRight_eq_div_pow, ← BitVec.toNat_ushiftRight,
      ← BitVec.toNat_setWidth]
    rfl
  have second : (registers (regFrMsb + 1)).toNat =
      tuning.frequency.toNat * 2 ^ 19 / 32000000 / 2 ^ 8 % 2 ^ 8 := by
    rw [middle, ← word, ← Nat.shiftRight_eq_div_pow, ← BitVec.toNat_ushiftRight,
      ← BitVec.toNat_setWidth]
    rfl
  have third : (registers (regFrMsb + 2)).toNat =
      tuning.frequency.toNat * 2 ^ 19 / 32000000 % 2 ^ 8 := by
    rw [low, ← word, ← BitVec.toNat_setWidth]
    rfl
  rw [carrier, first, second, third]
  generalize tuning.frequency.toNat * 2 ^ 19 / 32000000 = word at bound
  have top : word / 2 ^ 16 % 2 ^ 8 = word / 2 ^ 16 := Nat.mod_eq_of_lt (by omega)
  have split : word / 2 ^ 8 / 2 ^ 8 = word / 2 ^ 16 := Nat.div_div_eq_div_mul _ _ _
  have upper := Nat.div_add_mod (word / 2 ^ 8) (2 ^ 8)
  have lower := Nat.div_add_mod word (2 ^ 8)
  rw [split] at upper
  omega

theorem settings_mean {tuning : Tuning} (range : InRange tuning) {registers : Registers}
    (holds : ∀ address ∈ configured, registers address = settings tuning address) :
    Means tuning registers := by
  have word := carrier_word tuning range.frequency registers (holds regFrMsb (by decide))
    (holds (regFrMsb + 1) (by decide)) (holds (regFrMsb + 2) (by decide))
  have first : registers regModemConfig1 = config1 tuning := holds regModemConfig1 (by decide)
  have second : registers regModemConfig2 = config2 tuning := holds regModemConfig2 (by decide)
  have power : registers regPaConfig = entry powerTable tuning.power :=
    holds regPaConfig (by decide)
  obtain ⟨bandwidth, coding, implicit⟩ := config1_decodes range
  obtain ⟨spreading, crc⟩ := config2_table tuning.loraSf (small_member range.loraSf)
    tuning.loraCrcSum (small_member range.loraCrcSum)
  constructor
  · rw [word]
    omega
  · rw [word]
    omega
  · rw [second]
    exact spreading
  · rw [first]
    exact bandwidth
  · rw [first]
    exact coding
  · rw [first]
    exact implicit
  · rw [second]
    exact crc
  · rw [power]
    exact power_table tuning.power (small_member range.power)
  · exact holds regSyncWord (by decide)
  · exact ⟨holds regPreambleMsb (by decide), holds regPreambleLsb (by decide)⟩

/-- `SX1278_config` leaves registers that mean the settings of the module. -/
theorem config_means (module : Transceiver) (range : InRange (tuning module)) :
    Triple chipSetting proper (fun modem => modem.sending = none) (config module)
      fun _ modem => modem.registers regOpMode = 0x89 ∧ Means (tuning module) modem.registers := by
  have stable (sent : List Packet) (listened : List Registers) : Triple chipSetting proper
      (Silent sent listened) (config module) fun _ modem =>
        modem.registers regOpMode = 0x89 ∧ Means (tuning module) modem.registers := by
    apply triple_mono (config_configures module 0 0) fun _ holds => holds
    intro after modem holds
    obtain ⟨_, configured⟩ := holds
    refine ⟨configured.mode, settings_mean range ?_⟩
    intro address member
    rw [configured.done address member]
    exact target_settings (tuning module) 0 0 member
  intro modem quiet
  exact stable modem.sent modem.listened modem ⟨quiet, rfl, rfl⟩

def nodeTransceiver : Transceiver where
  loraSf := 1
  packetLength := 20
  status := .sleep
  rxBuffer := Buffer.zero
  readBytes := 0
  frequency := 433000000
  power := 1
  loraBw := 7
  loraCr := 0
  loraCrcSum := 0

theorem config_means_node :
    Triple chipSetting proper (fun modem => modem.sending = none) (config nodeTransceiver)
      fun _ modem => modem.registers regOpMode = 0x89 ∧
        Means (tuning nodeTransceiver) modem.registers :=
  config_means nodeTransceiver
    ⟨⟨by decide, by decide, by decide, by decide, by decide⟩, by decide⟩

end LoraNode.RadioChip
