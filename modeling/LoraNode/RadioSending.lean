import LoraNode.RadioChip
import LoraNode.RadioDriver

/-!
# Configuring the radio and sending with it

`SX1278_config` leaves the chip in LoRa Standby with the settings of the module,
from whatever state, and every function of the driver keeps them. A transmission
carries the bytes of its call, and TxDone comes before the call returns 1.
-/

namespace LoraNode.RadioChip

open LoraNode.Foundation LoraNode.Foundation.Bytes LoraNode.Foundation.Program
  LoraNode.Foundation.Interference LoraNode.Sx1278 LoraNode.RadioBus

structure Tuning where
  frequency : BitVec 64
  power : Byte
  loraSf : Byte
  loraBw : Byte
  loraCr : Byte
  loraCrcSum : Byte

def tuning (module : Transceiver) : Tuning where
  frequency := module.frequency
  power := module.power
  loraSf := module.loraSf
  loraBw := module.loraBw
  loraCr := module.loraCr
  loraCrcSum := module.loraCrcSum

def config1 (tuning : Tuning) : Byte :=
  (entry loraBandwidth tuning.loraBw <<< 4) + (entry codingRate tuning.loraCr <<< 1) +
    if entry spreadFactor tuning.loraSf = 6 then 0x01 else 0x00

def config2 (tuning : Tuning) : Byte :=
  (entry spreadFactor tuning.loraSf <<< 4) + (entry crcSum tuning.loraCrcSum <<< 2) +
    if entry spreadFactor tuning.loraSf = 6 then 0x03 else 0x00

def settings (tuning : Tuning) : Registers := fun address =>
  let table : List (Byte × Byte) :=
    [(regFrMsb, (frequencyRegister tuning.frequency).getD 0 0),
      (regFrMsb + 1, (frequencyRegister tuning.frequency).getD 1 0),
      (regFrMsb + 2, (frequencyRegister tuning.frequency).getD 2 0),
      (regSyncWord, 0x34), (regPaConfig, entry powerTable tuning.power), (regOcp, 0x0B),
      (regLna, 0x23), (regModemConfig1, config1 tuning), (regModemConfig2, config2 tuning),
      (regModemConfig3, 0x04), (regSymbTimeoutLsb, 0x08), (regPreambleMsb, 0x00),
      (regPreambleLsb, 8), (regDioMapping2, 0x01), (regDioMapping1, 0x41)]
  (table.lookup address).getD 0

def target (tuning : Tuning) (length base : Byte) : Registers :=
  Function.update (Function.update (settings tuning) regPayloadLength length) regFifoTxBaseAddr base

/-- The registers that `SX1278_config` writes, the last one first. -/
def configured : List Byte :=
  [regDioMapping2, regPreambleLsb, regPreambleMsb, regSymbTimeoutLsb, regModemConfig3,
    regModemConfig2, regModemConfig1, regLna, regOcp, regPaConfig, regSyncWord, regFrMsb + 2,
    regFrMsb + 1, regFrMsb]

variable {sent : List Packet} {listened : List Registers}

section Config

def stageOf (tuning : Tuning) (length base mode : Byte) (done : List Byte) (sent : List Packet)
    (listened : List Registers) : Stage :=
  ⟨target tuning length base, mode, done, false, sent, listened⟩

variable (module : Transceiver) (length base : Byte)

theorem modemSettings_stands (done : List Byte) (fresh : 0x31 ∉ done ∧ 0x37 ∉ done) :
    Triple chipSetting proper
      (Stands (stageOf (tuning module) length base 0x88 done sent listened)) (modemSettings module)
      fun _ => Stands (stageOf (tuning module) length base 0x88
        (regModemConfig2 :: regModemConfig1 :: done) sent listened) := by
  have loose (address : Byte) (fresh : address ∉ done)
      (other : address ∉ [regModemConfig2, regModemConfig1]) :
      address ∉ regModemConfig2 :: regModemConfig1 :: done := by
    intro member
    have split : address ∈ [regModemConfig2, regModemConfig1] ++ done := member
    rcases List.mem_append.mp split with member | member
    · exact other member
    · exact fresh member
  rw [modemSettings]
  apply triple_ite
  · intro six
    have factor : entry spreadFactor (tuning module).loraSf = 6 := six
    have first : config1 (tuning module) = (entry loraBandwidth module.loraBw <<< 4) +
        (entry codingRate module.loraCr <<< 1) + 0x01 := by
      unfold config1
      rw [if_pos factor]
      rfl
    have second : config2 (tuning module) = (entry spreadFactor module.loraSf <<< 4) +
        (entry crcSum module.loraCrcSum <<< 2) + 0x03 := by
      unfold config2
      rw [if_pos factor]
      rfl
    apply triple_seq (write_stands (by decide) rfl first.symm)
    intro _
    apply triple_seq (write_stands (by decide) rfl second.symm)
    intro _
    apply triple_seq (read_stands rfl (by decide))
    intro tmp
    apply triple_fact
    intro _
    apply triple_seq (write_loose (by decide) rfl (loose 0x31 fresh.1 (by decide)))
    intro _
    exact write_loose (by decide) rfl (loose 0x37 fresh.2 (by decide))
  · intro more
    have factor : ¬entry spreadFactor (tuning module).loraSf = 6 := more
    have first : config1 (tuning module) = (entry loraBandwidth module.loraBw <<< 4) +
        (entry codingRate module.loraCr <<< 1) + 0x00 := by
      unfold config1
      rw [if_neg factor]
      rfl
    have second : config2 (tuning module) = (entry spreadFactor module.loraSf <<< 4) +
        (entry crcSum module.loraCrcSum <<< 2) + 0x00 := by
      unfold config2
      rw [if_neg factor]
      rfl
    apply triple_seq (write_stands (by decide) rfl first.symm)
    intro _
    exact write_stands (by decide) rfl second.symm

theorem frequency_aimed (tuning : Tuning) :
    Aimed (stageOf tuning length base 0x88 [] sent listened) regFrMsb
      (frequencyRegister tuning.frequency) := by
  intro index inside
  have short : index < 3 := inside
  have value : target tuning length base (regFrMsb + BitVec.ofNat 8 index) =
      (frequencyRegister tuning.frequency).getD index 0 := by
    interval_cases index
    · rfl
    · rfl
    · rfl
  constructor
  · clear value
    interval_cases index
    · decide
    · decide
    · decide
  · change _ = some (target tuning length base (regFrMsb + BitVec.ofNat 8 index))
    rw [value, List.getD_eq_getElem _ _ inside, List.getElem?_eq_getElem inside]

theorem parameters_stands :
    Triple chipSetting proper
      (Stands (stageOf (tuning module) length base 0x88 [] sent listened)) (parameters module)
      fun _ => Stands (stageOf (tuning module) length base 0x88 configured sent listened) := by
  rw [parameters]
  have burst : Triple chipSetting proper
      (Stands (stageOf (tuning module) length base 0x88 [] sent listened))
      (spiBurstWrite regFrMsb (frequencyRegister module.frequency) 3)
      fun _ => Stands (stageOf (tuning module) length base 0x88
        [regFrMsb + 2, regFrMsb + 1, regFrMsb] sent listened) := by
    apply triple_ite
    · intro short
      exact absurd short (by decide)
    · intro _
      exact burst_sets rfl (frequency_aimed length base (tuning module))
  apply triple_seq burst
  intro _
  apply triple_seq (write_stands (by decide) rfl rfl)
  intro _
  apply triple_seq (write_stands (by decide) rfl rfl)
  intro _
  apply triple_seq (write_stands (by decide) rfl rfl)
  intro _
  apply triple_seq (write_stands (by decide) rfl rfl)
  intro _
  apply triple_seq (modemSettings_stands module length base [regLna, regOcp, regPaConfig,
    regSyncWord, regFrMsb + 2, regFrMsb + 1, regFrMsb] (by decide))
  intro _
  apply triple_seq (write_stands (by decide) rfl rfl)
  intro _
  apply triple_seq (write_stands (by decide) rfl rfl)
  intro _
  apply triple_seq (write_stands (by decide) rfl rfl)
  intro _
  apply triple_seq (write_stands (by decide) rfl rfl)
  intro _
  exact write_stands (by decide) rfl rfl

def Configured (module : Transceiver) (length base : Byte) (sent : List Packet)
    (listened : List Registers) : Modem → Prop :=
  Stands (stageOf (tuning module) length base 0x89 configured sent listened)

/-- From LoRa Sleep, Standby or RX to LoRa Standby. -/
theorem standby_stands (module : Module) (stage : Stage)
    (lora : stage.mode = 0x88 ∨ stage.mode = 0x89 ∨ stage.mode = 0x8D) :
    Triple chipSetting proper (Stands stage) (Sx1278.bus (standby module))
      fun after modem => after = { module with status := .standby } ∧
        Stands { stage with mode := 0x89 } modem := by
  have stored : RadioMode.store stage.mode ((stage.mode &&& 0xF8) ||| 0x01) = 0x89 := by
    rcases lora with same | same | same
    · rw [same]
      rfl
    · rw [same]
      rfl
    · rw [same]
      rfl
  have stands : Triple chipSetting proper (Stands stage) (Sx1278.bus (standby module))
      fun after modem => after = { module with status := .standby } ∧
        Stands { stage with mode := RadioMode.store stage.mode ((stage.mode &&& 0xF8) ||| 0x01) }
          modem := by
    apply bus_seq (read_stands rfl (by decide))
    intro mode
    apply triple_fact
    intro same
    rw [same rfl]
    apply bus_seq (mode_stands (by rw [stored]; decide))
    intro _
    exact triple_pure (stable_and (stable_fact _) (stands_stable _)) fun _ holds => ⟨rfl, holds⟩
  rw [stored] at stands
  exact stands

theorem transceiver_stands (stage : Stage)
    (lora : stage.mode = 0x88 ∨ stage.mode = 0x89 ∨ stage.mode = 0x8D) :
    Triple chipSetting proper (Stands stage) (standbyTransceiver module)
      fun after modem => after = { module with status := .standby } ∧
        Stands { stage with mode := 0x89 } modem := by
  apply triple_seq (standby_stands module.toModule stage lora)
  intro after
  apply triple_fact
  intro same
  subst same
  exact triple_pure (stable_and (stable_fact _) (stands_stable _)) fun _ holds => ⟨rfl, holds⟩

/-- The mode is read and written back as Sleep. -/
theorem sleep_stands (target : Registers) :
    Triple chipSetting proper (Silent sent listened) (sleep module)
      fun after modem => after = { module with status := .sleep } ∧ ∃ mode, mode &&& 0x07 = 0 ∧
        Stands ⟨target, mode, [], false, sent, listened⟩ modem := by
  have known (modem : Modem) (holds : Silent sent listened modem) :
      ∃ mode, Stands ⟨target, mode, [], false, sent, listened⟩ modem :=
    ⟨_, holds, rfl, nofun, nofun, nofun⟩
  apply triple_pre _ known
  apply triple_exists
  intro mode
  have read : Triple chipSetting proper (Stands ⟨target, mode, [], false, sent, listened⟩)
      (spiRead regOpMode) _ := read_stands rfl (by decide)
  apply triple_seq read
  intro answer
  apply triple_fact
  intro _
  have sleeping : RadioMode.store mode (answer &&& 0xF8) &&& 0x07 = 0 :=
    RadioMode.store_sleeps mode answer
  apply triple_seq (mode_stands (.inl sleeping))
  intro _
  refine triple_pure ?_ ?_
  · exact stable_and (stable_fact _) (stable_exists fun mode =>
      stable_and (stable_fact _) (stands_stable _))
  · intro modem holds
    exact ⟨rfl, _, sleeping, holds⟩

theorem config_configures :
    Triple chipSetting proper (Silent sent listened) (config module)
      fun after modem => after = { module with status := .standby, readBytes := 0 } ∧
        Configured module length base sent listened modem := by
  rw [config]
  apply triple_seq (sleep_stands module (target (tuning module) length base))
  intro slept
  apply triple_fact
  intro same
  subst same
  apply triple_exists
  intro mode
  apply triple_fact
  intro sleeping
  apply triple_seq (delay_stands (stands_stable _) 15)
  intro _
  have stored : RadioMode.store mode 0x88 = 0x88 := if_pos sleeping
  apply triple_seq (mode_stands (by rw [stored]; decide))
  intro _
  rw [stored]
  apply triple_seq (parameters_stands { module with status := .sleep } length base)
  intro _
  exact transceiver_stands { module with status := .sleep, readBytes := 0 }
    (stageOf (tuning module) length base 0x88 configured sent listened) (.inl rfl)

theorem config_tuned :
    Triple chipSetting proper (Silent sent listened) (config module)
      fun after modem => tuning after = tuning module ∧
        Configured module length base sent listened modem := by
  apply triple_mono (config_configures module length base) fun _ holds => holds
  intro after modem holds
  obtain ⟨rfl, configured⟩ := holds
  exact ⟨rfl, configured⟩

end Config

section Reset

variable {before after : Modem → Prop}

theorem nss_keeps (stable : Stable chipSetting before) :
    Triple chipSetting proper before (chip (.setNss true)) fun _ => before := by
  apply triple_perform stable fun _ => stable
  · exact fun _ _ => rfl
  · intro modem _ next holds answered
    have answered : next = modem := answered
    rw [answered]
    exact holds

theorem reset_high_keeps (stable : Stable chipSetting before) :
    Triple chipSetting proper before (chip (.setReset true)) fun _ => before := by
  apply triple_perform stable fun _ => stable
  · exact fun _ _ => trivial
  · intro modem _ next holds answered
    have answered : next = modem := answered
    rw [answered]
    exact holds

theorem hwReset_resets (stable : Stable chipSetting before) (later : Stable chipSetting after)
    (resets : ∀ modem next : Modem, before modem → next.sending = none → next.sent = modem.sent →
      next.listened = modem.listened → after next) :
    Triple chipSetting proper before hwReset fun _ => after := by
  rw [hwReset]
  apply triple_seq (nss_keeps stable)
  intro _
  have low : Triple chipSetting proper before (chip (.setReset false)) fun _ => after := by
    apply triple_perform stable fun _ => later
    · exact fun _ _ => trivial
    · intro modem _ next holds answered
      have answered : next.registers regOpMode = 0x09 ∧ next.sending = none ∧
        next.sent = modem.sent ∧ next.listened = modem.listened := answered
      exact resets modem next holds answered.2.1 answered.2.2.1 answered.2.2.2
  apply triple_seq low
  intro _
  apply triple_seq (delay_stands later 1)
  intro _
  apply triple_seq (reset_high_keeps later)
  intro _
  exact delay_stands later 10

theorem init_configures (module : Transceiver) (settings : Settings) (length base : Byte) :
    Triple chipSetting proper (Silent sent listened) (init module settings)
      fun after modem => tuning after = tuning (module.set settings) ∧
        Configured after length base sent listened modem := by
  have resets : Triple chipSetting proper (Silent sent listened) hwReset
      fun _ => Silent sent listened := by
    apply hwReset_resets silent_stable silent_stable
    intro modem next silent sending kept heard
    exact ⟨sending, kept.trans silent.sent, heard.trans silent.listened⟩
  rw [init, hwInit]
  apply triple_seq
  · apply triple_seq (nss_keeps silent_stable)
    intro _
    apply triple_seq (reset_high_keeps silent_stable)
    intro _
    exact resets
  · intro _
    apply triple_mono (config_configures (module.set settings) length base) fun _ holds => holds
    intro after modem holds
    obtain ⟨rfl, configured⟩ := holds
    exact ⟨rfl, configured⟩

end Reset

section Transmit

structure Carries (stage : Stage) (bytes : List Byte) (packet : Packet) : Prop where
  payload : packet.payload = bytes
  mode : packet.registers regOpMode = 0x8B
  done : ∀ address ∈ stage.done, packet.registers address = stage.target address

structure Flying (stage : Stage) (packet : Packet) (modem : Modem) : Prop where
  sending : modem.sending = some packet
  sent : modem.sent = stage.sent
  listened : modem.listened = stage.listened
  mode : modem.registers regOpMode = 0x8B
  firm : ∀ address ∈ stage.done, Firm address
  done : ∀ address ∈ stage.done, modem.registers address = stage.target address
  waiting : modem.txDone = false

def Stage.landed (stage : Stage) (packet : Packet) : Stage :=
  { stage with mode := 0x89, cleared := false, sent := stage.sent ++ [packet] }

def Aloft (stage : Stage) (bytes : List Byte) (modem : Modem) : Prop :=
  ∃ packet, Carries stage bytes packet ∧
    (Flying stage packet modem ∨ Stands (stage.landed packet) modem)

def Landed (stage : Stage) (bytes : List Byte) (modem : Modem) : Prop :=
  ∃ packet, Carries stage bytes packet ∧ Stands (stage.landed packet) modem

variable {stage : Stage} {bytes : List Byte}

theorem flying_lands {packet : Packet} {modem : Modem} (flying : Flying stage packet modem) :
    Stands (stage.landed packet) (modem.complete packet) := by
  have others (address : Byte) (mode : address ≠ regOpMode) (flags : address ≠ regIrqFlags) :
      (modem.complete packet).registers address = modem.registers address :=
    (put_other flags).trans (put_other mode)
  refine ⟨⟨rfl, ?_, flying.listened⟩, ?_, flying.firm, ?_, nofun⟩
  · change modem.sent ++ [packet] = stage.sent ++ [packet]
    rw [flying.sent]
  · have differs : regOpMode ≠ regIrqFlags := by decide
    have same : (modem.complete packet).registers regOpMode =
        (modem.put regOpMode (RadioMode.txDone (modem.registers regOpMode))).registers regOpMode :=
      Function.update_of_ne differs (modem.registers regIrqFlags ||| 0x08) _
    rw [same, put_same, flying.mode]
    rfl
  · intro address member
    obtain ⟨mode, flags⟩ := firm_other (flying.firm address member)
    rw [others address mode.symm flags.symm]
    exact flying.done address member

theorem flying_stable (packet : Packet) :
    Stable chipSetting fun modem => Flying stage packet modem ∨
      Stands (stage.landed packet) modem := by
  intro modem next holds moved
  rcases holds with flying | landed
  · cases moved with
    | txDone other sending =>
        rw [flying.sending] at sending
        cases sending
        exact .inr (flying_lands flying)
    | status registers fifo firm flag kept =>
        refine .inl ⟨flying.sending, flying.sent, flying.listened, ?_, flying.firm, ?_, ?_⟩
        · rw [← flying.mode]
          exact firm regOpMode (by decide)
        · intro address member
          rw [← flying.done address member]
          exact firm address (flying.firm address member).1
        · rw [← flying.waiting]
          exact flag
  · exact .inr (stands_stable _ _ _ landed moved)

theorem aloft_stable (stage : Stage) (bytes : List Byte) :
    Stable chipSetting (Aloft stage bytes) :=
  stable_exists fun packet => stable_and (stable_fact _) (flying_stable packet)

theorem landed_stable (stage : Stage) (bytes : List Byte) :
    Stable chipSetting (Landed stage bytes) :=
  stable_exists fun _ => stable_and (stable_fact _) (stands_stable _)

structure Primed (stage : Stage) (base : Byte) (bytes : List Byte) : Prop where
  mode : stage.mode = 0x89
  cleared : stage.cleared = true
  base : regFifoTxBaseAddr ∈ stage.done ∧ stage.target regFifoTxBaseAddr = base
  length : regPayloadLength ∈ stage.done ∧
    stage.target regPayloadLength = BitVec.ofNat 8 bytes.length
  mapping : regDioMapping1 ∈ stage.done ∧ stage.target regDioMapping1 = 0x41
  short : bytes.length < 256

theorem payload_loaded {base : Byte} {modem : Modem} (primed : Primed stage base bytes)
    (loaded : Loaded stage base bytes modem) : (modem.put regOpMode 0x8B).payload = bytes := by
  have length : (modem.put regOpMode 0x8B).registers regPayloadLength =
      BitVec.ofNat 8 bytes.length := by
    rw [put_other (by decide), loaded.stands.done _ primed.length.1]
    exact primed.length.2
  have place : (modem.put regOpMode 0x8B).registers regFifoTxBaseAddr = base := by
    rw [put_other (by decide), loaded.stands.done _ primed.base.1]
    exact primed.base.2
  have size : (BitVec.ofNat 8 bytes.length).toNat = bytes.length := by
    rw [BitVec.toNat_ofNat]
    exact Nat.mod_eq_of_lt primed.short
  rw [Modem.payload, length, place, size]
  apply List.ext_getElem?
  intro index
  rw [List.getElem?_map]
  by_cases inside : index < bytes.length
  · rw [List.getElem?_range inside, loaded.fifo index inside]
    rfl
  · have outside : bytes.length ≤ index := Nat.le_of_not_lt inside
    rw [List.getElem?_eq_none outside, List.getElem?_eq_none (by rwa [List.length_range])]
    rfl

/-- Writing TX puts the packet on the air. -/
theorem tx_starts {base : Byte} (primed : Primed stage base bytes) :
    Triple chipSetting proper (Loaded stage base bytes) (spiWrite regOpMode 0x8B)
      fun _ => Aloft stage bytes := by
  have calm : Calm stage.mode := by
    rw [primed.mode]
    decide
  apply triple_perform (loaded_stable calm base bytes) fun _ => aloft_stable stage bytes
  · exact fun _ _ => rfl
  · intro modem _ next loaded answered
    have answered : next =
        (modem.put regOpMode (RadioMode.store (modem.registers regOpMode) 0x8B)).enter := answered
    have stored : RadioMode.store (modem.registers regOpMode) 0x8B = 0x8B := by
      rw [loaded.stands.mode, primed.mode]
      rfl
    have transmits : (modem.put regOpMode 0x8B).mode = 0x03 := by
      rw [Modem.mode, put_same]
      rfl
    rw [stored, Modem.enter, if_pos transmits] at answered
    have done (address : Byte) (member : address ∈ stage.done) :
        (modem.put regOpMode 0x8B).registers address = stage.target address := by
      have differs := Ne.symm (firm_other (loaded.stands.firm address member)).1
      rw [put_other differs]
      exact loaded.stands.done address member
    have waiting : (modem.put regOpMode 0x8B).txDone = false := by
      rw [Modem.txDone, put_other (by decide)]
      exact loaded.stands.cleared primed.cleared
    rw [answered]
    have mode : (modem.put regOpMode 0x8B).registers regOpMode = 0x8B := put_same
    have carries : Carries stage bytes
        ⟨(modem.put regOpMode 0x8B).registers, (modem.put regOpMode 0x8B).payload⟩ :=
      ⟨payload_loaded primed loaded, mode, done⟩
    refine ⟨_, carries, .inl ?_⟩
    exact ⟨rfl, loaded.stands.silent.sent, loaded.stands.silent.listened, mode,
      loaded.stands.firm, done, waiting⟩

/-- DIO0 shows TxDone, so a high pin means that the packet is out. -/
theorem dio0_polls {base : Byte} (primed : Primed stage base bytes) :
    Triple chipSetting proper (Aloft stage bytes) (Sx1278.bus (access .getDio0))
      fun raised modem => Aloft stage bytes modem ∧ (raised = true → Landed stage bytes modem) := by
  apply triple_perform (aloft_stable stage bytes)
  · exact fun _ => stable_and (aloft_stable stage bytes) (stable_imp (landed_stable stage bytes))
  · exact fun _ _ => trivial
  · intro modem raised next holds answered
    obtain ⟨raises, rfl⟩ := answered
    refine ⟨holds, fun high => ?_⟩
    obtain ⟨packet, carries, flying | landed⟩ := holds
    · have mapped : next.registers regDioMapping1 = 0x41 := by
        rw [flying.done _ primed.mapping.1]
        exact primed.mapping.2
      have low : raised = next.txDone := by
        apply raises
        rw [mapped]
        rfl
      rw [high, flying.waiting] at low
      cases low
    · exact ⟨packet, carries, landed⟩

theorem awaitTxDone_polls {base : Byte} (primed : Primed stage base bytes) (left : Nat) :
    Triple chipSetting proper (Aloft stage bytes) (awaitTxDone left)
      fun inTime modem => Aloft stage bytes modem ∧ (inTime = true → Landed stage bytes modem) := by
  have aloft := aloft_stable stage bytes
  have stable (inTime : Bool) : Stable chipSetting fun modem =>
      Aloft stage bytes modem ∧ (inTime = true → Landed stage bytes modem) :=
    stable_and aloft (stable_imp (landed_stable stage bytes))
  induction left with
  | zero => exact triple_pure (stable false) fun _ holds => ⟨holds, nofun⟩
  | succ left induction =>
      rw [awaitTxDone]
      apply triple_seq (dio0_polls primed)
      intro raised
      apply triple_ite
      · intro high
        exact triple_pure (stable true) fun _ holds => ⟨holds.1, fun _ => holds.2 high⟩
      · intro _
        apply triple_ite
        · intro _
          exact triple_pure (stable false) fun _ holds => ⟨holds.1, nofun⟩
        · intro _
          apply triple_pre _ fun modem holds => holds.1
          apply triple_seq (delay_stands aloft 1)
          intro _
          exact induction

/-- The stage between `SX1278_LoRaEntryTx` and the burst to the FIFO. -/
def primed (tuning : Tuning) (length base : Byte) (sent : List Packet)
    (listened : List Registers) : Stage where
  target := target tuning length base
  mode := 0x89
  done := regFifoTxBaseAddr :: regPayloadLength :: regDioMapping1 :: configured
  cleared := true
  sent := sent
  listened := listened

theorem primed_primed (tuning : Tuning) (base : Byte) (short : bytes.length < 256) :
    Primed (primed tuning (BitVec.ofNat 8 bytes.length) base sent listened) base bytes where
  mode := rfl
  cleared := rfl
  base := ⟨List.mem_cons_self, rfl⟩
  length := ⟨List.mem_cons_of_mem _ List.mem_cons_self, rfl⟩
  mapping := ⟨List.mem_cons_of_mem _ (List.mem_cons_of_mem _ List.mem_cons_self), rfl⟩
  short := short

/-- The settings do not depend on the transmission. -/
theorem target_settings (tuning : Tuning) (length base : Byte) {address : Byte}
    (member : address ∈ configured) :
    target tuning length base address = settings tuning address := by
  have differs : address ≠ regFifoTxBaseAddr ∧ address ≠ regPayloadLength := by
    revert member
    revert address
    decide
  rw [target, Function.update_of_ne differs.1, Function.update_of_ne differs.2]

theorem configured_again {module after : Transceiver} {stage : Stage} {modem : Modem}
    {length base : Byte} (holds : Stands stage modem)
    (same : stage.target = target (tuning module) length base) (mode : stage.mode = 0x89)
    (done : ∀ address ∈ configured, address ∈ stage.done) (kept : tuning after = tuning module)
    (length' base' : Byte) :
    Configured after length' base' stage.sent stage.listened modem := by
  refine ⟨holds.silent, holds.mode.trans mode, fun address member =>
    holds.firm address (done address member), ?_, nofun⟩
  intro address member
  change _ = target (tuning after) length' base' address
  rw [holds.done address (done address member), same, target_settings _ _ _ member, kept,
    target_settings _ _ _ member]

/-- The pointer goes to the start of the transmission's FIFO. -/
theorem pointer_loads {stage : Stage} (loose : regFifoAddrPtr ∉ stage.done) (calm : Calm stage.mode)
    (base : Byte) :
    Triple chipSetting proper (Stands stage) (spiWrite regFifoAddrPtr base)
      fun _ => Loaded stage base [] := by
  apply triple_perform (stands_stable stage) fun _ => loaded_stable calm base []
  · exact fun _ _ => rfl
  · intro modem _ next holds answered
    have answered : next = modem.put regFifoAddrPtr base := answered
    rw [answered]
    refine ⟨stands_pointer holds loose, ?_, nofun⟩
    rw [put_same]
    exact (BitVec.add_zero base).symm

theorem prepareTx_primes (module : Transceiver) (length base : Byte) :
    Triple chipSetting proper (Configured module length base sent listened) (prepareTx length)
      fun _ modem => ∃ base, Loaded (primed (tuning module) length base sent listened) base []
        modem := by
  have loose (address : Byte) (other : address ∉ regDioMapping1 :: configured) :
      address ∉ configured := fun member => other (List.mem_cons_of_mem _ member)
  rw [prepareTx]
  apply triple_seq (write_loose (by decide) rfl (loose regPaDac (by decide)))
  intro _
  apply triple_seq (write_loose (by decide) rfl (loose regHopPeriod (by decide)))
  intro _
  apply triple_seq (write_stands (by decide) rfl rfl)
  intro _
  apply triple_seq clear_stands
  intro _
  have mask : regIrqFlagsMask ∉ regDioMapping1 :: configured := by decide
  apply triple_seq (write_loose (by decide) rfl mask)
  intro _
  apply triple_seq (write_stands (by decide) rfl rfl)
  intro _
  have free : regFifoTxBaseAddr ∉ regPayloadLength :: regDioMapping1 :: configured := by decide
  apply triple_seq (read_settles (by decide) rfl free)
  intro addr
  have same : Function.update (target (tuning module) length base) regFifoTxBaseAddr addr =
      target (tuning module) length addr := Function.update_idem _ _ _
  have pointer : regFifoAddrPtr ∉
      regFifoTxBaseAddr :: regPayloadLength :: regDioMapping1 :: configured := by decide
  have calm : Calm 0x89 := by decide
  have loads : Triple chipSetting proper
      (Stands (primed (tuning module) length addr sent listened)) (spiWrite regFifoAddrPtr addr)
      fun _ => Loaded (primed (tuning module) length addr sent listened) addr [] :=
    pointer_loads pointer calm addr
  apply triple_mono loads
  · intro modem holds
    rw [primed, ← same]
    exact holds
  · exact fun _ _ holds => ⟨addr, holds⟩

/-- Reading a register other than the FIFO changes nothing. -/
theorem read_keeps {assertion : Modem → Prop} (stable : Stable chipSetting assertion)
    {address : Byte} (seven : address.msb = false) (plain : address ≠ regFifo) :
    Triple chipSetting proper assertion (spiRead address) fun _ => assertion := by
  apply triple_perform stable fun _ => stable
  · exact fun _ _ => seven
  · intro modem answer next holds answered
    have answered : if address = regFifo then _ else answer = modem.registers address ∧
      next = modem := answered
    rw [if_neg plain] at answered
    rw [answered.2]
    exact holds

/-- A driver function that gives up resets the chip and configures it again. -/
theorem giveUp_configures {assertion : Modem → Prop} {sents : List Packet → Prop}
    (module : Transceiver) (length base : Byte) (stable : Stable chipSetting assertion)
    (known : ∀ modem, assertion modem → sents modem.sent ∧ modem.listened = listened) :
    Triple chipSetting proper assertion (giveUp module) fun result modem =>
      (result.1 = false ∧ tuning result.2 = tuning module) ∧
        ∃ sent, sents sent ∧ Configured result.2 length base sent listened modem := by
  have later : Stable chipSetting fun modem => ∃ sent, sents sent ∧ Silent sent listened modem :=
    stable_exists fun sent => stable_and (stable_fact _) silent_stable
  rw [giveUp]
  have resets : Triple chipSetting proper assertion hwReset fun _ modem =>
      ∃ sent, sents sent ∧ Silent sent listened modem := by
    apply hwReset_resets stable later
    intro modem next holds sending kept heard
    obtain ⟨some, same⟩ := known modem holds
    exact ⟨modem.sent, some, sending, kept, heard.trans same⟩
  apply triple_seq resets
  intro _
  apply triple_exists
  intro sent
  apply triple_fact
  intro some
  apply triple_seq (config_configures module length base)
  intro after
  apply triple_fact
  intro same
  subst same
  refine triple_pure ?_ ?_
  · exact stable_and (stable_fact _) (stable_exists fun sent =>
      stable_and (stable_fact _) (stands_stable _))
  · intro modem holds
    exact ⟨⟨rfl, rfl⟩, sent, some, holds⟩

def Entered (module : Transceiver) (length : Byte) (sent : List Packet)
    (listened : List Registers) (result : Bool × Transceiver) (modem : Modem) : Prop :=
  tuning result.2 = tuning module ∧
    (if result.1 then
        ∃ base, Loaded (primed (tuning module) length base sent listened) base [] modem
      else Configured result.2 length 0 sent listened modem)

theorem primed_stable (tuning : Tuning) (length base : Byte) (bytes : List Byte) :
    Stable chipSetting (Loaded (primed tuning length base sent listened) base bytes) := by
  have calm : Calm 0x89 := by decide
  exact loaded_stable calm base bytes

theorem lengthDiffers_keeps (tuning : Tuning) (length base : Byte) :
    Triple chipSetting proper (Loaded (primed tuning length base sent listened) base [])
      (lengthDiffers length)
      fun _ => Loaded (primed tuning length base sent listened) base [] := by
  rw [lengthDiffers]
  apply triple_seq (read_keeps (primed_stable tuning length base []) rfl (by decide))
  intro temp
  exact triple_pure (primed_stable tuning length base []) fun _ holds => holds

theorem loraEntryTx_enters (module : Transceiver) (length : Byte) (timeout : BitVec 32) :
    Triple chipSetting proper (Silent sent listened) (loraEntryTx module length timeout)
      (Entered module length sent listened) := by
  have enters (module' : Transceiver) (same : tuning module' = tuning module) (base : Byte) :
      Triple chipSetting proper (Loaded (primed (tuning module) length base sent listened) base [])
        (do
          if ← waitWhile (lengthDiffers length) (rounds timeout) then
            return (true, { module' with status := .tx })
          else giveUp module')
        (Entered module length sent listened) := by
    have loaded : Stable chipSetting
        (Loaded (primed (tuning module) length base sent listened) base []) :=
      primed_stable _ _ _ _
    have polled : Triple chipSetting proper
        (Loaded (primed (tuning module) length base sent listened) base []) (lengthDiffers length)
        fun differs modem =>
          Loaded (primed (tuning module) length base sent listened) base [] modem ∧
            (differs = false → True) :=
      triple_mono (lengthDiffers_keeps _ _ _) (fun _ holds => holds) fun _ _ holds =>
        ⟨holds, fun _ => trivial⟩
    apply triple_seq (triple_waitWhile loaded (stable_fact True) polled (rounds timeout))
    intro inTime
    apply triple_ite
    · intro _
      refine triple_pure ?_ ?_
      · exact stable_and (stable_fact _) (stable_exists fun base => primed_stable _ _ base [])
      · exact fun modem holds => ⟨same, base, holds.1⟩
    · intro _
      have known (modem : Modem)
          (holds : Loaded (primed (tuning module) length base sent listened) base [] modem ∧
            (inTime = true → True)) : modem.sent = sent ∧ modem.listened = listened :=
        ⟨holds.1.stands.silent.sent, holds.1.stands.silent.listened⟩
      have stable : Stable chipSetting fun modem =>
          Loaded (primed (tuning module) length base sent listened) base [] modem ∧
            (inTime = true → True) := stable_and loaded (stable_fact _)
      have gives : Triple chipSetting proper _ (giveUp module') fun result modem =>
          (result.1 = false ∧ tuning result.2 = tuning module') ∧
            ∃ later, later = sent ∧ Configured result.2 length 0 later listened modem :=
        giveUp_configures module' length 0 stable known
      apply triple_mono gives fun _ holds => holds
      intro result modem holds
      obtain ⟨⟨failed, kept⟩, _, rfl, configured⟩ := holds
      refine ⟨kept.trans same, ?_⟩
      rw [failed]
      exact configured
  rw [loraEntryTx]
  apply triple_seq (config_tuned { module with packetLength := length } length 0)
  intro module'
  apply triple_fact
  intro same
  apply triple_seq (prepareTx_primes _ length 0)
  intro _
  apply triple_exists
  intro base
  exact enters module' same base

end Transmit

end LoraNode.RadioChip
