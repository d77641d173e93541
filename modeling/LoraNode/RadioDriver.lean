import LoraNode.RadioMode

/-!
# The driver and the operating mode

`SX1278_config` leads to LoRa Standby from any mode at all, so transmitting ends
there even after a reset. Receiving needs the LoRa mode and ends in RxContinuous.
-/

namespace LoraNode.RadioMode

open LoraNode.Foundation LoraNode.Foundation.Bytes LoraNode.Foundation.Program
  LoraNode.Foundation.Interference LoraNode.Sx1278

abbrev wire : Setting Wire Device := radio.along Sum.inl

/-- Neither a write to RegOpMode nor an edge of the reset line. -/
def Quiet {Reply : Type} : Wire Reply → Prop
  | .inl (.spiWrite address _) => address ≠ regOpMode
  | .inl _ => True
  | .inr (.burstWrite address _) => address ≠ regOpMode
  | .inr (.setReset _) => False
  | .inr _ => True

theorem at_released {modes : Byte → Prop} {device : Device} (mode : modes device.opMode) :
    At modes device.released :=
  ⟨mode, show 0 < NodePower.waitAttempts by decide⟩

theorem quiet_answered {modes : Byte → Prop} {Reply : Type} (call : Wire Reply) (device : Device)
    (answer : Reply) (next : Device) (quiet : Quiet call) (holds : At modes device)
    (answered : wire.answers device call answer next) : At modes next := by
  have released : At modes device.released := at_released holds.1
  rcases call with call | call
  · cases call with
    | spiRead address => exact answered.2 ▸ released
    | spiWrite address value =>
        have unwritten : device.write address value = device := if_neg quiet
        have same : next = (device.write address value).released := answered
        rw [same, unwritten]
        exact released
    | burstRead address length => exact (show next = device.released from answered) ▸ released
    | getDio0 => exact (show next = device from answered) ▸ holds
  · cases call with
    | burstWrite address bytes =>
        have same : next = device.released := answered quiet
        exact same ▸ released
    | setNss high =>
        have same : next = { device with selected := !high } := answered
        exact same ▸ holds
    | setReset high => exact quiet.elim
    | delayMs msec => exact (show next = device from answered) ▸ holds

theorem quiet_keeps {modes : Byte → Prop} {Result : Type} (closed : Closed modes)
    {program : Transmitter Result} (quiet : program.Only Quiet) :
    Triple wire unguarded (At modes) program fun _ => At modes :=
  triple_only (at_stable closed) (fun _ _ _ _ => trivial) quiet_answered quiet

/-- The mode stands while the program goes on quietly. -/
theorem quiet_seq {modes : Byte → Prop} {Value Result : Type} (closed : Closed modes)
    {program : Transmitter Value} {rest : Value → Transmitter Result}
    {post : Result → Device → Prop} (quiet : program.Only Quiet)
    (next : ∀ value, Triple wire unguarded (At modes) (rest value) post) :
    Triple wire unguarded (At modes) (program >>= rest) post :=
  triple_seq (quiet_keeps closed quiet) next

theorem mode_read {modes : Byte → Prop} (closed : Closed modes) :
    Triple wire unguarded (At modes) (spiRead regOpMode) fun mode device =>
      modes mode ∧ At modes device := by
  change Triple wire unguarded (At modes) (perform (.inl (.spiRead regOpMode))) _
  apply triple_perform
  · exact at_stable closed
  · exact fun _ => stable_and (stable_fact _) (at_stable closed)
  · exact fun _ _ => trivial
  · intro device mode next holds answered
    obtain ⟨same, rfl⟩ := answered
    rw [same rfl]
    exact ⟨holds.1, at_released holds.1⟩

theorem mode_written {before after : Byte → Prop} (closedBefore : Closed before)
    (closedAfter : Closed after) {value : Byte} (stored : ∀ mode, before mode →
      after (store mode value)) :
    Triple wire unguarded (At before) (spiWrite regOpMode value) fun _ => At after := by
  change Triple wire unguarded (At before) (perform (.inl (.spiWrite regOpMode value))) _
  apply triple_perform
  · exact at_stable closedBefore
  · exact fun _ => at_stable closedAfter
  · exact fun _ _ => trivial
  · intro device _ next holds answered
    have same : next = (device.write regOpMode value).released := answered
    rw [same]
    exact at_released (stored device.opMode holds.1)

theorem any_closed : Closed fun _ => True := fun _ _ _ => trivial

theorem standby_closed : Closed (· = (0x89 : Byte)) := one_closed (by decide)

theorem module_stands (module : Module) :
    Triple wire unguarded (At LoraMode) (bus (standby module)) fun result device =>
      result.status = .standby ∧ At (· = 0x89) device := by
  have standing : ∀ mode, LoraMode mode → (mode &&& 0xF8) ||| 0x01 = 0x89 := by
    apply loraMode_cases <;> decide
  simp only [standby, bus, lift_bind]
  apply triple_seq (mode_read loraMode_closed)
  intro mode
  apply triple_fact
  intro lora
  rw [standing mode lora]
  apply triple_seq (mode_written loraMode_closed standby_closed (lora_stores 0x89 (by decide)))
  intro _
  apply triple_pure
  · exact stable_and (stable_fact _) (at_stable standby_closed)
  · exact fun _ holds => ⟨rfl, holds⟩

theorem standby_stands (module : Transceiver) :
    Triple wire unguarded (At LoraMode) (standbyTransceiver module) fun result device =>
      result.status = .standby ∧ At (· = 0x89) device := by
  rw [standbyTransceiver]
  apply triple_seq (module_stands module.toModule)
  intro stood
  apply triple_pure
  · exact stable_and (stable_fact _) (at_stable standby_closed)
  · exact fun _ holds => holds

theorem write_quiet {address value : Byte} (other : address ≠ regOpMode) :
    (spiWrite address value).Only Quiet := ⟨other, fun _ => True.intro⟩

theorem chip_quiet {Reply : Type} (call : Chip Reply) (quiet : Quiet (.inr call)) :
    (chip call).Only Quiet :=
  ⟨quiet, fun _ => True.intro⟩

theorem read_quiet (address : Byte) : (spiRead address).Only Quiet :=
  ⟨True.intro, fun _ => True.intro⟩

theorem dio0_quiet : (bus (access .getDio0)).Only Quiet := ⟨True.intro, fun _ => True.intro⟩

/-- One more write to another register. -/
theorem write_then_quiet {Result : Type} {address value : Byte} {rest : Unit → Transmitter Result}
    (other : address ≠ regOpMode) (quiet : (rest ()).Only Quiet) :
    (spiWrite address value >>= rest).Only Quiet :=
  only_bind (write_quiet other) fun _ => quiet

theorem burst_quiet {address : Byte} (buffer : List Byte) (length : Byte)
    (other : address ≠ regOpMode) : (spiBurstWrite address buffer length).Only Quiet :=
  only_ite (only_pure ()) (only_perform other)

theorem modemSettings_quiet (module : Transceiver) : (modemSettings module).Only Quiet := by
  rw [modemSettings]
  apply only_ite
  · apply write_then_quiet (by decide)
    apply write_then_quiet (by decide)
    apply only_bind (read_quiet 0x31)
    intro tmp
    apply write_then_quiet (by decide)
    exact write_quiet (by decide)
  · apply write_then_quiet (by decide)
    exact write_quiet (by decide)

theorem parameters_quiet (module : Transceiver) : (parameters module).Only Quiet := by
  rw [parameters]
  apply only_bind (burst_quiet _ 3 (by decide))
  intro _
  apply write_then_quiet (by decide)
  apply write_then_quiet (by decide)
  apply write_then_quiet (by decide)
  apply write_then_quiet (by decide)
  apply only_bind (modemSettings_quiet module)
  intro _
  apply write_then_quiet (by decide)
  apply write_then_quiet (by decide)
  apply write_then_quiet (by decide)
  apply write_then_quiet (by decide)
  exact write_quiet (by decide)

theorem prepareTx_quiet (length : Byte) : (prepareTx length).Only Quiet := by
  rw [prepareTx]
  apply write_then_quiet (by decide)
  apply write_then_quiet (by decide)
  apply write_then_quiet (by decide)
  apply write_then_quiet (by decide)
  apply write_then_quiet (by decide)
  apply write_then_quiet (by decide)
  apply only_bind (read_quiet regFifoTxBaseAddr)
  intro addr
  exact write_quiet (by decide)

def Asleep (mode : Byte) : Prop := mode &&& 0x07 = 0

theorem asleep_closed : Closed Asleep := by
  intro mode sleeping transmitting
  rw [sleeping] at transmitting
  exact absurd transmitting (by decide)

theorem store_sleeps (old mode : Byte) : Asleep (store old (mode &&& 0xF8)) := by
  have low : (0xF8 : Byte) &&& 0x07 = 0#8 := by decide
  have kept : (0x80 : Byte) &&& 0x07 = 0#8 := by decide
  have stored : (0xF8 &&& 0x7F : Byte) &&& 0x07 = 0#8 := by decide
  unfold Asleep store
  split_ifs
  · rw [BitVec.and_assoc, low, BitVec.and_zero]
    rfl
  · rw [BitVec.and_or_distrib_right, BitVec.and_assoc, kept, BitVec.and_assoc mode,
      BitVec.and_assoc mode, stored, BitVec.and_zero, BitVec.and_zero, BitVec.or_zero]
    rfl

theorem sleep_sleeps (module : Transceiver) :
    Triple wire unguarded (At fun _ => True) (Sx1278.sleep module) fun _ => At Asleep := by
  rw [Sx1278.sleep]
  apply triple_seq (mode_read any_closed)
  intro mode
  apply triple_fact
  intro _
  apply triple_seq (mode_written any_closed asleep_closed fun old _ => store_sleeps old mode)
  intro _
  exact triple_pure (at_stable asleep_closed) fun _ holds => holds

theorem at_weaken {first second : Byte → Prop} (weaker : ∀ mode, first mode → second mode)
    (device : Device) (holds : At first device) : At second device :=
  ⟨weaker device.opMode holds.1, holds.2⟩

/-- `SX1278_config` leads to LoRa Standby from any mode at all. -/
theorem config_stands (module : Transceiver) :
    Triple wire unguarded (At fun _ => True) (config module) fun result device =>
      result.status = .standby ∧ At (· = 0x89) device := by
  have asleep : Closed (· = (0x88 : Byte)) := one_closed (by decide)
  have entered : ∀ mode, Asleep mode → store mode 0x88 = 0x88 := fun _ sleeping => if_pos sleeping
  rw [config]
  apply triple_seq (sleep_sleeps module)
  intro module
  apply quiet_seq asleep_closed (chip_quiet (.delayMs 15) True.intro)
  intro _
  apply triple_seq (mode_written asleep_closed asleep entered)
  intro _
  apply quiet_seq asleep (parameters_quiet module)
  intro _
  refine triple_mono (standby_stands _) ?_ fun _ _ holds => holds
  exact at_weaken fun mode same => same ▸ by decide

/-- The reset line leaves some mode. -/
theorem setReset_any (high : Bool) :
    Triple wire unguarded (At fun _ => True) (chip (.setReset high)) fun _ => At fun _ => True := by
  apply triple_perform
  · exact at_stable any_closed
  · exact fun _ => at_stable any_closed
  · exact fun _ _ => trivial
  · intro device _ next holds answered
    have same : next = if high then device else { device with opMode := 0x09 } := answered
    rw [same]
    split_ifs
    · exact holds
    · exact ⟨trivial, holds.2⟩

theorem hwReset_any :
    Triple wire unguarded (At fun _ => True) hwReset fun _ => At fun _ => True := by
  rw [hwReset]
  apply quiet_seq any_closed (chip_quiet (.setNss true) True.intro)
  intro _
  apply triple_seq (setReset_any false)
  intro _
  apply quiet_seq any_closed (chip_quiet (.delayMs 1) True.intro)
  intro _
  apply triple_seq (setReset_any true)
  intro _
  exact quiet_keeps any_closed (chip_quiet (.delayMs 10) True.intro)

theorem hwInit_any :
    Triple wire unguarded (At fun _ => True) hwInit fun _ => At fun _ => True := by
  rw [hwInit]
  apply quiet_seq any_closed (chip_quiet (.setNss true) True.intro)
  intro _
  apply triple_seq (setReset_any true)
  intro _
  exact hwReset_any

theorem giveUp_stands (module : Transceiver) :
    Triple wire unguarded (At fun _ => True) (giveUp module) fun result device =>
      result.2.status = .standby ∧ At (· = 0x89) device := by
  rw [giveUp]
  apply triple_seq hwReset_any
  intro _
  apply triple_seq (config_stands module)
  intro module
  apply triple_pure
  · exact stable_and (stable_fact _) (at_stable standby_closed)
  · exact fun _ holds => holds

theorem awaitTxDone_quiet (left : Nat) : (awaitTxDone left).Only Quiet := by
  induction left with
  | zero => exact only_pure false
  | succ left induction =>
      apply only_bind dio0_quiet
      intro raised
      apply only_ite (only_pure true)
      apply only_ite (only_pure false)
      exact only_bind (chip_quiet (.delayMs 1) True.intro) fun _ => induction

theorem lengthDiffers_quiet (length : Byte) : (lengthDiffers length).Only Quiet :=
  only_bind (read_quiet regPayloadLength) fun temp => only_pure (temp != length)

theorem loraEntryTx_stands (module : Transceiver) (length : Byte) (timeout : BitVec 32) :
    Triple wire unguarded (At fun _ => True) (loraEntryTx module length timeout)
      fun result device => (result.1 = false → result.2.status = .standby) ∧
        At (· = 0x89) device := by
  rw [loraEntryTx]
  apply triple_seq (config_stands _)
  intro module
  apply triple_fact
  intro standby
  apply quiet_seq standby_closed (prepareTx_quiet length)
  intro _
  apply quiet_seq standby_closed (only_waitWhile (lengthDiffers_quiet length) (rounds timeout))
  intro entered
  apply triple_ite
  · intro _
    apply triple_pure
    · exact stable_and (stable_fact _) (at_stable standby_closed)
    · exact fun _ holds => ⟨nofun, holds⟩
  · intro _
    apply triple_mono (giveUp_stands module)
    · exact at_weaken fun _ _ => trivial
    · exact fun _ _ holds => ⟨fun _ => holds.1, holds.2⟩

/-- TX, until TxDone ends it. -/
abbrev Sending (mode : Byte) : Prop := mode ∈ [0x8B, 0x89]

theorem sending_lora (mode : Byte) (sending : Sending mode) : LoraMode mode := by
  simp only [Sending, List.mem_cons, List.not_mem_nil, or_false] at sending
  rcases sending with rfl | rfl <;> decide

theorem sending_closed : Closed Sending := by
  intro mode sending _
  simp only [Sending, List.mem_cons, List.not_mem_nil, or_false] at sending
  rcases sending with rfl | rfl <;> decide

theorem loraTxPacket_stands (module : Transceiver) (txBuffer : List Byte) (length : Byte)
    (timeout : BitVec 32) :
    Triple wire unguarded (At (· = 0x89)) (loraTxPacket module txBuffer length timeout)
      fun result device => result.2.status = .standby ∧ At (· = 0x89) device := by
  have started : Triple wire unguarded (At (· = 0x89)) (spiWrite regOpMode 0x8B)
      fun _ => At Sending := by
    apply mode_written standby_closed sending_closed
    intro mode same
    subst same
    decide
  rw [loraTxPacket]
  apply quiet_seq standby_closed (burst_quiet txBuffer length (by decide))
  intro _
  apply triple_seq started
  intro _
  apply quiet_seq sending_closed (awaitTxDone_quiet (rounds timeout))
  intro sent
  apply triple_ite
  · intro _
    apply quiet_seq sending_closed (read_quiet regIrqFlags)
    intro _
    apply quiet_seq sending_closed (write_quiet (by decide))
    intro _
    apply triple_seq (triple_pre (standby_stands module) (at_weaken sending_lora))
    intro module
    apply triple_pure
    · exact stable_and (stable_fact _) (at_stable standby_closed)
    · exact fun _ holds => holds
  · intro _
    apply triple_mono (giveUp_stands module)
    · exact at_weaken fun _ _ => trivial
    · exact fun _ _ holds => holds

/-- `SX1278_transmit` ends in Standby, whether and where it times out. -/
theorem transmit_stands (module : Transceiver) (txBuf : List Byte) (length : Byte)
    (timeout : BitVec 32) :
    Triple wire unguarded (At fun _ => True) (transmit module txBuf length timeout)
      fun result device => result.2.status = .standby ∧ At (· = 0x89) device := by
  rw [transmit]
  apply triple_seq (loraEntryTx_stands module length timeout)
  intro result
  obtain ⟨entered, module⟩ := result
  apply triple_ite
  · intro _
    apply triple_mono (loraTxPacket_stands module txBuf length timeout)
    · exact fun _ holds => holds.2
    · exact fun _ _ holds => holds
  · intro failed
    apply triple_pure
    · exact stable_and (stable_fact _) (at_stable standby_closed)
    · exact fun _ holds => ⟨holds.1 (Bool.eq_false_iff.mpr failed), holds.2⟩

/-- `SX1278_init` leaves Standby in LoRa mode, whatever the chip was in. -/
theorem init_stands (module : Transceiver) (settings : Settings) :
    Triple wire unguarded (At fun _ => True) (init module settings) fun result device =>
      result.status = .standby ∧ At (· = 0x89) device := by
  rw [init]
  apply triple_seq hwInit_any
  exact fun _ => config_stands (module.set settings)

/-- `SX1278_receive` ends in RxContinuous. -/
theorem receive_listens (module : Module) (length : Byte) :
    Triple wire unguarded (At LoraMode) (bus (receive module length))
      fun result device => result.2.status = .rx ∧ At (· = 0x8D) device := by
  have listening : Closed (· = (0x8D : Byte)) := one_closed (by decide)
  have entered : ∀ mode, mode = 0x89 → store mode 0x8D = 0x8D := by
    intro mode same
    subst same
    decide
  simp only [receive, loraEntryRx, bus, lift_bind]
  apply triple_seq (module_stands _)
  intro stood
  apply triple_fact
  intro _
  apply quiet_seq standby_closed (write_quiet (by decide))
  intro _
  apply quiet_seq standby_closed (write_quiet (by decide))
  intro _
  apply quiet_seq standby_closed (write_quiet (by decide))
  intro _
  apply quiet_seq standby_closed (write_quiet (by decide))
  intro _
  apply quiet_seq standby_closed (write_quiet (by decide))
  intro _
  apply quiet_seq standby_closed (write_quiet (by decide))
  intro _
  apply quiet_seq standby_closed (read_quiet regFifoRxBaseAddr)
  intro addr
  apply quiet_seq standby_closed (write_quiet (by decide))
  intro _
  apply triple_seq (mode_written standby_closed listening entered)
  intro _
  apply triple_pure
  · exact stable_and (stable_fact _) (at_stable listening)
  · exact fun _ holds => ⟨rfl, holds⟩

def QuietBus {Reply : Type} (call : Bus Reply) : Prop := Quiet (.inl call)

theorem bus_write_quiet {address value : Byte} (other : address ≠ regOpMode) :
    (access (.spiWrite address value)).Only QuietBus :=
  only_perform other

theorem fetchPacket_quiet (module : Module) : (fetchPacket module).Only QuietBus := by
  rw [fetchPacket]
  apply only_bind (only_perform True.intro)
  intro addr
  apply only_bind (bus_write_quiet (by decide))
  intro _
  apply only_bind (only_ite (only_pure _) (only_perform True.intro))
  intro packetSize
  apply only_bind
    (only_ite (only_pure _) (only_bind (only_perform True.intro) fun _ => only_pure _))
  intro rxBuffer
  apply only_bind (bus_write_quiet (by decide))
  intro _
  exact only_pure _

theorem available_quiet (module : Module) : (bus (available module)).Only Quiet := by
  have own : (available module).Only QuietBus := by
    rw [available, loraRxPacket]
    apply only_bind (only_perform True.intro)
    intro raised
    apply only_ite
    · exact only_bind (fetchPacket_quiet module) fun _ => only_pure _
    · exact only_pure _
  refine only_lift ?_ own
  exact fun _ quiet => quiet

theorem fetchPacket_status (module : Module) :
    (fetchPacket module).Ensures fun _ result => result.status = module.status := by
  rw [fetchPacket]
  apply ensures_after fun _ _ _ holds => holds
  intro addr
  apply ensures_after fun _ _ _ holds => holds
  intro _
  apply ensures_after fun _ _ _ holds => holds
  intro packetSize
  apply ensures_after fun _ _ _ holds => holds
  intro rxBuffer
  apply ensures_after fun _ _ _ holds => holds
  intro _
  rfl

theorem available_status (module : Module) :
    (available module).Ensures fun _ result => result.2.status = module.status := by
  rw [available, loraRxPacket]
  apply ensures_after fun _ _ _ holds => holds
  intro raised
  rw [ensures_ite]
  constructor
  · intro _
    apply ensures_seq (fun _ _ _ holds => holds) (fetchPacket_status module)
    exact fun _ same => same
  · exact fun _ => rfl

end LoraNode.RadioMode
