import LoraNode.Foundation.Interference
import LoraNode.NodePower
import LoraNode.Sx1278Transmit

/-!
# The operating mode of the radio

RegOpMode stores what is written, but LongRangeMode changes only in Sleep; a
reset and TxDone change it as well. On a bus without faults
`NODE_POWER_SleepRadio` succeeds from every LoRa mode the driver uses.
-/

namespace LoraNode.RadioMode

open LoraNode.Foundation LoraNode.Foundation.Bytes LoraNode.Foundation.Program
  LoraNode.Foundation.Interference LoraNode.Sx1278

structure Device where
  opMode : Byte
  selected : Bool
  /-- Polls of `SERCOM1_SPI_IsBusy` until the transfer is complete. -/
  remaining : Nat
  /-- `spiRx[1]` -/
  received : Byte

/-- A write to RegOpMode: LongRangeMode changes only in Sleep. -/
def store (old value : Byte) : Byte :=
  if old &&& 0x07 = 0 then value else (old &&& 0x80) ||| (value &&& 0x7F)

/-- TxDone ends TX in Standby. -/
def txDone (mode : Byte) : Byte := (mode &&& 0xF8) ||| 0x01

def Device.write (device : Device) (address value : Byte) : Device :=
  if address = regOpMode then { device with opMode := store device.opMode value } else device

/-- The driver waits for its transfers and ends them with NSS high. -/
def Device.released (device : Device) : Device :=
  { device with selected := false, remaining := 0 }

/-- Registers other than RegOpMode and the DIO0 pin answer anything. -/
def busAnswers {Reply : Type} (device : Device) : Bus Reply → Reply → Device → Prop
  | .spiRead address, answer, next =>
      (address = regOpMode → answer = device.opMode) ∧ next = device.released
  | .spiWrite address value, _, next => next = (device.write address value).released
  | .burstRead _ _, _, next => next = device.released
  | .getDio0, _, next => next = device

/-- What a burst to RegOpMode itself would store is left open. -/
def chipAnswers {Reply : Type} (device : Device) : Chip Reply → Reply → Device → Prop
  | .burstWrite address _, _, next => address ≠ regOpMode → next = device.released
  | .setNss high, _, next => next = { device with selected := !high }
  | .setReset high, _, next => next = if high then device else { device with opMode := 0x09 }
  | .delayMs _, _, next => next = device

def Device.transfer (device : Device) (command value : Byte) : Device :=
  if device.selected ∧ command &&& 0x80 ≠ 0 then device.write (command &&& 0x7F) value else device

/-- A transfer is accepted when none is under way and is complete within the
polls that `NODE_POWER_WaitSpi` makes. -/
def accessAnswers {Reply : Type} (device : Device) :
    NodePower.Access Reply → Reply → Device → Prop
  | .spiIsBusy, answer, next =>
      answer = decide (device.remaining ≠ 0) ∧
        next = { device with remaining := device.remaining - 1 }
  | .setNss high, _, next => next = { device with selected := !high }
  | .spiWriteRead command value, answer, next =>
      answer = decide (device.remaining = 0) ∧
        if device.remaining = 0 then
          ∃ polls received, polls < NodePower.waitAttempts ∧
            (device.selected ∧ command = regOpMode → received = device.opMode) ∧
            next = { device.transfer command value with remaining := polls, received := received }
        else next = device
  | .spiRx1, answer, next =>
      (device.remaining = 0 → answer = device.received) ∧ next = device
  | _, _, next => next = device

abbrev Call (Reply : Type) : Type := Wire Reply ⊕ NodePower.Access Reply

def answers {Reply : Type} (device : Device) : Call Reply → Reply → Device → Prop
  | .inl (.inl call), answer, next => busAnswers device call answer next
  | .inl (.inr call), answer, next => chipAnswers device call answer next
  | .inr call, answer, next => accessAnswers device call answer next

def radio : Setting Call Device where
  answers := answers
  interferes device next :=
    device.opMode &&& 0x07 = 0x03 ∧ next = { device with opMode := txDone device.opMode }

/-- The machine has an answer to every access. -/
theorem radio_answers (Reply : Type) (call : Call Reply) (device : Device) :
    ∃ answer next, radio.answers device call answer next := by
  rcases call with (call | call) | call
  · cases call with
    | spiRead address => exact ⟨device.opMode, device.released, fun _ => rfl, rfl⟩
    | spiWrite address value => exact ⟨(), _, rfl⟩
    | burstRead address length => exact ⟨[], _, rfl⟩
    | getDio0 => exact ⟨false, _, rfl⟩
  · cases call with
    | burstWrite address bytes => exact ⟨(), device.released, fun _ => rfl⟩
    | setNss high => exact ⟨(), _, rfl⟩
    | setReset high => exact ⟨(), _, rfl⟩
    | delayMs msec => exact ⟨(), _, rfl⟩
  · cases call with
    | spiIsBusy => exact ⟨_, _, rfl, rfl⟩
    | setNss high => exact ⟨(), _, rfl⟩
    | spiWriteRead command value =>
        by_cases idle : device.remaining = 0
        · refine ⟨_, { device.transfer command value with
            remaining := 0, received := device.opMode }, rfl, ?_⟩
          rw [if_pos idle]
          exact ⟨0, device.opMode, by decide, fun _ => rfl, rfl⟩
        · refine ⟨_, device, rfl, ?_⟩
          rw [if_neg idle]
    | spiRx1 => exact ⟨device.received, device, fun _ => rfl, rfl⟩
    | _ => exact ⟨default, device, rfl⟩

def Closed (modes : Byte → Prop) : Prop :=
  ∀ mode, modes mode → mode &&& 0x07 = 0x03 → modes (txDone mode)

/-- The mode is one of these, and a transfer under way is complete in time. -/
def At (modes : Byte → Prop) (device : Device) : Prop :=
  modes device.opMode ∧ device.remaining < NodePower.waitAttempts

/-- What the interference of the radio keeps: it moves nothing but the mode. -/
theorem radio_stable {modes : Byte → Prop} (closed : Closed modes) {facts : Device → Prop}
    (free : ∀ device mode, facts device → facts { device with opMode := mode }) :
    Stable radio fun device => modes device.opMode ∧ facts device := by
  intro device next holds moved
  obtain ⟨transmitting, rfl⟩ := moved
  constructor
  · exact closed device.opMode holds.1 transmitting
  · exact free device _ holds.2

theorem at_stable {modes : Byte → Prop} (closed : Closed modes) : Stable radio (At modes) :=
  radio_stable closed fun _ _ holds => holds

theorem remaining_stable (bound : Nat → Prop) :
    Stable radio fun device => bound device.remaining := by
  intro device next holds moved
  obtain ⟨_, rfl⟩ := moved
  exact holds

section Power

abbrev power : Setting NodePower.Access Device := radio.along Sum.inr

/-- A bounded wait on a bus without faults ends in time. -/
theorem waitSpi_completes {facts : Device → Prop} (stable : Stable power facts)
    (free : ∀ device count, facts device → facts { device with remaining := count })
    (attempts : Nat) :
    Triple power unguarded (fun device => facts device ∧ device.remaining < attempts)
      (waitWhile (NodePower.access .spiIsBusy) attempts)
      fun inTime device => inTime = true ∧ facts device ∧ device.remaining = 0 := by
  induction attempts with
  | zero => exact fun device holds => absurd holds.2 (Nat.not_lt_zero _)
  | succ attempts induction =>
      have polled : Triple power unguarded
          (fun device => facts device ∧ device.remaining < attempts + 1)
          (NodePower.access .spiIsBusy) fun busy device =>
            facts device ∧ if busy then device.remaining < attempts else device.remaining = 0 := by
        apply triple_perform
        · exact stable_and stable (remaining_stable (· < attempts + 1))
        · intro busy
          cases busy with
          | false => exact stable_and stable (remaining_stable (· = 0))
          | true => exact stable_and stable (remaining_stable (· < attempts))
        · exact fun _ _ => trivial
        · intro device busy after holds answered
          obtain ⟨rfl, rfl⟩ := answered
          constructor
          · exact free device _ holds.1
          · have bound := holds.2
            split_ifs with running <;> simp_all; omega
      apply triple_seq polled
      intro busy
      cases busy with
      | true => exact triple_mono induction (fun _ holds => holds) fun _ _ holds => holds
      | false =>
          refine triple_pure ?_ ?_
          · exact stable_and (stable_fact _) (stable_and stable (remaining_stable (· = 0)))
          · exact fun _ holds => ⟨rfl, holds.1, holds.2⟩

def With (modes : Byte → Prop) (selected : Bool) (heard : Byte → Prop) (device : Device) : Prop :=
  modes device.opMode ∧ device.selected = selected ∧ heard device.received

theorem with_stable {modes : Byte → Prop} (closed : Closed modes) (selected : Bool)
    (heard : Byte → Prop) : Stable radio (With modes selected heard) :=
  radio_stable closed fun _ _ holds => holds

theorem transfer_selected (device : Device) (command value : Byte) :
    (device.transfer command value).selected = device.selected := by
  unfold Device.transfer Device.write
  split_ifs <;> rfl

/-- `NODE_POWER_WaitSpi` on a bus without faults. -/
theorem waitSpi_idles {modes : Byte → Prop} (closed : Closed modes) (selected : Bool)
    (heard : Byte → Prop) :
    Triple power unguarded
      (fun device => With modes selected heard device ∧
        device.remaining < NodePower.waitAttempts)
      NodePower.waitSpi
      fun inTime device =>
        inTime = true ∧ With modes selected heard device ∧ device.remaining = 0 :=
  waitSpi_completes (with_stable closed selected heard) (fun _ _ holds => holds) _

theorem setNss_selects {modes : Byte → Prop} (closed : Closed modes) (was high : Bool)
    (heard : Byte → Prop) :
    Triple power unguarded (fun device => With modes was heard device ∧ device.remaining = 0)
      (NodePower.access (.setNss high))
      fun _ device => With modes (!high) heard device ∧ device.remaining = 0 := by
  apply triple_perform
  · exact stable_and (with_stable closed was heard) (remaining_stable (· = 0))
  · exact fun _ => stable_and (with_stable closed (!high) heard) (remaining_stable (· = 0))
  · exact fun _ _ => trivial
  · intro device _ after holds answered
    obtain ⟨⟨mode, _, received⟩, idle⟩ := holds
    subst answered
    exact ⟨⟨mode, rfl, received⟩, idle⟩

/-- The transfer is accepted, and the byte it will leave is known. -/
theorem spiWriteRead_starts {before after heard : Byte → Prop} (closedBefore : Closed before)
    (closedAfter : Closed after) (command value : Byte)
    (effect : ∀ device : Device, device.selected → before device.opMode →
      after (device.transfer command value).opMode)
    (reads : ∀ mode received, before mode → (command = NodePower.radioOpMode → received = mode) →
      heard received) :
    Triple power unguarded
      (fun device => With before true (fun _ => True) device ∧ device.remaining = 0)
      (NodePower.access (.spiWriteRead command value)) fun accepted device =>
        accepted = true ∧ With after true heard device ∧
          device.remaining < NodePower.waitAttempts := by
  apply triple_perform
  · exact stable_and (with_stable closedBefore true fun _ => True) (remaining_stable (· = 0))
  · exact fun _ => stable_and (stable_fact _)
      (stable_and (with_stable closedAfter true heard)
        (remaining_stable (· < NodePower.waitAttempts)))
  · exact fun _ _ => trivial
  · intro device accepted next holds answered
    obtain ⟨⟨mode, selected, _⟩, idle⟩ := holds
    obtain ⟨rfl, does⟩ := answered
    rw [if_pos idle] at does
    obtain ⟨polls, received, bound, hears, rfl⟩ := does
    refine ⟨decide_eq_true idle, ⟨effect device selected mode, ?_, ?_⟩, bound⟩
    · exact (transfer_selected device command value).trans selected
    · exact reads device.opMode received mode fun same => hears ⟨selected, same⟩

theorem spiRx1_hears {modes heard : Byte → Prop} (closed : Closed modes) :
    Triple power unguarded
      (fun device => With modes false heard device ∧ device.remaining = 0)
      (NodePower.access .spiRx1) fun received device =>
        heard received ∧ With modes false (fun _ => True) device ∧ device.remaining = 0 := by
  apply triple_perform
  · exact stable_and (with_stable closed false heard) (remaining_stable (· = 0))
  · exact fun _ => stable_and (stable_fact _)
      (stable_and (with_stable closed false fun _ => True) (remaining_stable (· = 0)))
  · exact fun _ _ => trivial
  · intro device received next holds answered
    obtain ⟨⟨mode, selected, heardByte⟩, idle⟩ := holds
    obtain ⟨same, rfl⟩ := answered
    rw [same idle]
    exact ⟨heardByte, ⟨mode, selected, trivial⟩, idle⟩

theorem radioRegister_selects {before after : Byte → Prop} {heard : Byte → Prop}
    (closedBefore : Closed before) (closedAfter : Closed after) (command value : Byte)
    (effect : ∀ device : Device, device.selected → before device.opMode →
      after (device.transfer command value).opMode)
    (reads : ∀ mode received, before mode → (command = NodePower.radioOpMode → received = mode) →
      heard received) (selected : Bool) :
    Triple power unguarded
      (fun device => With before selected (fun _ => True) device ∧
        device.remaining < NodePower.waitAttempts)
      (NodePower.radioRegister command value)
      fun answer device => answer.elim False fun received =>
        heard received ∧ With after false (fun _ => True) device ∧ device.remaining = 0 := by
  rw [NodePower.radioRegister]
  apply triple_seq (waitSpi_idles closedBefore selected fun _ => True)
  intro inTime
  apply triple_fact
  intro inTime
  subst inTime
  apply triple_seq (setNss_selects closedBefore selected false fun _ => True)
  intro _
  apply triple_seq (spiWriteRead_starts closedBefore closedAfter command value effect reads)
  intro accepted
  apply triple_fact
  intro accepted
  subst accepted
  apply triple_seq (waitSpi_idles closedAfter true heard)
  intro transferred
  apply triple_fact
  intro transferred
  subst transferred
  apply triple_seq (setNss_selects closedAfter true true heard)
  intro _
  apply triple_seq (spiRx1_hears closedAfter)
  intro received
  apply triple_pure
  · exact stable_and (stable_fact _)
      (stable_and (with_stable closedAfter false fun _ => True) (remaining_stable (· = 0)))
  · exact fun _ holds => holds

/-- A transfer of `node_power.c`: what it does to the mode and what it reads. -/
theorem radioRegister_transfers {before after : Byte → Prop} {heard : Byte → Prop}
    (closedBefore : Closed before) (closedAfter : Closed after) (command value : Byte)
    (effect : ∀ device : Device, device.selected → before device.opMode →
      after (device.transfer command value).opMode)
    (reads : ∀ mode received, before mode → (command = NodePower.radioOpMode → received = mode) →
      heard received) :
    Triple power unguarded (At before) (NodePower.radioRegister command value)
      fun answer device => answer.elim False fun received => heard received ∧ At after device := by
  intro device holds
  have transfers := radioRegister_selects closedBefore closedAfter command value effect reads
    device.selected device ⟨⟨holds.1, rfl, trivial⟩, holds.2⟩
  apply secured_mono transfers
  intro answer later found
  cases answer with
  | none => exact found
  | some received =>
      obtain ⟨heardByte, kept, idle⟩ := found
      refine ⟨heardByte, kept.1, ?_⟩
      rw [idle]
      decide

/-- LongRangeMode and LowFrequencyModeOn are set; the mode is one the driver uses. -/
abbrev LoraMode (mode : Byte) : Prop := mode ∈ [0x88, 0x89, 0x8B, 0x8D]

theorem loraMode_cases {property : Byte → Prop} (sleep : property 0x88) (standby : property 0x89)
    (tx : property 0x8B) (rx : property 0x8D) (mode : Byte) (lora : LoraMode mode) :
    property mode := by
  simp only [LoraMode, List.mem_cons, List.not_mem_nil, or_false] at lora
  rcases lora with rfl | rfl | rfl | rfl
  · exact sleep
  · exact standby
  · exact tx
  · exact rx

theorem loraMode_closed : Closed LoraMode := by
  apply loraMode_cases <;> decide

theorem lora_stores :
    ∀ value, LoraMode value → ∀ mode, LoraMode mode → store mode value = value := by
  apply loraMode_cases <;> apply loraMode_cases <;> decide

theorem one_closed {mode : Byte} (quiet : mode &&& 0x07 ≠ 0x03) : Closed (· = mode) := by
  intro found same transmitting
  subst same
  exact absurd transmitting quiet

theorem transfer_reads (device : Device) (value : Byte) :
    device.transfer NodePower.radioOpMode value = device :=
  if_neg fun writes => absurd writes.2 (by decide)

theorem transfer_writes (device : Device) (value : Byte) (selected : device.selected) :
    (device.transfer (NodePower.radioOpMode ||| 0x80) value).opMode =
      store device.opMode value := by
  rw [Device.transfer, if_pos ⟨selected, by decide⟩, Device.write, if_pos (by decide)]

/-- Reading RegOpMode gives the mode and keeps it. -/
theorem opMode_read {modes : Byte → Prop} (closed : Closed modes) :
    Triple power unguarded (At modes) (NodePower.radioRegister NodePower.radioOpMode 0)
      fun answer device => answer.elim False fun mode => modes mode ∧ At modes device := by
  apply radioRegister_transfers closed closed
  · intro device _ mode
    rw [transfer_reads]
    exact mode
  · intro mode received holds same
    exact same rfl ▸ holds

/-- `NODE_POWER_SleepRadio` succeeds from every LoRa mode. -/
theorem sleepRadio_succeeds (module : Module) :
    Triple power unguarded (At LoraMode) (NodePower.sleepRadio module) fun result device =>
      result = (true, { module with status := .sleep, readBytes := 0 }) ∧ At (· = 0x88) device := by
  have asleep : Closed (· = (0x88 : Byte)) := one_closed (by decide)
  have written (value : Byte) (sleeping : value = 0x88) : Triple power unguarded (At LoraMode)
      (NodePower.radioRegister (NodePower.radioOpMode ||| 0x80) value)
      fun answer device => answer.elim False fun _ => True ∧ At (· = 0x88) device := by
    subst sleeping
    apply radioRegister_transfers loraMode_closed asleep
    · intro device selected lora
      rw [transfer_writes device 0x88 selected]
      exact lora_stores 0x88 (by decide) device.opMode lora
    · exact fun _ _ _ _ => trivial
  rw [NodePower.sleepRadio]
  apply triple_seq (opMode_read loraMode_closed)
  intro answer
  cases answer with
  | none => exact fun _ holds => holds.elim
  | some mode =>
      apply triple_fact
      intro lora
      have inLora : mode &&& 0x80 ≠ 0 := by
        revert lora
        apply loraMode_cases <;> decide
      have sleeping : mode &&& NodePower.radioModeMask = 0x88 := by
        revert lora
        apply loraMode_cases <;> decide
      apply triple_ite
      · exact fun lost => absurd lost inLora
      · intro _
        apply triple_seq (written (mode &&& NodePower.radioModeMask) sleeping)
        intro answer
        cases answer with
        | none => exact fun _ holds => holds.elim
        | some _ =>
            apply triple_fact
            intro _
            apply triple_seq (opMode_read asleep)
            intro answer
            cases answer with
            | none => exact fun _ holds => holds.elim
            | some found =>
                apply triple_fact
                intro same
                apply triple_ite
                · exact fun differs => absurd (same.trans sleeping.symm) differs
                · intro _
                  apply triple_pure
                  · exact stable_and (stable_fact _) (at_stable asleep)
                  · exact fun _ holds => ⟨rfl, holds⟩

end Power

end LoraNode.RadioMode
