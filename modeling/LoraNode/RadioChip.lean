import LoraNode.RadioBus
import LoraNode.RadioMode

/-!
# The radio as the driver programs it

A register file with a FIFO. Writing TX to RegOpMode puts the payload on the air,
TxDone ends the transmission, and any other mode breaks it off. The chip changes
its status registers on its own, and in RX the FIFO. A stage is what the driver
knows of the chip while nothing is on the air.
-/

namespace LoraNode.RadioChip

open LoraNode.Foundation LoraNode.Foundation.Bytes LoraNode.Foundation.Program
  LoraNode.Foundation.Interference LoraNode.Sx1278 LoraNode.RadioBus

abbrev Registers := Byte → Byte

structure Packet where
  registers : Registers
  payload : List Byte

structure Modem where
  registers : Registers
  fifo : Byte → Byte
  /-- The transmission under way. -/
  sending : Option Packet
  /-- The complete transmissions, in order. -/
  sent : List Packet
  /-- The registers each time RX began. -/
  listened : List Registers

/-- Registers that the chip changes on its own: addresses, counters and levels of
received packets, the flags and the modem status. -/
def statusRegisters : List Byte :=
  [0x10, 0x12, 0x13, 0x14, 0x15, 0x16, 0x17, 0x18, 0x19, 0x1A, 0x1B, 0x1C, 0x25, 0x28, 0x29,
    0x2A, 0x2C]

namespace Modem

def mode (modem : Modem) : Byte := modem.registers regOpMode &&& 0x07

def txDone (modem : Modem) : Bool := (modem.registers regIrqFlags).getLsbD 3

def put (modem : Modem) (address value : Byte) : Modem :=
  { modem with registers := Function.update modem.registers address value }

/-- What TX sends: so many bytes of the FIFO, from the base address on. -/
def payload (modem : Modem) : List Byte :=
  (List.range (modem.registers regPayloadLength).toNat).map fun offset =>
    modem.fifo (modem.registers regFifoTxBaseAddr + BitVec.ofNat 8 offset)

def enter (modem : Modem) : Modem :=
  if modem.mode = 0x03 then
    { modem with sending := some ⟨modem.registers, modem.payload⟩ }
  else if modem.mode = 0x05 then
    { modem with sending := none, listened := modem.listened ++ [modem.registers] }
  else { modem with sending := none }

/-- Flags are cleared by ones, and the FIFO is written at its address pointer. -/
def write (modem : Modem) (address value : Byte) : Modem :=
  if address = regFifo then
    { modem.put regFifoAddrPtr (modem.registers regFifoAddrPtr + 1) with
      fifo := Function.update modem.fifo (modem.registers regFifoAddrPtr) value }
  else if address = regIrqFlags then
    modem.put regIrqFlags (modem.registers regIrqFlags &&& ~~~value)
  else if address = regOpMode then
    (modem.put regOpMode (RadioMode.store (modem.registers regOpMode) value)).enter
  else modem.put address value

/-- TxDone: Standby, and the flag is set. -/
def complete (modem : Modem) (packet : Packet) : Modem :=
  { (modem.put regOpMode (RadioMode.txDone (modem.registers regOpMode))).put regIrqFlags
      (modem.registers regIrqFlags ||| 0x08) with
    sending := none
    sent := modem.sent ++ [packet] }

end Modem

inductive Drifts : Modem → Modem → Prop where
  | txDone (modem : Modem) (packet : Packet) (sending : modem.sending = some packet) :
      Drifts modem (modem.complete packet)
  | status (modem : Modem) (registers : Registers) (fifo : Byte → Byte)
      (firm : ∀ address, address ∉ statusRegisters →
        registers address = modem.registers address)
      (flag : (registers regIrqFlags).getLsbD 3 = modem.txDone)
      (kept : modem.mode ≠ 0x05 → fifo = modem.fifo) :
      Drifts modem { modem with registers := registers, fifo := fifo }

/-- The SX1278 behind its registers. A reset leaves FSK Standby and unknown registers. -/
def modemDevice : Device Modem where
  accesses write modem address value next :=
    if write then next = modem.write address value
    else if address = regFifo then
      value = modem.fifo (modem.registers regFifoAddrPtr) ∧
        next = modem.put regFifoAddrPtr (modem.registers regFifoAddrPtr + 1)
    else value = modem.registers address ∧ next = modem
  advances address := if address = regFifo then regFifo else address + 1
  drifts := Drifts
  resets modem high next :=
    if high then next = modem
    else next.registers regOpMode = 0x09 ∧ next.sending = none ∧ next.sent = modem.sent ∧
      next.listened = modem.listened
  raises modem answer :=
    modem.registers regDioMapping1 >>> 6 = 1 → answer = modem.txDone

abbrev chipSetting : Setting Wire Modem := registers modemDevice

abbrev proper : Guard Wire Modem := fun call _ => Proper call

section Silent

structure Silent (sent : List Packet) (listened : List Registers) (modem : Modem) : Prop where
  sending : modem.sending = none
  sent : modem.sent = sent
  listened : modem.listened = listened

variable {sent : List Packet} {listened : List Registers}

theorem silent_stable : Stable chipSetting (Silent sent listened) := by
  intro modem next holds moved
  cases moved with
  | txDone packet sending =>
      rw [holds.sending] at sending
      cases sending
  | status => exact ⟨holds.sending, holds.sent, holds.listened⟩

end Silent

def Firm (address : Byte) : Prop :=
  address ∉ statusRegisters ∧ address ∉ [regFifo, regIrqFlags, regOpMode]

instance (address : Byte) : Decidable (Firm address) :=
  inferInstanceAs (Decidable (_ ∧ _))

structure Stage where
  target : Registers
  mode : Byte
  done : List Byte
  /-- TxDone has been cleared. -/
  cleared : Bool
  sent : List Packet
  listened : List Registers

def Stage.wrote (stage : Stage) (address : Byte) : Stage :=
  { stage with done := address :: stage.done }

def Calm (mode : Byte) : Prop := mode &&& 0x07 = 0 ∨ mode &&& 0x07 = 1

instance (mode : Byte) : Decidable (Calm mode) := inferInstanceAs (Decidable (_ ∨ _))

structure Stands (stage : Stage) (modem : Modem) : Prop where
  silent : Silent stage.sent stage.listened modem
  mode : modem.registers regOpMode = stage.mode
  firm : ∀ address ∈ stage.done, Firm address
  done : ∀ address ∈ stage.done, modem.registers address = stage.target address
  cleared : stage.cleared = true → modem.txDone = false

section Stands

variable {stage : Stage}

theorem calm_quiet {modem : Modem} {mode : Byte} (same : modem.registers regOpMode = mode)
    (calm : Calm mode) : modem.mode ≠ 0x05 ∧ modem.mode ≠ 0x03 := by
  rw [Modem.mode, same]
  rcases calm with same | same
  · rw [same]
    decide
  · rw [same]
    decide

theorem stands_stable (stage : Stage) : Stable chipSetting (Stands stage) := by
  intro modem next holds moved
  have silent := silent_stable modem next holds.silent moved
  cases moved with
  | txDone packet sending =>
      rw [holds.silent.sending] at sending
      cases sending
  | status registers fifo firm flag kept =>
      refine ⟨silent, ?_, holds.firm, ?_, ?_⟩
      · rw [← holds.mode]
        exact firm regOpMode (by decide)
      · intro address member
        rw [← holds.done address member]
        exact firm address (holds.firm address member).1
      · intro given
        rw [← holds.cleared given]
        exact flag

theorem stands_weaken {weaker : Stage} {modem : Modem} (holds : Stands stage modem)
    (same : weaker = { stage with done := weaker.done, cleared := weaker.cleared })
    (fewer : ∀ address ∈ weaker.done, address ∈ stage.done)
    (less : weaker.cleared = true → stage.cleared = true) : Stands weaker modem := by
  rw [same]
  exact ⟨holds.silent, holds.mode, fun address member =>
    holds.firm address (fewer address member), fun address member =>
    holds.done address (fewer address member), fun given => holds.cleared (less given)⟩

theorem firm_write {address : Byte} (firm : Firm address) (modem : Modem) (value : Byte) :
    modem.write address value = modem.put address value := by
  have other := firm.2
  simp only [List.mem_cons, List.not_mem_nil, or_false, not_or] at other
  rw [Modem.write, if_neg other.1, if_neg other.2.1, if_neg other.2.2]

theorem put_other {modem : Modem} {address other value : Byte} (differs : other ≠ address) :
    (modem.put address value).registers other = modem.registers other :=
  Function.update_of_ne differs _ _

theorem put_same {modem : Modem} {address value : Byte} :
    (modem.put address value).registers address = value := Function.update_self _ _ _

theorem firm_other {address : Byte} (firm : Firm address) :
    regOpMode ≠ address ∧ regIrqFlags ≠ address := by
  have other := firm.2
  simp only [List.mem_cons, List.not_mem_nil, or_false, not_or] at other
  exact ⟨Ne.symm other.2.2, Ne.symm other.2.1⟩

theorem stands_put {address : Byte} {modem : Modem} (holds : Stands stage modem)
    (firm : Firm address) : Stands (stage.wrote address)
      (modem.put address (stage.target address)) := by
  obtain ⟨mode, flags⟩ := firm_other firm
  refine ⟨⟨holds.silent.sending, holds.silent.sent, holds.silent.listened⟩, ?_, ?_, ?_, ?_⟩
  · rw [put_other mode]
    exact holds.mode
  · intro other member
    rcases List.mem_cons.mp member with rfl | member
    · exact firm
    · exact holds.firm other member
  · intro other member
    by_cases same : other = address
    · rw [same]
      exact put_same
    · rw [put_other same]
      exact holds.done other ((List.mem_cons.mp member).resolve_left same)
  · intro given
    rw [Modem.txDone, put_other flags]
    exact holds.cleared given

/-- A write of what the target says. -/
theorem write_stands {address value : Byte} (firm : Firm address) (seven : address.msb = false)
    (same : value = stage.target address) :
    Triple chipSetting proper (Stands stage) (spiWrite address value)
      fun _ => Stands (stage.wrote address) := by
  apply triple_perform (stands_stable stage) fun _ => stands_stable _
  · exact fun _ _ => seven
  · intro modem _ after holds answered
    have answered : after = modem.write address value := answered
    rw [answered, firm_write firm, same]
    exact stands_put holds firm

/-- Any write to a register that is not settled. -/
theorem write_loose {address value : Byte} (firm : Firm address) (seven : address.msb = false)
    (loose : address ∉ stage.done) :
    Triple chipSetting proper (Stands stage) (spiWrite address value)
      fun _ => Stands stage := by
  apply triple_perform (stands_stable stage) fun _ => stands_stable _
  · exact fun _ _ => seven
  · intro modem _ after holds answered
    have answered : after = modem.write address value := answered
    rw [answered, firm_write firm]
    obtain ⟨mode, flags⟩ := firm_other firm
    refine ⟨⟨holds.silent.sending, holds.silent.sent, holds.silent.listened⟩, ?_, holds.firm, ?_,
      ?_⟩
    · rw [put_other mode]
      exact holds.mode
    · intro other member
      have differs : other ≠ address := fun same => loose (same ▸ member)
      rw [put_other differs]
      exact holds.done other member
    · intro given
      rw [Modem.txDone, put_other flags]
      exact holds.cleared given

theorem read_stands {address : Byte} (seven : address.msb = false) (plain : address ≠ regFifo) :
    Triple chipSetting proper (Stands stage) (spiRead address)
      fun answer modem => (address = regOpMode → answer = stage.mode) ∧ Stands stage modem := by
  apply triple_perform (stands_stable stage)
  · exact fun _ => stable_and (stable_fact _) (stands_stable stage)
  · exact fun _ _ => seven
  · intro modem answer after holds answered
    have answered : if address = regFifo then _ else answer = modem.registers address ∧
      after = modem := answered
    rw [if_neg plain] at answered
    obtain ⟨rfl, rfl⟩ := answered
    refine ⟨?_, holds⟩
    intro same
    rw [same]
    exact holds.mode

/-- A read of a register that keeps its value settles it. -/
theorem read_settles {address : Byte} (firm : Firm address) (seven : address.msb = false)
    (loose : address ∉ stage.done) :
    Triple chipSetting proper (Stands stage) (spiRead address)
      fun answer => Stands
        { stage with
          target := Function.update stage.target address answer
          done := address :: stage.done } := by
  have plain : address ≠ regFifo := by
    intro same
    exact firm.2 (by rw [same]; exact List.mem_cons_self)
  apply triple_perform (stands_stable stage) fun _ => stands_stable _
  · exact fun _ _ => seven
  · intro modem answer after holds answered
    have answered : if address = regFifo then _ else answer = modem.registers address ∧
      after = modem := answered
    rw [if_neg plain] at answered
    obtain ⟨rfl, rfl⟩ := answered
    refine ⟨holds.silent, holds.mode, ?_, ?_, holds.cleared⟩
    · intro other member
      rcases List.mem_cons.mp member with rfl | member
      · exact firm
      · exact holds.firm other member
    · intro other member
      rcases List.mem_cons.mp member with rfl | member
      · exact (Function.update_self other _ stage.target).symm
      · have differs : other ≠ address := fun same => loose (same ▸ member)
        change _ = Function.update stage.target address _ other
        rw [Function.update_of_ne differs]
        exact holds.done other member

theorem clear_stands :
    Triple chipSetting proper (Stands stage) (Sx1278.bus clearLoRaIrq)
      fun _ => Stands { stage with cleared := true } := by
  apply triple_perform (stands_stable stage) fun _ => stands_stable _
  · exact fun _ _ => rfl
  · intro modem _ after holds answered
    have answered : after = modem.put regIrqFlags (modem.registers regIrqFlags &&& ~~~0xFF) :=
      answered
    rw [answered]
    refine ⟨⟨holds.silent.sending, holds.silent.sent, holds.silent.listened⟩, ?_, holds.firm, ?_,
      ?_⟩
    · rw [put_other (by decide)]
      exact holds.mode
    · intro other member
      have differs : other ≠ regIrqFlags := by
        intro same
        exact (holds.firm other member).1 (by rw [same]; decide)
      rw [put_other differs]
      exact holds.done other member
    · intro _
      rw [Modem.txDone, put_same]
      have none : modem.registers regIrqFlags &&& ~~~(0xFF : Byte) = 0 := BitVec.and_zero
      rw [none]
      rfl

/-- A mode of Sleep or Standby is written. -/
theorem mode_stands {value : Byte} (calm : Calm (RadioMode.store stage.mode value)) :
    Triple chipSetting proper (Stands stage) (spiWrite regOpMode value)
      fun _ => Stands { stage with mode := RadioMode.store stage.mode value } := by
  apply triple_perform (stands_stable stage) fun _ => stands_stable _
  · exact fun _ _ => rfl
  · intro modem _ after holds answered
    have answered : after =
        (modem.put regOpMode (RadioMode.store (modem.registers regOpMode) value)).enter := answered
    rw [holds.mode] at answered
    have same : (modem.put regOpMode (RadioMode.store stage.mode value)).registers regOpMode =
        RadioMode.store stage.mode value := put_same
    have quiet := calm_quiet same calm
    rw [Modem.enter, if_neg quiet.2, if_neg quiet.1] at answered
    rw [answered]
    refine ⟨⟨rfl, holds.silent.sent, holds.silent.listened⟩, same, holds.firm, ?_, ?_⟩
    · intro other member
      have differs : other ≠ regOpMode := Ne.symm (firm_other (holds.firm other member)).1
      rw [← holds.done other member]
      exact put_other differs
    · intro given
      have flags : (modem.put regOpMode (RadioMode.store stage.mode value)).registers
          regIrqFlags = modem.registers regIrqFlags := put_other (by decide)
      rw [← holds.cleared given]
      exact congrArg (fun flags : Byte => flags.getLsbD 3) flags

/-- A driver function over the register accesses alone. -/
theorem bus_seq {Value Result : Type} {pre : Modem → Prop} {middle : Value → Modem → Prop}
    {post : Result → Modem → Prop} {program : Sx1278.Driver Value}
    {next : Value → Sx1278.Driver Result}
    (first : Triple chipSetting proper pre (Sx1278.bus program) middle)
    (second : ∀ value, Triple chipSetting proper (middle value) (Sx1278.bus (next value)) post) :
    Triple chipSetting proper pre (Sx1278.bus (program >>= next)) post := by
  rw [Sx1278.bus, lift_bind]
  exact triple_seq first second

theorem delay_stands {assertion : Modem → Prop} (stable : Stable chipSetting assertion)
    (msec : Nat) :
    Triple chipSetting proper assertion (chip (.delayMs msec)) fun _ => assertion := by
  apply triple_perform stable fun _ => stable
  · exact fun _ _ => trivial
  · intro modem _ after holds answered
    have answered : after = modem := answered
    rw [answered]
    exact holds

theorem dio0_stands :
    Triple chipSetting proper (Stands stage) (Sx1278.bus (access .getDio0))
      fun _ => Stands stage := by
  apply triple_perform (stands_stable stage) fun _ => stands_stable stage
  · exact fun _ _ => trivial
  · intro modem _ after holds answered
    rw [answered.2]
    exact holds

section Burst

variable {start modem : Modem} {first address : Byte} {bytes : List Byte}

/-- The registers of a burst, the last one first. -/
def covered (first : Byte) : Nat → List Byte
  | 0 => []
  | count + 1 => (first + BitVec.ofNat 8 count) :: covered first count

def Stage.burst (stage : Stage) (first : Byte) (count : Nat) : Stage :=
  { stage with done := covered first count ++ stage.done }

def Aimed (stage : Stage) (first : Byte) (bytes : List Byte) : Prop :=
  ∀ index, index < bytes.length → Firm (first + BitVec.ofNat 8 index) ∧
    bytes[index]? = some (stage.target (first + BitVec.ofNat 8 index))

theorem aimed_front {value : Byte} (aimed : Aimed stage first (bytes ++ [value])) :
    Aimed stage first bytes ∧ Firm (first + BitVec.ofNat 8 bytes.length) ∧
      value = stage.target (first + BitVec.ofNat 8 bytes.length) := by
  have size : (bytes ++ [value]).length = bytes.length + 1 := List.length_append
  constructor
  · intro index inside
    have found := aimed index (by omega)
    rw [List.getElem?_append_left inside] at found
    exact found
  · have found := aimed bytes.length (by omega)
    rw [List.getElem?_concat_length] at found
    exact ⟨found.1, Option.some.inj found.2⟩

theorem place_next (base : Byte) (count : Nat) :
    base + BitVec.ofNat 8 count + 1 = base + BitVec.ofNat 8 (count + 1) := by
  rw [BitVec.ofNat_add, BitVec.add_assoc]
  rfl

theorem burst_advances (firm : Firm address) : modemDevice.advances address = address + 1 := by
  have plain : address ≠ regFifo := by
    intro same
    exact firm.2 (by rw [same]; exact List.mem_cons_self)
  exact if_neg plain

theorem burst_stands (burst : Burst modemDevice true start first bytes address modem)
    (holds : Stands stage start) (aimed : Aimed stage first bytes) :
    address = first + BitVec.ofNat 8 bytes.length ∧
      Stands (stage.burst first bytes.length) modem := by
  induction burst with
  | nothing => exact ⟨(BitVec.add_zero first).symm, holds⟩
  | drift bytes address modem next before moved induction =>
      obtain ⟨same, stands⟩ := induction aimed
      exact ⟨same, stands_stable _ _ _ stands moved⟩
  | byte bytes address value modem next before accessed induction =>
      obtain ⟨front, firm, last⟩ := aimed_front aimed
      obtain ⟨same, stands⟩ := induction front
      have wrote : next = modem.write address value := accessed
      have size : (bytes ++ [value]).length = bytes.length + 1 := List.length_append
      rw [← same] at firm last
      rw [size]
      constructor
      · rw [burst_advances firm, same]
        exact place_next first bytes.length
      · rw [wrote, firm_write firm, last, Stage.burst, covered, ← same]
        exact stands_put stands firm

theorem burst_sets (seven : first.msb = false)
    (aimed : Aimed stage first bytes) :
    Triple chipSetting proper (Stands stage) (chip (.burstWrite first bytes))
      fun _ => Stands (stage.burst first bytes.length) := by
  apply triple_perform (stands_stable stage) fun _ => stands_stable _
  · exact fun _ _ => seven
  · intro modem _ after holds answered
    obtain ⟨last, burst⟩ := answered
    exact (burst_stands burst holds aimed).2

structure Loaded (stage : Stage) (base : Byte) (bytes : List Byte) (modem : Modem) : Prop where
  stands : Stands stage modem
  pointer : modem.registers regFifoAddrPtr = base + BitVec.ofNat 8 bytes.length
  fifo : ∀ index, index < bytes.length →
    bytes[index]? = some (modem.fifo (base + BitVec.ofNat 8 index))

theorem loaded_stable (calm : Calm stage.mode) (base : Byte) (bytes : List Byte) :
    Stable chipSetting (Loaded stage base bytes) := by
  intro modem next holds moved
  have stands := stands_stable stage modem next holds.stands moved
  cases moved with
  | txDone packet sending =>
      rw [holds.stands.silent.sending] at sending
      cases sending
  | status registers fifo firm flag kept =>
      have same := kept (calm_quiet holds.stands.mode calm).1
      subst same
      refine ⟨stands, ?_, holds.fifo⟩
      rw [← holds.pointer]
      exact firm regFifoAddrPtr (by decide)

/-- The pointer moves, and nothing settled. -/
theorem stands_pointer {value : Byte} {fifo : Byte → Byte} (holds : Stands stage modem)
    (loose : regFifoAddrPtr ∉ stage.done) :
    Stands stage { modem.put regFifoAddrPtr value with fifo := fifo } := by
  refine ⟨⟨holds.silent.sending, holds.silent.sent, holds.silent.listened⟩, ?_, holds.firm, ?_, ?_⟩
  · have mode : (modem.put regFifoAddrPtr value).registers regOpMode =
        modem.registers regOpMode := put_other (by decide)
    rw [← holds.mode]
    exact mode
  · intro other member
    have differs : other ≠ regFifoAddrPtr := fun same => loose (same ▸ member)
    have kept : (modem.put regFifoAddrPtr value).registers other = modem.registers other :=
      put_other differs
    rw [← holds.done other member]
    exact kept
  · intro given
    have flags : (modem.put regFifoAddrPtr value).registers regIrqFlags =
        modem.registers regIrqFlags := put_other (by decide)
    rw [← holds.cleared given]
    exact congrArg (fun flags : Byte => flags.getLsbD 3) flags

theorem place_ne {base : Byte} {index other : Nat} (less : index < other) (short : other < 256) :
    base + BitVec.ofNat 8 index ≠ base + BitVec.ofNat 8 other := by
  intro same
  have same := congrArg BitVec.toNat (BitVec.add_right_inj base |>.mp same)
  rw [BitVec.toNat_ofNat, BitVec.toNat_ofNat] at same
  omega

theorem loaded_next {base value : Byte} (holds : Loaded stage base bytes modem)
    (loose : regFifoAddrPtr ∉ stage.done) (short : bytes.length < 256) :
    Loaded stage base (bytes ++ [value]) (modem.write regFifo value) := by
  have size : (bytes ++ [value]).length = bytes.length + 1 := List.length_append
  refine ⟨stands_pointer holds.stands loose, ?_, ?_⟩
  · have moved : (modem.write regFifo value).registers =
        (modem.put regFifoAddrPtr (modem.registers regFifoAddrPtr + 1)).registers := rfl
    rw [moved, put_same, holds.pointer, size]
    exact place_next base bytes.length
  · intro index inside
    have fifo : (modem.write regFifo value).fifo =
        Function.update modem.fifo (base + BitVec.ofNat 8 bytes.length) value := by
      rw [← holds.pointer]
      rfl
    rw [fifo]
    by_cases last : index = bytes.length
    · rw [last, List.getElem?_concat_length, Function.update_self]
    · have front : index < bytes.length := by omega
      rw [List.getElem?_append_left front, Function.update_of_ne (place_ne front short)]
      exact holds.fifo index front

theorem burst_loads {base : Byte} (calm : Calm stage.mode)
    (burst : Burst modemDevice true start regFifo bytes address modem)
    (holds : Loaded stage base [] start) (loose : regFifoAddrPtr ∉ stage.done)
    (short : bytes.length < 256) : address = regFifo ∧ Loaded stage base bytes modem := by
  induction burst with
  | nothing => exact ⟨rfl, holds⟩
  | drift bytes address modem next before moved induction =>
      obtain ⟨same, loaded⟩ := induction short
      exact ⟨same, loaded_stable calm base bytes _ _ loaded moved⟩
  | byte bytes address value modem next before accessed induction =>
      rw [List.length_append] at short
      have less : bytes.length < 256 := Nat.lt_of_succ_lt short
      obtain ⟨rfl, loaded⟩ := induction less
      have wrote : next = modem.write regFifo value := accessed
      rw [wrote]
      exact ⟨rfl, loaded_next loaded loose less⟩

theorem burst_fills {base : Byte} (calm : Calm stage.mode) (loose : regFifoAddrPtr ∉ stage.done)
    (short : bytes.length < 256) :
    Triple chipSetting proper (Loaded stage base []) (chip (.burstWrite regFifo bytes))
      fun _ => Loaded stage base bytes := by
  apply triple_perform (loaded_stable calm base []) fun _ => loaded_stable calm base bytes
  · exact fun _ _ => rfl
  · intro modem _ after holds answered
    obtain ⟨last, burst⟩ := answered
    exact (burst_loads calm burst holds loose short).2

/-- Reading the FIFO moves the pointer. -/
theorem burst_drains (burst : Burst modemDevice false start regFifo bytes address modem)
    (holds : Stands stage start) (loose : regFifoAddrPtr ∉ stage.done) :
    address = regFifo ∧ Stands stage modem := by
  induction burst with
  | nothing => exact ⟨rfl, holds⟩
  | drift bytes address modem next before moved induction =>
      obtain ⟨same, stands⟩ := induction
      exact ⟨same, stands_stable _ _ _ stands moved⟩
  | byte bytes address value modem next before accessed induction =>
      obtain ⟨rfl, stands⟩ := induction
      have accessed : value = _ ∧
        next = modem.put regFifoAddrPtr (modem.registers regFifoAddrPtr + 1) := accessed
      rw [accessed.2]
      exact ⟨rfl, stands_pointer stands loose⟩

end Burst

end Stands

end LoraNode.RadioChip
