import LoraNode.RadioDriver

/-!
# Any order of radio operations

The driver and `node_power.c` both change RegOpMode. Between two operations the
chip is in LoRa and low-frequency mode and in the mode the status names, so
putting it to sleep never fails on a bus without faults.
-/

namespace LoraNode.RadioMode

open LoraNode.Foundation LoraNode.Foundation.Bytes LoraNode.Foundation.Program
  LoraNode.Foundation.Interference LoraNode.Sx1278

/-- The operations of the driver and of `node_power.c` between which the mode is
looked at. -/
inductive Operation where
  | transmit (txBuf : List Byte) (length : Byte) (timeout : BitVec 32)
  | receive (length : Byte)
  | available
  | read (length : Byte)
  | sleepRadio

abbrev Session := Program Call

def sleepRadio (module : Transceiver) : Session (Bool × Transceiver) := do
  let (slept, inner) ← (NodePower.sleepRadio module.toModule).lift Sum.inr
  return (slept, { module with toModule := inner })

def runOperation (module : Transceiver) : Operation → Session Transceiver
  | .transmit txBuf length timeout => do
      let (_, module) ← (transmit module txBuf length timeout).lift Sum.inl
      return module
  | .receive length => do
      let (_, inner) ← (bus (receive module.toModule length)).lift Sum.inl
      return { module with toModule := inner }
  | .available => do
      let (_, inner) ← (bus (available module.toModule)).lift Sum.inl
      return { module with toModule := inner }
  | .read length => return { module with toModule := (read module.toModule length).2 }
  | .sleepRadio => do
      let (_, module) ← sleepRadio module
      return module

def operate (module : Transceiver) : List Operation → Session Transceiver
  | [] => return module
  | operation :: rest => do
      let module ← runOperation module operation
      operate module rest

def session (module : Transceiver) (settings : Settings) (operations : List Operation) :
    Session Transceiver := do
  let module ← (init module settings).lift Sum.inl
  operate module operations

/-- The mode bits that belong to a status; TX is none to be seen between two
operations. -/
def modeBits : Status → Option Byte
  | .sleep => some 0
  | .standby => some 1
  | .tx => none
  | .rx => some 5

def modeOf : Status → Byte
  | .sleep => 0x88
  | .standby => 0x89
  | .tx => 0x8B
  | .rx => 0x8D

def Held (module : Module) (device : Device) : Prop :=
  module.status ≠ .tx ∧ At (· = modeOf module.status) device

theorem held_lora {module : Module} {device : Device} (held : Held module device) :
    At LoraMode device := by
  refine at_weaken ?_ device held.2
  intro mode same
  subst same
  cases module.status <;> decide

theorem held_stable (module : Module) : Stable radio (Held module) := by
  by_cases sending : module.status = .tx
  · exact fun _ _ held => absurd sending held.1
  · apply stable_and (stable_fact _)
    apply at_stable
    apply one_closed
    revert sending
    cases module.status <;> decide

/-- A result that determines status and mode is held. -/
theorem held_of {module : Module} {device : Device} (status : Status) (quiet : status ≠ .tx)
    (same : module.status = status) (holds : At (· = modeOf status) device) :
    Held module device := by
  subst same
  exact ⟨quiet, holds⟩

theorem triple_wire {Result : Type} {program : Transmitter Result} {pre : Device → Prop}
    {post : Result → Device → Prop} (triple : Triple wire unguarded pre program post) :
    Triple radio unguarded pre (program.lift Sum.inl) post :=
  triple_along triple

theorem triple_power {Result : Type} {program : NodePower.Power Result} {pre : Device → Prop}
    {post : Result → Device → Prop} (triple : Triple power unguarded pre program post) :
    Triple radio unguarded pre (program.lift Sum.inr) post :=
  triple_along triple

theorem sleepRadio_sleeps (module : Transceiver) :
    Triple radio unguarded (At LoraMode) (sleepRadio module) fun result device =>
      (result.1 = true ∧ result.2.status = .sleep ∧ result.2.readBytes = 0) ∧
        At (· = 0x88) device := by
  rw [sleepRadio]
  apply triple_seq (triple_power (sleepRadio_succeeds module.toModule))
  intro result
  apply triple_fact
  intro same
  subst same
  apply triple_pure
  · exact stable_and (stable_fact _) (at_stable (one_closed (by decide)))
  · exact fun _ holds => ⟨⟨rfl, rfl, rfl⟩, holds⟩

/-- `SX1278_available` moves neither the mode nor the status. -/
theorem available_holds (module : Module) :
    Triple wire unguarded (Held module) (bus (available module)) fun result device =>
      result.2.status = module.status ∧ Held module device := by
  have stable : Stable wire (Held module) := held_stable module
  have kept : Triple wire unguarded (Held module) (bus (available module)) fun _ => Held module :=
    triple_only stable (fun _ _ _ _ => trivial)
      (fun call device answer after quiet held answered =>
        ⟨held.1, quiet_answered call device answer after quiet held.2 answered⟩)
      (available_quiet module)
  exact triple_ensures kept (ensures_lift (available_status module))

/-- Every operation keeps mode and status together. -/
theorem operation_holds (module : Transceiver) (operation : Operation) :
    Triple radio unguarded (Held module.toModule) (runOperation module operation)
      fun result => Held result.toModule := by
  cases operation with
  | transmit txBuf length timeout =>
      apply triple_seq (triple_pre (triple_wire (transmit_stands module txBuf length timeout))
        fun _ held => ⟨trivial, held.2.2⟩)
      intro result
      exact triple_pure (held_stable _) fun _ holds => held_of .standby nofun holds.1 holds.2
  | receive length =>
      apply triple_seq (triple_pre (triple_wire (receive_listens module.toModule length))
        fun _ held => held_lora held)
      intro result
      exact triple_pure (held_stable _) fun _ holds => held_of .rx nofun holds.1 holds.2
  | available =>
      apply triple_seq (triple_wire (available_holds module.toModule))
      intro result
      exact triple_pure (held_stable _) fun _ holds =>
        held_of module.status holds.2.1 holds.1 holds.2.2
  | read length => exact triple_pure (held_stable _) fun _ held => held
  | sleepRadio =>
      apply triple_seq (triple_pre (sleepRadio_sleeps module) fun _ held => held_lora held)
      intro result
      exact triple_pure (held_stable _) fun _ holds => held_of .sleep nofun holds.1.2.1 holds.2

theorem operations_hold (operations : List Operation) (module : Transceiver) :
    Triple radio unguarded (Held module.toModule) (operate module operations)
      fun result => Held result.toModule := by
  induction operations generalizing module with
  | nil => exact triple_pure (held_stable _) fun _ held => held
  | cons operation rest induction =>
      exact triple_seq (operation_holds module operation) induction

theorem session_holds (module : Transceiver) (settings : Settings)
    (operations : List Operation) :
    Triple radio unguarded (At fun _ => True) (session module settings operations)
      fun result => Held result.toModule := by
  rw [session]
  apply triple_seq (triple_wire (init_stands module settings))
  intro module
  apply triple_mono (operations_hold operations module)
  · intro device holds
    exact held_of .standby nofun holds.1 holds.2
  · exact fun _ _ held => held

/-- Such a session comes to its end. -/
theorem session_ends (module : Transceiver) (settings : Settings) (operations : List Operation)
    (device : Device) (inTime : device.remaining < NodePower.waitAttempts) :
    ∃ result after, Reaches radio (session module settings operations, device)
      (.done result, after) ∧ Held result.toModule after :=
  secured_ends radio_answers (session_holds module settings operations device ⟨trivial, inTime⟩)

/-- After `SX1278_init` and any operations the chip is in LoRa low-frequency mode
with the mode of the status, and `NODE_POWER_SleepRadio` succeeds. -/
theorem radio_stays_in_lora (module : Transceiver) (settings : Settings)
    (operations : List Operation) :
    (Always radio unguarded (At fun _ => True) (session module settings operations)
      fun result device => device.opMode &&& 0x80 ≠ 0 ∧ device.opMode &&& 0x08 ≠ 0 ∧
        modeBits result.status = some (device.opMode &&& 0x07)) ∧
      Always radio unguarded (At fun _ => True)
        (session module settings operations >>= sleepRadio) fun result device =>
          result.1 = true ∧ device.opMode = 0x88 ∧ result.2.status = .sleep ∧
            result.2.readBytes = 0 := by
  constructor
  · apply triple_always
    apply triple_mono (session_holds module settings operations) fun _ holds => holds
    intro result device held
    obtain ⟨quiet, same, _⟩ := held
    rw [same]
    revert quiet
    cases result.status <;> decide
  · apply triple_always
    apply triple_seq (session_holds module settings operations)
    intro result
    apply triple_mono (sleepRadio_sleeps result)
    · exact fun _ held => held_lora held
    · exact fun _ _ holds => ⟨holds.1.1, holds.2.1, holds.1.2⟩

end LoraNode.RadioMode
