import LoraNode.SpiWord
import LoraNode.Sx1278Transmit

/-!
# Register accesses, byte by byte (`SX1278.c`, `SX1278_hw.c`)

A register access is a frame of NSS: an address byte, whose top bit says write,
and then the data. A burst goes on to the next addresses. Under the driver of
SERCOM1 and its interrupt handler every access of the radio driver does what the
register does.
-/

namespace LoraNode.RadioBus

open LoraNode.Foundation LoraNode.Foundation.Bytes LoraNode.Foundation.Program
  LoraNode.Foundation.Interference LoraNode.Foundation.Preemption LoraNode.Foundation.Layer
  LoraNode.SpiMaster LoraNode.Sx1278

inductive Pins : Type → Type where
  | setNss (high : Bool) : Pins Unit
  | setReset (high : Bool) : Pins Unit
  | delayMs (msec : Nat) : Pins Unit
  | getDio0 : Pins Bool

abbrev Hw := Program (Line Pins)

section Source

def setNss (high : Bool) : Hw Unit := perform (.inr (.setNss high))

def transfer (txByte : Byte) (rxByte : Option Byte) : Hw Byte :=
  perform (.inl (.spiTransfer txByte rxByte))

def spiCommand (cmd : Byte) : Hw Unit := do
  setNss false
  let _ ← transfer cmd none

def spiReadByte : Hw Byte := do
  setNss false
  transfer 0 (some 0)

def spiRead (addr : Byte) : Hw Byte := do
  spiCommand addr
  let tmp ← spiReadByte
  setNss true
  return tmp

def spiWrite (addr cmd : Byte) : Hw Unit := do
  setNss false
  spiCommand (addr ||| 0x80)
  spiCommand cmd
  setNss true

def readBytes : Nat → Hw (List Byte)
  | 0 => return []
  | length + 1 => do
      let byte ← spiReadByte
      let bytes ← readBytes length
      return byte :: bytes

def writeBytes : List Byte → Hw Unit
  | [] => return ()
  | byte :: bytes => do
      spiCommand byte
      writeBytes bytes

/-- `SX1278_SPIBurstRead`, when the length is not 0 or 1. -/
def spiBurstRead (addr length : Byte) : Hw (List Byte) := do
  setNss false
  spiCommand addr
  let bytes ← readBytes length.toNat
  setNss true
  return bytes

/-- `SX1278_SPIBurstWrite`, when the length is not 0 or 1. -/
def spiBurstWrite (addr : Byte) (bytes : List Byte) : Hw Unit := do
  setNss false
  spiCommand (addr ||| 0x80)
  writeBytes bytes
  setNss true

def accessed : {Reply : Type} → Wire Reply → Hw Reply
  | _, .inl (.spiRead address) => spiRead address
  | _, .inl (.spiWrite address value) => spiWrite address value
  | _, .inl (.burstRead address length) => spiBurstRead address length
  | _, .inl .getDio0 => perform (.inr .getDio0)
  | _, .inr (.burstWrite address bytes) => spiBurstWrite address bytes
  | _, .inr (.setNss high) => setNss high
  | _, .inr (.setReset high) => perform (.inr (.setReset high))
  | _, .inr (.delayMs msec) => perform (.inr (.delayMs msec))

/-- None of them waits for anything but its transfers. -/
def wireBody {Reply : Type} (call : Wire Reply) : Hw (Option Reply) := do
  let answer ← accessed call
  return some answer

end Source

/-- A chip with registers. `advances` is the address after this one in a burst. -/
structure Device (State : Type*) where
  accesses : Bool → State → Byte → Byte → State → Prop
  advances : Byte → Byte
  drifts : State → State → Prop
  resets : State → Bool → State → Prop
  raises : State → Bool → Prop

inductive Frame where
  | released
  | selected
  | addressed (write : Bool) (address : Byte)

def Frame.select : Frame → Frame
  | .released => .selected
  | .selected => .selected
  | .addressed write address => .addressed write address

variable {State : Type*} (device : Device State)

/-- A word of a frame. What comes back with an address, or to a write, is anything. -/
inductive Exchanges : Frame × State → Byte → Byte → Frame × State → Prop where
  | released (state : State) (byte reply : Byte) :
      Exchanges (.released, state) byte reply (.released, state)
  | address (state : State) (byte reply : Byte) :
      Exchanges (.selected, state) byte reply (.addressed byte.msb (byte &&& 0x7F), state)
  | read (state next : State) (address byte reply : Byte)
      (read : device.accesses false state address reply next) :
      Exchanges (.addressed false address, state) byte reply
        (.addressed false (device.advances address), next)
  | write (state next : State) (address byte reply : Byte)
      (written : device.accesses true state address byte next) :
      Exchanges (.addressed true address, state) byte reply
        (.addressed true (device.advances address), next)

def drives : {Reply : Type} → Frame × State → Pins Reply → Reply → Frame × State → Prop
  | _, (_, state), .setNss true, _, next => next = (.released, state)
  | _, (frame, state), .setNss false, _, next => next = (frame.select, state)
  | _, (frame, state), .setReset high, _, next => next.1 = frame ∧ device.resets state high next.2
  | _, (frame, state), .delayMs _, _, next => next = (frame, state)
  | _, (frame, state), .getDio0, answer, next =>
      device.raises state answer ∧ next = (frame, state)

/-- The chip behind its SPI interface. -/
def radio : Slave (Frame × State) Pins where
  exchanges := Exchanges device
  drifts first second := first.1 = second.1 ∧ device.drifts first.2 second.2
  drives := drives device

/-- The accesses of a burst; between two of them the chip moves on its own. -/
inductive Burst (write : Bool) (start : State) (first : Byte) :
    List Byte → Byte → State → Prop where
  | nothing : Burst write start first [] first start
  | drift (bytes : List Byte) (address : Byte) (state next : State)
      (before : Burst write start first bytes address state)
      (moved : device.drifts state next) : Burst write start first bytes address next
  | byte (bytes : List Byte) (address value : Byte) (state next : State)
      (before : Burst write start first bytes address state)
      (accessed : device.accesses write state address value next) :
      Burst write start first (bytes ++ [value]) (device.advances address) next

def registerAnswers {Reply : Type} (state : State) : Wire Reply → Reply → State → Prop
  | .inl (.spiRead address), answer, next => device.accesses false state address answer next
  | .inl (.spiWrite address value), _, next => device.accesses true state address value next
  | .inl (.burstRead address length), answer, next =>
      answer.length = length.toNat ∧ ∃ last, Burst device false state address answer last next
  | .inl .getDio0, answer, next => device.raises state answer ∧ next = state
  | .inr (.burstWrite address bytes), _, next =>
      ∃ last, Burst device true state address bytes last next
  | .inr (.setNss _), _, next => next = state
  | .inr (.setReset high), _, next => device.resets state high next
  | .inr (.delayMs _), _, next => next = state

/-- The registers as the driver means them. -/
def registers : Setting Wire State where
  answers := registerAnswers device
  interferes := device.drifts

/-- Addresses have seven bits, and only an access takes NSS low. -/
def Proper : {Reply : Type} → Wire Reply → Prop
  | _, .inl (.spiRead address) => address.msb = false
  | _, .inl (.spiWrite address _) => address.msb = false
  | _, .inl (.burstRead address _) => address.msb = false
  | _, .inr (.burstWrite address _) => address.msb = false
  | _, .inr (.setNss high) => high = true
  | _, _ => True

variable {device} {start : State}

section Burst

variable {write : Bool} {first address : Byte} {bytes : List Byte} {state : State}

theorem burst_drifts (moved : Relation.ReflTransGen device.drifts start state) :
    Burst device write start first [] first state := by
  induction moved with
  | refl => exact .nothing
  | tail _ step induction => exact .drift _ _ _ _ induction step

theorem burst_nothing (burst : Burst device write start first bytes address state)
    (none : bytes = []) : address = first ∧ Relation.ReflTransGen device.drifts start state := by
  induction burst with
  | nothing => exact ⟨rfl, .refl⟩
  | drift bytes address state next before moved induction =>
      exact ⟨(induction none).1, (induction none).2.tail moved⟩
  | byte bytes address value state next before accessed induction =>
      exact absurd none (List.append_ne_nil_of_right_ne_nil bytes (List.cons_ne_nil _ _))

/-- A burst of one byte is one access. -/
theorem burst_one {value : Byte} (burst : Burst device write start first bytes address state)
    (one : bytes = [value]) :
    ∃ before after, Relation.ReflTransGen device.drifts start before ∧
      device.accesses write before first value after ∧
      Relation.ReflTransGen device.drifts after state := by
  induction burst with
  | nothing => cases one
  | drift bytes address state next before moved induction =>
      obtain ⟨ahead, after, earlier, accessed, later⟩ := induction one
      exact ⟨ahead, after, earlier, accessed, later.tail moved⟩
  | byte bytes address byte state next before accessed induction =>
      obtain ⟨none, same⟩ := List.append_eq_singleton_iff.mp one |>.resolve_right (by simp)
      obtain ⟨rfl, moved⟩ := burst_nothing before none
      cases same
      exact ⟨state, next, moved, accessed, .refl⟩

end Burst

section Frame

/-- Somewhere in a frame, with something that the chip does not change on its own. -/
def Holding (frame : Frame) (assertion : State → Prop) (state : Frame × State) : Prop :=
  state.1 = frame ∧ assertion state.2

def Kept (device : Device State) (assertion : State → Prop) : Prop :=
  ∀ state next, assertion state → device.drifts state next → assertion next

variable {frame : Frame} {assertion : State → Prop}

theorem holding_stable (kept : Kept device assertion) :
    Stable (line (radio device)) (Holding frame assertion) := by
  intro state next holds moved
  exact ⟨moved.1.symm.trans holds.1, kept _ _ holds.2 moved.2⟩

theorem drifts_kept : Kept device (Relation.ReflTransGen device.drifts start) :=
  fun _ _ reached moved => reached.tail moved

theorem burst_kept (write : Bool) (first address : Byte) (bytes : List Byte) :
    Kept device (Burst device write start first bytes address) :=
  fun _ _ burst moved => .drift _ _ _ _ burst moved

theorem setNss_selects (kept : Kept device assertion) :
    Triple (line (radio device)) unguarded (Holding frame assertion) (setNss false)
      fun _ => Holding frame.select assertion := by
  apply triple_perform (holding_stable kept) fun _ => holding_stable kept
  · exact fun _ _ => trivial
  · intro state _ after holds answered
    obtain ⟨held, state⟩ := state
    obtain ⟨rfl, known⟩ := holds
    cases answered
    exact ⟨rfl, known⟩

theorem setNss_releases (kept : Kept device assertion) :
    Triple (line (radio device)) unguarded (Holding frame assertion) (setNss true)
      fun _ => Holding .released assertion := by
  apply triple_perform (holding_stable kept) fun _ => holding_stable kept
  · exact fun _ _ => trivial
  · intro state _ after holds answered
    cases answered
    exact ⟨rfl, holds.2⟩

/-- The first word of a frame is the address. -/
theorem spiCommand_addresses (kept : Kept device assertion) (opens : frame.select = .selected)
    (cmd : Byte) :
    Triple (line (radio device)) unguarded (Holding frame assertion) (spiCommand cmd)
      fun _ => Holding (.addressed cmd.msb (cmd &&& 0x7F)) assertion := by
  apply triple_seq (setNss_selects kept)
  intro _
  rw [opens]
  have sends : Triple (line (radio device)) unguarded (Holding .selected assertion)
      (transfer cmd none) fun _ => Holding (.addressed cmd.msb (cmd &&& 0x7F)) assertion := by
    apply triple_perform (holding_stable kept) fun _ => holding_stable kept
    · exact fun _ _ => trivial
    · intro state _ after holds answered
      obtain ⟨held, state⟩ := state
      obtain ⟨rfl, known⟩ := holds
      cases answered
      exact ⟨rfl, known⟩
  apply triple_seq sends
  intro _
  exact triple_pure (holding_stable kept) fun _ holds => holds

def Running (device : Device State) (write : Bool) (start : State) (first : Byte)
    (bytes : List Byte) (state : Frame × State) : Prop :=
  ∃ address, Holding (.addressed write address) (Burst device write start first bytes address) state

theorem running_stable (write : Bool) (first : Byte) (bytes : List Byte) :
    Stable (line (radio device)) (Running device write start first bytes) :=
  stable_exists fun address => holding_stable (burst_kept write first address bytes)

theorem running_opens {write : Bool} {first : Byte} {state : Frame × State}
    (holds : Holding (.addressed write first) (Relation.ReflTransGen device.drifts start) state) :
    Running device write start first [] state :=
  ⟨first, holds.1, burst_drifts holds.2⟩

variable (first : Byte) (bytes : List Byte)

/-- The next word of a burst; NSS is low already. -/
theorem transfer_runs (write : Bool) (txByte : Byte) (rxByte : Option Byte) :
    Triple (line (radio device)) unguarded (Running device write start first bytes)
      (do
        setNss false
        transfer txByte rxByte)
      fun reply => Running device write start first
        (bytes ++ [if write then txByte else reply]) := by
  apply triple_exists
  intro address
  apply triple_seq (setNss_selects (burst_kept write first address bytes))
  intro _
  apply triple_perform (holding_stable (burst_kept write first address bytes))
  · exact fun reply => running_stable write first _
  · exact fun _ _ => trivial
  · intro state reply after holds answered
    obtain ⟨held, state⟩ := state
    obtain ⟨rfl, known⟩ := holds
    cases answered with
    | read _ next _ _ _ read => exact ⟨_, rfl, .byte _ _ _ _ _ known read⟩
    | write _ next _ _ _ written => exact ⟨_, rfl, .byte _ _ _ _ _ known written⟩

theorem spiReadByte_reads :
    Triple (line (radio device)) unguarded (Running device false start first bytes) spiReadByte
      fun reply => Running device false start first (bytes ++ [reply]) :=
  transfer_runs first bytes false 0 (some 0)

theorem spiCommand_writes (cmd : Byte) :
    Triple (line (radio device)) unguarded (Running device true start first bytes)
      (spiCommand cmd) fun _ => Running device true start first (bytes ++ [cmd]) := by
  have same : spiCommand cmd =
      (do
        let _ ← do
          setNss false
          transfer cmd none) := rfl
  rw [same]
  apply triple_seq (transfer_runs first bytes true cmd none)
  intro _
  exact triple_pure (running_stable _ _ _) fun _ holds => holds

theorem readBytes_reads (length : Nat) :
    Triple (line (radio device)) unguarded (Running device false start first bytes)
      (readBytes length) fun more state => more.length = length ∧
        Running device false start first (bytes ++ more) state := by
  induction length generalizing bytes with
  | zero =>
      refine triple_pure (stable_and (stable_fact _) (running_stable _ _ _)) ?_
      intro state holds
      rw [List.append_nil]
      exact ⟨rfl, holds⟩
  | succ length induction =>
      apply triple_seq (spiReadByte_reads first bytes)
      intro byte
      apply triple_seq (induction (bytes ++ [byte]))
      intro more
      refine triple_pure (stable_and (stable_fact _) (running_stable _ _ _)) ?_
      intro state holds
      rw [List.append_assoc] at holds
      exact ⟨congrArg Nat.succ holds.1, holds.2⟩

theorem writeBytes_writes (more : List Byte) :
    Triple (line (radio device)) unguarded (Running device true start first bytes)
      (writeBytes more) fun _ => Running device true start first (bytes ++ more) := by
  induction more generalizing bytes with
  | nil =>
      rw [List.append_nil]
      exact triple_pure (running_stable _ _ _) fun _ holds => holds
  | cons byte more induction =>
      apply triple_seq (spiCommand_writes first bytes byte)
      intro _
      apply triple_mono (induction (bytes ++ [byte])) fun _ holds => holds
      intro _ state holds
      rw [List.append_assoc] at holds
      exact holds

end Frame

section Registers

def Performed (device : Device State) (start : State) {Reply : Type} (call : Wire Reply)
    (answer : Reply) : Frame × State → Prop :=
  Holding .released (Taken (registers device) start call answer)

theorem taken_kept {Reply : Type} (call : Wire Reply) (answer : Reply) :
    Kept device (Taken (registers device) start call answer) :=
  fun _ _ taken moved => taken_later taken (.single moved)

theorem performed_stable {Reply : Type} (call : Wire Reply) (answer : Reply) :
    Stable (line (radio device)) (Performed device start call answer) :=
  holding_stable (taken_kept call answer)

/-- NSS goes high at the end of a burst. -/
theorem burst_releases {write : Bool} {first : Byte} {bytes : List Byte} {Reply : Type}
    {call : Wire Reply} {answer : Reply}
    (serves : ∀ address state, Burst device write start first bytes address state →
      Taken (registers device) start call answer state) :
    Triple (line (radio device)) unguarded (Running device write start first bytes) (setNss true)
      fun _ => Performed device start call answer := by
  apply triple_exists
  intro address
  apply triple_mono (setNss_releases (burst_kept write first address bytes)) fun _ holds => holds
  intro _ state holds
  exact ⟨holds.1, serves address state.2 holds.2⟩

theorem read_address {address : Byte} (proper : address.msb = false) :
    address &&& 0x7F = address := by
  revert proper
  revert address
  decide

theorem write_address {address : Byte} (proper : address.msb = false) :
    (address ||| 0x80).msb = true ∧ (address ||| 0x80) &&& 0x7F = address := by
  revert proper
  revert address
  decide

abbrev Resting (device : Device State) (start : State) : Frame × State → Prop :=
  Holding .released (Relation.ReflTransGen device.drifts start)

theorem command_reads {frame : Frame} {address : Byte} (opens : frame.select = .selected)
    (proper : address.msb = false) :
    Triple (line (radio device)) unguarded
      (Holding frame (Relation.ReflTransGen device.drifts start)) (spiCommand address)
      fun _ => Running device false start address [] := by
  apply triple_mono (spiCommand_addresses drifts_kept opens address) fun _ holds => holds
  intro _ state holds
  rw [proper, read_address proper] at holds
  exact running_opens holds

theorem command_writes {frame : Frame} {address : Byte} (opens : frame.select = .selected)
    (proper : address.msb = false) :
    Triple (line (radio device)) unguarded
      (Holding frame (Relation.ReflTransGen device.drifts start)) (spiCommand (address ||| 0x80))
      fun _ => Running device true start address [] := by
  apply triple_mono (spiCommand_addresses drifts_kept opens _) fun _ holds => holds
  intro _ state holds
  obtain ⟨writes, same⟩ := write_address proper
  rw [writes, same] at holds
  exact running_opens holds

theorem spiRead_performs (address : Byte) (proper : address.msb = false) :
    Triple (line (radio device)) unguarded (Resting device start) (spiRead address)
      (Performed device start (.inl (.spiRead address))) := by
  apply triple_seq (command_reads rfl proper)
  intro _
  apply triple_seq (spiReadByte_reads address [])
  intro tmp
  have releases : Triple (line (radio device)) unguarded
      (Running device false start address [tmp]) (setNss true)
      fun _ => Performed device start (.inl (.spiRead address)) tmp :=
    burst_releases fun _ state burst => burst_one burst rfl
  apply triple_seq releases
  intro _
  exact triple_pure (performed_stable _ _) fun _ holds => holds

theorem spiWrite_performs (address cmd : Byte) (proper : address.msb = false) :
    Triple (line (radio device)) unguarded (Resting device start) (spiWrite address cmd)
      (Performed device start (.inl (.spiWrite address cmd))) := by
  apply triple_seq (setNss_selects drifts_kept)
  intro _
  apply triple_seq (command_writes rfl proper)
  intro _
  apply triple_seq (spiCommand_writes address [] cmd)
  intro _
  have releases : Triple (line (radio device)) unguarded
      (Running device true start address [cmd]) (setNss true)
      fun _ => Performed device start (.inl (.spiWrite address cmd)) () :=
    burst_releases fun _ state burst => burst_one burst rfl
  exact releases

theorem spiBurstRead_performs (address length : Byte) (proper : address.msb = false) :
    Triple (line (radio device)) unguarded (Resting device start) (spiBurstRead address length)
      (Performed device start (.inl (.burstRead address length))) := by
  apply triple_seq (setNss_selects drifts_kept)
  intro _
  apply triple_seq (command_reads rfl proper)
  intro _
  apply triple_seq (readBytes_reads address [] length.toNat)
  intro bytes
  apply triple_fact
  intro size
  have releases : Triple (line (radio device)) unguarded
      (Running device false start address bytes) (setNss true)
      fun _ => Performed device start (.inl (.burstRead address length)) bytes :=
    burst_releases fun last state burst => ⟨start, state, .refl, ⟨size, last, burst⟩, .refl⟩
  apply triple_seq releases
  intro _
  exact triple_pure (performed_stable _ _) fun _ holds => holds

theorem spiBurstWrite_performs (address : Byte) (bytes : List Byte) (proper : address.msb = false) :
    Triple (line (radio device)) unguarded (Resting device start) (spiBurstWrite address bytes)
      (Performed device start (.inr (.burstWrite address bytes))) := by
  apply triple_seq (setNss_selects drifts_kept)
  intro _
  apply triple_seq (command_writes rfl proper)
  intro _
  apply triple_seq (writeBytes_writes address [] bytes)
  intro _
  have releases : Triple (line (radio device)) unguarded
      (Running device true start address bytes) (setNss true)
      fun _ => Performed device start (.inr (.burstWrite address bytes)) () :=
    burst_releases fun last state burst => ⟨start, state, .refl, ⟨last, burst⟩, .refl⟩
  exact releases

/-- A call of the driver on one of the other pins. -/
theorem pin_performs {Reply : Type} {pin : Pins Reply} {call : Wire Reply}
    (does : ∀ state answer after, drives device (.released, state) pin answer after →
      after.1 = .released ∧ registerAnswers device state call answer after.2) :
    Triple (line (radio device)) unguarded (Resting device start) (perform (.inr pin))
      (Performed device start call) := by
  apply triple_perform (holding_stable drifts_kept) (performed_stable call)
  · exact fun _ _ => trivial
  · intro state answer after holds answered
    obtain ⟨frame, state⟩ := state
    obtain ⟨rfl, moved⟩ := holds
    obtain ⟨released, done⟩ := does state answer after answered
    exact ⟨released, state, after.2, moved, done, .refl⟩

theorem accessed_performs {Reply : Type} (call : Wire Reply) (proper : Proper call) :
    Triple (line (radio device)) unguarded (Resting device start) (accessed call)
      (Performed device start call) := by
  rcases call with call | call
  · cases call with
    | spiRead address => exact spiRead_performs address proper
    | spiWrite address value => exact spiWrite_performs address value proper
    | burstRead address length => exact spiBurstRead_performs address length proper
    | getDio0 =>
        apply pin_performs
        rintro state answer _ ⟨raises, rfl⟩
        exact ⟨rfl, raises, rfl⟩
  · cases call with
    | burstWrite address bytes => exact spiBurstWrite_performs address bytes proper
    | setNss high =>
        have up : high = true := proper
        subst up
        apply pin_performs
        rintro state answer _ rfl
        exact ⟨rfl, rfl⟩
    | setReset high =>
        apply pin_performs
        intro state answer after done
        exact done
    | delayMs msec =>
        apply pin_performs
        rintro state answer _ rfl
        exact ⟨rfl, rfl⟩

def Presents (state : Frame × State) (chip : State) : Prop := state.1 = .released ∧ state.2 = chip

/-- Every access of the driver does what the register does. -/
theorem wire_realizes (device : Device State) :
    Realizes (registers device) (fun call _ => Proper call) (line (radio device)) unguarded
      wireBody (fun _ => False) Presents where
  waits := stable_fact False
  rests := by
    intro state next chip shown moved
    obtain ⟨released, rfl⟩ := shown
    exact ⟨next.2, .single moved.2, moved.1.symm.trans released, rfl⟩
  takes := by
    intro Reply call state chip proper shown
    obtain ⟨released, rfl⟩ := shown
    have resting : Resting device state.2 state := ⟨released, .refl⟩
    have whole : Triple (line (radio device)) unguarded (Resting device state.2) (wireBody call)
        (Finished (fun _ => False) (Performed device state.2 call)) := by
      apply triple_seq (accessed_performs call proper)
      intro answer
      exact triple_pure (performed_stable call answer) fun _ holds => holds
    apply secured_mono (whole state resting)
    intro answer after finished
    cases answer with
    | none => exact finished
    | some answer => exact ⟨after.2, finished.2, finished.1, rfl⟩

end Registers

section Board

/-- A program of the radio driver, down to the registers of SERCOM1. -/
def onBoard (rounds : Nat) (discard : Byte) {Result : Type} (program : Transmitter Result) :
    Program (TaskCall Pins) (Option Result) :=
  implement (stacked wireBody (lineBody rounds discard)) program

def careful : Guard (TaskCall Pins) (Port (Frame × State))
  | _, .inl call, port => sound call port
  | _, .inr _, port => Idle port

theorem steady_ready {Reply : Type} (call : TaskCall Pins Reply) (port : Port (Frame × State))
    (guarded : steady (radio device) call port) : Ready (radio device) port := by
  cases call with
  | inl call => exact guarded.2
  | inr call => exact fun requests => absurd requests (off_silent guarded.enabled)

theorem steady_careful {Reply : Type} (call : TaskCall Pins Reply) (port : Port (Frame × State))
    (guarded : steady (radio device) call port) : careful call port := by
  cases call with
  | inl call => exact guarded.1
  | inr call => exact guarded

/-- If the program has come to its end, SERCOM1 is idle, NSS high and the postcondition holds. -/
def Returned {Result : Type} (post : Result → State → Prop) (answer : Option Result)
    (port : Port (Frame × State)) : Prop :=
  ∀ result, answer = some result →
    Idle port ∧ port.chip.1 = .released ∧ post result port.chip.2

/-- The driver on the board, against the registers. -/
theorem board_returns (device : Device State) {Result : Type} {program : Transmitter Result}
    {pre : State → Prop} {post : Result → State → Prop}
    (triple : Triple (registers device) (fun call _ => Proper call) pre program post)
    {rounds : Nat} (discard : Byte) (enough : 2 < rounds) {port : Port (Frame × State)}
    (idle : Idle port) (released : port.chip.1 = .released) (holds : pre port.chip.2) :
    Secured (board (radio device)) (steady (radio device)) (onBoard rounds discard program)
      (fun answer after => Ready (radio device) after ∧ Returned post answer after) port := by
  have realizes := realizes_trans (wire_realizes device)
    (line_realizes (radio device) rounds discard enough)
  have secured := triple_implement realizes triple port
    ⟨port.chip.2, ⟨port.chip, ⟨idle, rfl⟩, released, rfl⟩, holds⟩
  apply secured_mono secured
  intro answer after finished
  cases answer with
  | none =>
      rcases finished with engaged | ⟨_, _, waits⟩
      · exact ⟨engaged_ready engaged, fun _ same => nomatch same⟩
      · exact waits.elim
  | some value =>
      obtain ⟨last, ⟨mid, ⟨idle, rfl⟩, released, rfl⟩, ends⟩ := finished
      refine ⟨fun requests => absurd requests (off_silent idle.enabled), ?_⟩
      intro result same
      cases same
      exact ⟨idle, released, ends⟩

/-- In every interleaving with the interrupt handler. -/
theorem board_shown {Result : Type} {program : Program (TaskCall Pins) (Option Result)}
    {post : Result → State → Prop} {port : Port (Frame × State)}
    (returns : Secured (board (radio device)) (steady (radio device)) program
      (fun answer after => Ready (radio device) after ∧ Returned post answer after) port)
    {reached : Configuration (TaskCall Pins) Access (Port (Frame × State)) (Option Result)}
    (moves : Moves (pins (radio device)) (sercom (radio device)) interruptHandler Port.requests
      ⟨program, none, port⟩ reached) : reached.Shown careful sound (Returned post) := by
  have shown := preempted_always steady_ready (fun _ _ ends => ends.1) ready_handled returns moves
  exact shown_mono shown steady_careful fun _ _ ends => ends.2

/-- Whatever holds of the driver over registers holds of it on the board, in every
interleaving with the interrupt handler. -/
theorem driver_refines (device : Device State) {Result : Type} (program : Transmitter Result)
    (pre : State → Prop) (post : Result → State → Prop)
    (triple : Triple (registers device) (fun call _ => Proper call) pre program post)
    (rounds : Nat) (discard : Byte) (enough : 2 < rounds) (port : Port (Frame × State))
    (idle : Idle port) (released : port.chip.1 = .released) (holds : pre port.chip.2)
    {reached : Configuration (TaskCall Pins) Access (Port (Frame × State)) (Option Result)}
    (moves : Moves (pins (radio device)) (sercom (radio device)) interruptHandler Port.requests
      ⟨onBoard rounds discard program, none, port⟩ reached) :
    reached.Shown careful sound (Returned post) :=
  board_shown (board_returns device triple discard enough idle released holds) moves

def registerFile : Device (Byte → Byte) where
  accesses write state address value next :=
    if write then next = Function.update state address value
    else value = state address ∧ next = state
  advances address := address + 1
  drifts _ _ := False
  resets state _ next := next = state
  raises _ _ := True

theorem entryLoRa_writes :
    Triple (registers registerFile) (fun call _ => Proper call) (fun _ => True) entryLoRa
      fun _ state => state regOpMode = 0x88 := by
  apply triple_perform
  · exact fun _ _ _ moved => moved.elim
  · exact fun _ _ _ _ moved => moved.elim
  · exact fun _ _ => rfl
  · intro state _ after _ answered
    have answered : after = Function.update state regOpMode 0x88 := answered
    rw [answered]
    exact Function.update_self _ _ _

section Machine

structure PromptDevice (device : Device State) where
  read : State → Byte → Byte × State
  write : State → Byte → Byte → State
  drift : State → Option State
  reset : State → Bool → State
  raise : State → Bool
  reads : ∀ state address,
    device.accesses false state address (read state address).1 (read state address).2
  writes : ∀ state address value,
    device.accesses true state address value (write state address value)
  drifts : ∀ state next, drift state = some next → device.drifts state next
  resets : ∀ state high, device.resets state high (reset state high)
  raises : ∀ state, device.raises state (raise state)

variable (prompt : PromptDevice device)

def PromptDevice.exchange (chip : Frame × State) (byte : Byte) : Byte × Frame × State :=
  match chip with
  | (.released, state) => (0, .released, state)
  | (.selected, state) => (0, .addressed byte.msb (byte &&& 0x7F), state)
  | (.addressed false address, state) =>
      let answered := prompt.read state address
      (answered.1, .addressed false (device.advances address), answered.2)
  | (.addressed true address, state) =>
      (0, .addressed true (device.advances address), prompt.write state address byte)

def PromptDevice.drive {Reply : Type} (chip : Frame × State) : Pins Reply → Reply × Frame × State
  | .setNss true => ((), .released, chip.2)
  | .setNss false => ((), chip.1.select, chip.2)
  | .setReset high => ((), chip.1, prompt.reset chip.2 high)
  | .delayMs _ => ((), chip)
  | .getDio0 => (prompt.raise chip.2, chip)

def PromptDevice.slave : Prompt (radio device) where
  exchange := prompt.exchange
  drift chip := (prompt.drift chip.2).map fun state => (chip.1, state)
  drive := prompt.drive
  exchanges := by
    rintro ⟨frame, state⟩ byte
    cases frame with
    | released => exact .released state byte 0
    | selected => exact .address state byte 0
    | addressed write address =>
        cases write with
        | false => exact .read state _ address byte _ (prompt.reads state address)
        | true => exact .write state _ address byte 0 (prompt.writes state address byte)
  drifts := by
    intro chip next moved
    obtain ⟨state, drifted, rfl⟩ := Option.map_eq_some_iff.mp moved
    exact ⟨rfl, prompt.drifts chip.2 state drifted⟩
  drives := by
    intro Reply chip call
    cases call with
    | setNss high => cases high <;> rfl
    | setReset high => exact ⟨rfl, prompt.resets chip.2 high⟩
    | delayMs msec => rfl
    | getDio0 => exact ⟨prompt.raises chip.2, rfl⟩

end Machine

def promptRegisters : PromptDevice registerFile where
  read state address := (state address, state)
  write state address value := Function.update state address value
  drift _ := none
  reset state _ := state
  raise _ := false
  reads _ _ := ⟨rfl, rfl⟩
  writes _ _ _ := rfl
  drifts _ _ moved := nomatch moved
  resets _ _ := rfl
  raises _ := trivial

theorem driver_refines_entryLoRa :
    let start : Port (Frame × (Byte → Byte)) := unusedPort (.released, fun _ => 0)
    let ran := (onBoard 3 0 entryLoRa).simulate
      (promptly promptRegisters.slave.serve promptRegisters.slave.turn 100) start
    Moves (pins (radio registerFile)) (sercom (radio registerFile)) interruptHandler Port.requests
      ⟨onBoard 3 0 entryLoRa, none, start⟩ ⟨.done ran.1, none, ran.2⟩ ∧
    ran.1 = some () ∧ Idle ran.2 ∧ ran.2.chip.1 = .released ∧ ran.2.chip.2 regOpMode = 0x88 := by
  intro start ran
  have moves := task_moves promptRegisters.slave 100 (onBoard 3 0 entryLoRa) start
  have ends : ran.1 = some () := by decide +kernel
  have shown := driver_refines registerFile entryLoRa (fun _ => True)
    (fun _ state => state regOpMode = 0x88) entryLoRa_writes 3 0 (by decide) start
    (unusedPort_idle _) rfl trivial moves
  exact ⟨moves, ends, shown () ends⟩

end Board

end LoraNode.RadioBus
