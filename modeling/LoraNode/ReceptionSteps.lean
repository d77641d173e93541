import LoraNode.Reception

/-!
# The driver under reception

What the driver relies on between two accesses, as assertions that a reception
cannot break unless the monitor no longer admits the run: the radio in standby,
the radio listening, a packet being read out, a packet in the receive buffer.
-/

namespace LoraNode.Reception

open LoraNode.Foundation LoraNode.Foundation.Bytes LoraNode.Foundation.Program LoraNode.NodeState
  LoraNode.LoraApp LoraNode.Sx1278

variable {Reply Result : Type}

structure Follows (air next : Air) : Prop where
  moment : air.moment ≤ next.moment
  admitted : next.monitor.admitted = true → air.monitor.admitted = true
  handed : next.monitor.handed = air.monitor.handed
  ended : next.monitor.ended = air.monitor.ended

theorem follows_same (air : Air) : Follows air air := ⟨le_rfl, id, rfl, rfl⟩

theorem follows_trans (first second third : Air) (left : Follows first second)
    (right : Follows second third) : Follows first third where
  moment := left.moment.trans right.moment
  admitted := fun holds => left.admitted (right.admitted holds)
  handed := right.handed.trans left.handed
  ended := right.ended.trans left.ended

/-- A reception takes place in a radio that listens, or nothing happens. -/
theorem receive_cases (env : Environment) (air : Air) :
    (∃ packet, air.radio.listening = true ∧ air.receive env =
        ⟨air.radio.complete packet, air.monitor.raise air.radio packet, air.moment + 1⟩) ∨
      air.receive env = { air with moment := air.moment + 1 } := by
  rw [Air.receive]
  cases env.arrival air.moment with
  | none => exact Or.inr rfl
  | some packet =>
      by_cases listening : air.radio.listening = true
      · exact Or.inl ⟨packet, listening, if_pos listening⟩
      · exact Or.inr (if_neg listening)

theorem receive_follows (env : Environment) (air : Air) : Follows air (air.receive env) := by
  have later : air.moment ≤ air.moment + 1 := Nat.le_succ _
  rcases receive_cases env air with ⟨packet, -, received⟩ | received
  · rw [received]
    exact ⟨later, fun holds => (Bool.and_eq_true_iff.mp holds).1, rfl, rfl⟩
  · rw [received]
    exact ⟨later, id, rfl, rfl⟩

theorem wrote_keeps (monitor : Monitor) (address value : Byte) :
    (monitor.wrote address value).admitted = monitor.admitted ∧
      (monitor.wrote address value).handed = monitor.handed ∧
        (monitor.wrote address value).ended = monitor.ended := by
  rw [Monitor.wrote]
  split_ifs
  · exact ⟨rfl, rfl, rfl⟩
  · cases monitor.owed <;> exact ⟨rfl, rfl, rfl⟩
  · exact ⟨rfl, rfl, rfl⟩

theorem looked_keeps (monitor : Monitor) (address : Byte) :
    (monitor.looked address).admitted = monitor.admitted ∧
      (monitor.looked address).handed = monitor.handed ∧
        (monitor.looked address).ended = monitor.ended := by
  rw [Monitor.looked]
  split_ifs
  · cases monitor.owed <;> exact ⟨rfl, rfl, rfl⟩
  · exact ⟨rfl, rfl, rfl⟩

theorem fetched_keeps (monitor : Monitor) (bytes : List Byte) :
    (monitor.fetched bytes).admitted = monitor.admitted ∧
      (monitor.fetched bytes).handed = monitor.handed ∧
        (monitor.fetched bytes).ended = monitor.ended := by
  rw [Monitor.fetched]
  cases monitor.owed with
  | nothing => exact ⟨rfl, rfl, rfl⟩
  | buffered packet => exact ⟨rfl, rfl, rfl⟩
  | raised packet =>
      simp only
      split_ifs <;> exact ⟨rfl, rfl, rfl⟩
  | located packet =>
      simp only
      split_ifs <;> exact ⟨rfl, rfl, rfl⟩

theorem answer_admitted (air : Air) (call : Bus Reply) :
    (air.answer call).2.monitor.admitted = air.monitor.admitted := by
  cases call with
  | spiRead address => exact (looked_keeps air.monitor address).1
  | spiWrite address value => exact (wrote_keeps air.monitor address value).1
  | burstRead address length => exact (fetched_keeps air.monitor _).1
  | getDio0 => rfl

theorem answer_follows (air : Air) (call : Bus Reply) : Follows air (air.answer call).2 := by
  refine ⟨?_, fun holds => (answer_admitted air call).symm.trans holds, ?_, ?_⟩
  · cases call <;> exact le_rfl
  · cases call with
    | spiRead address => exact (looked_keeps air.monitor address).2.1
    | spiWrite address value => exact (wrote_keeps air.monitor address value).2.1
    | burstRead address length => exact (fetched_keeps air.monitor _).2.1
    | getDio0 => rfl
  · cases call with
    | spiRead address => exact (looked_keeps air.monitor address).2.2
    | spiWrite address value => exact (wrote_keeps air.monitor address value).2.2
    | burstRead address length => exact (fetched_keeps air.monitor _).2.2
    | getDio0 => rfl

theorem driver_follows (env : Environment) (driver : Driver Result) (air : Air) :
    Follows air (driver.simulate (bus env) air).2 := by
  apply simulate_related follows_same follows_trans
  intro Reply air call
  exact follows_trans _ _ _ (receive_follows env air) (answer_follows _ call)

def Guarded (assertion : Air → Prop) (air : Air) : Prop :=
  air.monitor.admitted = true → assertion air

def Stable (env : Environment) (assertion : Air → Prop) : Prop :=
  ∀ air, assertion air → Guarded assertion (air.receive env)

theorem guarded_receive {env : Environment} {assertion : Air → Prop} {air : Air}
    (stable : Stable env assertion) (holds : Guarded assertion air) :
    Guarded assertion (air.receive env) := by
  intro admitted
  exact stable air (holds ((receive_follows env air).admitted admitted)) admitted

/-- One access, known by what it does after the reception it may have met. -/
theorem yields_access {env : Environment} {call : Bus Reply} {air : Air}
    {before : Air → Prop} {after : Reply → Air → Prop} (stable : Stable env before)
    (holds : Guarded before air)
    (does : ∀ air, before air → after (air.answer call).1 (air.answer call).2) :
    (access call).Yields (bus env) air fun reply next => Guarded (after reply) next := by
  rw [access, yields_perform]
  intro admitted
  apply does
  apply guarded_receive stable holds
  rw [← answer_admitted _ call]
  exact admitted

theorem looked_other {monitor : Monitor} {address : Byte}
    (spares : address ≠ regRxNbBytes ∨ monitor.owed = .nothing) :
    monitor.looked address = monitor := by
  rw [Monitor.looked]
  split_ifs with counts
  · rw [spares.resolve_left fun other => other counts]
  · rfl

theorem yields_read {env : Environment} {assertion : Air → Prop} {air : Air}
    (stable : Stable env assertion) (holds : Guarded assertion air) {address : Byte}
    (other : address ≠ regRxNbBytes) :
    (access (.spiRead address)).Yields (bus env) air fun reply next =>
      Guarded (fun air => reply = air.radio.registers address ∧ assertion air) next := by
  refine yields_access stable holds ?_
  intro air holds
  have same : (air.answer (.spiRead address)).2 = air := by
    rw [Air.answer, looked_other (.inl other)]
  rw [same]
  exact ⟨rfl, holds⟩

structure Flagged (monitor : Monitor) (receiving unread armed : Bool) (owed : Owed) : Prop where
  receiving : monitor.receiving = receiving
  unread : monitor.unread = unread
  armed : monitor.armed = armed
  owed : monitor.owed = owed
  lost : monitor.lost = []
  due : monitor.due = monitor.owed.packets ++ monitor.handed
  ended : monitor.ended = []

section Raise

variable {monitor : Monitor} {receiving unread armed : Bool} {owed : Owed}
  (flagged : Flagged monitor receiving unread armed owed) (radio : Radio) (packet : Packet)

include flagged

theorem raise_not_owed (excused : monitor.owes radio = false) :
    Flagged (monitor.raise radio packet) receiving unread armed owed := by
  obtain ⟨receives, unreads, arms, owes, lost, due, ended⟩ := flagged
  simp only [Monitor.raise, excused, Bool.false_eq_true, if_false]
  exact ⟨receives, unreads, arms, owes, lost, due, ended⟩

theorem raise_admitted (admitted : (monitor.raise radio packet).admitted = true) :
    owed.spared packet = true ∧
      (monitor.owes radio = true → armed = true ∧ 2 ≤ packet.bytes.length) := by
  simp only [Monitor.raise, Monitor.admits, flagged.owed, flagged.armed, flagged.ended,
    List.isEmpty_nil, Bool.not_true, Bool.false_or, Bool.and_eq_true, Bool.not_eq_true',
    Bool.or_eq_true, decide_eq_true_eq] at admitted
  obtain ⟨-, spared, owes⟩ := admitted
  refine ⟨spared, fun due => ?_⟩
  rcases owes with excused | met
  · rw [due] at excused
    cases excused
  · exact met

theorem raise_owed (idle : owed = .nothing) (due : monitor.owes radio = true) :
    Flagged (monitor.raise radio packet) receiving unread armed (.raised packet) := by
  obtain ⟨receives, unreads, arms, owes, lost, kept, ended⟩ := flagged
  simp only [Monitor.raise, due, if_true]
  refine ⟨receives, unreads, arms, rfl, lost, ?_, ended⟩
  simp only [kept, owes, idle, Owed.packets, List.nil_append, List.cons_append]

end Raise

theorem wrote_other {monitor : Monitor} {address value : Byte} (mode : address ≠ regOpMode)
    (spares : address ≠ regIrqFlags ∨ monitor.owed.waits = false) :
    monitor.wrote address value = monitor := by
  rw [Monitor.wrote, if_neg mode]
  split_ifs with clears
  · have idle := spares.resolve_left fun other => other clears.1
    cases owed : monitor.owed with
    | raised packet =>
        rw [owed] at idle
        cases idle
    | located packet =>
        rw [owed] at idle
        cases idle
    | buffered packet => rfl
    | nothing => rfl
  · rfl

theorem answer_mode (air : Air) (value : Byte) :
    (air.answer (.spiWrite regOpMode value)).2 =
      { air with
        radio := air.radio.write regOpMode value
        monitor := { air.monitor with armed := true } } := by
  simp only [Air.answer, Monitor.wrote, if_true]

theorem write_other (radio : Radio) {address value other : Byte} (differs : other ≠ address) :
    (radio.write address value).registers other = radio.registers other := by
  rw [Radio.write]
  split_ifs
  · exact Function.update_of_ne differs _ _
  · exact Function.update_of_ne differs _ _

theorem write_same (radio : Radio) {address value : Byte} (plain : address ≠ regIrqFlags) :
    (radio.write address value).registers address = value := by
  rw [Radio.write, if_neg plain]
  exact Function.update_self _ _ _

theorem rx_done_other (radio : Radio) {address value : Byte} (differs : regIrqFlags ≠ address) :
    (radio.write address value).rxDone = radio.rxDone := by
  rw [Radio.rxDone, Radio.rxDone, write_other radio differs]

theorem listening_other (radio : Radio) {address value : Byte} (mode : address ≠ regOpMode) :
    (radio.write address value).listening = radio.listening := by
  unfold Radio.listening
  rw [write_other radio mode.symm]

theorem listening_mode (radio : Radio) (value : Byte) :
    (radio.write regOpMode value).listening = decide (value &&& 0x87 = 0x85) := by
  unfold Radio.listening
  rw [write_same radio (by decide)]

theorem write_clear (radio : Radio) : (radio.write regIrqFlags 0xFF).rxDone = false := by
  simp [Radio.write, Radio.rxDone, Radio.put]

structure Tuned (radio : Radio) : Prop where
  mapping : radio.registers regDioMapping1 = 0x01
  listening : radio.listening = true

theorem tuned_dio0 {radio : Radio} (tuned : Tuned radio) : radio.dio0 = radio.rxDone := by
  rw [Radio.dio0, tuned.mapping]
  rfl

theorem tuned_same {radio next : Radio} (tuned : Tuned radio)
    (mapping : next.registers regDioMapping1 = radio.registers regDioMapping1)
    (mode : next.registers regOpMode = radio.registers regOpMode) : Tuned next := by
  refine ⟨mapping.trans tuned.mapping, ?_⟩
  have same := tuned.listening
  unfold Radio.listening at same ⊢
  rw [mode]
  exact same

theorem tuned_write {radio : Radio} {address value : Byte} (tuned : Tuned radio)
    (mapping : regDioMapping1 ≠ address) (mode : regOpMode ≠ address) :
    Tuned (radio.write address value) :=
  tuned_same tuned (write_other radio mapping) (write_other radio mode)

theorem tuned_burst {radio : Radio} (tuned : Tuned radio) (length : Byte) :
    Tuned (radio.burst length).2 := by
  have pointer : (radio.burst length).2.registers = Function.update radio.registers regFifoAddrPtr
      (radio.registers regFifoAddrPtr + length) := rfl
  apply tuned_same tuned
  · rw [pointer, Function.update_of_ne (by decide)]
  · rw [pointer, Function.update_of_ne (by decide)]

theorem tuned_complete {radio : Radio} (tuned : Tuned radio) (packet : Packet) :
    Tuned (radio.complete packet) := by
  apply tuned_same tuned
  · simp [Radio.complete, Radio.put, Function.update, regDioMapping1, regIrqFlags, regRxNbBytes,
      regFifoRxCurrentaddr]
  · simp [Radio.complete, Radio.put, Function.update, regOpMode, regIrqFlags, regRxNbBytes,
      regFifoRxCurrentaddr]

theorem complete_rx_done (radio : Radio) (packet : Packet) :
    (radio.complete packet).rxDone = true := by
  simp [Radio.complete, Radio.put, Radio.rxDone]

theorem packet_size (packet : Packet) :
    (BitVec.ofNat 8 packet.bytes.length).toNat = packet.bytes.length := by
  rw [BitVec.toNat_ofNat]
  exact Nat.mod_eq_of_lt packet.short

structure Holds (radio : Radio) (packet : Packet) : Prop where
  address : radio.registers regFifoRxCurrentaddr = packet.start
  count : radio.registers regRxNbBytes = BitVec.ofNat 8 packet.bytes.length
  bytes : ((List.range packet.bytes.length).map fun offset =>
    radio.fifo (packet.start + BitVec.ofNat 8 offset)) = packet.bytes

theorem complete_holds (radio : Radio) (packet : Packet) :
    Holds (radio.complete packet) packet := by
  refine ⟨?_, ?_, ?_⟩
  · simp [Radio.complete, Radio.put, Function.update, regFifoRxCurrentaddr, regIrqFlags,
      regRxNbBytes]
  · simp [Radio.complete, Radio.put, Function.update, regIrqFlags, regRxNbBytes]
  · apply List.ext_getElem
    · simp
    · intro offset inside bound
      have small : offset % 2 ^ 8 = offset :=
        Nat.mod_eq_of_lt (Nat.lt_trans bound packet.short)
      have place : (packet.start + BitVec.ofNat 8 offset - packet.start).toNat = offset := by
        rw [BitVec.add_comm, BitVec.add_sub_cancel, BitVec.toNat_ofNat, small]
      simp only [List.getElem_map, List.getElem_range, Radio.complete, Radio.put, place, bound,
        if_true, List.getD_eq_getElem _ _ bound]

/-- After `SX1278_read`: nothing may become owed before the re-arm. -/
def Spent (air : Air) : Prop := Flagged air.monitor false false false .nothing

theorem spent_stable (env : Environment) : Stable env Spent := by
  intro air spent admitted
  rcases receive_cases env air with ⟨packet, -, received⟩ | received
  · rw [received] at admitted ⊢
    apply raise_not_owed spent
    -- Before the re-arm an admitted packet cannot be owed, since `armed` is false.
    have early := (raise_admitted spent air.radio packet admitted).2
    by_contra due
    rw [Bool.not_eq_false] at due
    cases (early due).1
  · rw [received]
    exact spent

/-- The radio has left RxContinuous for the re-arm. -/
structure Standing (facts : Radio → Prop) (air : Air) : Prop where
  flagged : Flagged air.monitor false false true .nothing
  deaf : air.radio.listening = false
  facts : facts air.radio

theorem standing_stable (env : Environment) (facts : Radio → Prop) :
    Stable env (Standing facts) := by
  intro air standing _
  rcases receive_cases env air with ⟨packet, listening, -⟩ | received
  · rw [standing.deaf] at listening
    cases listening
  · rw [received]
    exact ⟨standing.flagged, standing.deaf, standing.facts⟩

theorem standing_write {facts next : Radio → Prop} {air : Air} (standing : Standing facts air)
    {address value : Byte} (mode : address ≠ regOpMode)
    (does : ∀ radio, facts radio → next (radio.write address value)) :
    Standing next (air.answer (.spiWrite address value)).2 := by
  have same : air.monitor.wrote address value = air.monitor :=
    wrote_other mode (Or.inr (by rw [standing.flagged.owed]; rfl))
  refine ⟨?_, ?_, does _ standing.facts⟩
  · change Flagged (air.monitor.wrote address value) _ _ _ _
    rw [same]
    exact standing.flagged
  · change (air.radio.write address value).listening = false
    rw [listening_other _ mode]
    exact standing.deaf

theorem spent_standby {air : Air} (spent : Spent air) (mode : Byte) :
    Standing (fun _ => True)
      (air.answer (.spiWrite regOpMode ((mode &&& 0xF8) ||| 0x01))).2 := by
  rw [answer_mode]
  refine ⟨?_, ?_, trivial⟩
  · exact ⟨spent.receiving, spent.unread, rfl, spent.owed, spent.lost, spent.due, spent.ended⟩
  · rw [listening_mode, decide_eq_false_iff_not]
    intro same
    have third := congrArg (fun value : Byte => value.getLsbD 2) same
    simp at third

inductive Rests (radio : Radio) : Owed → Prop where
  | nothing (low : radio.rxDone = false) : Rests radio .nothing
  | raised (packet : Packet) (high : radio.rxDone = true) (holds : Holds radio packet)
      (long : 2 ≤ packet.bytes.length) : Rests radio (.raised packet)

/-- Between two calls of the driver, with the receiver started. -/
structure Listening (owed : Owed) (air : Air) : Prop where
  flagged : Flagged air.monitor false false true owed
  tuned : Tuned air.radio
  rests : Rests air.radio owed

theorem standing_listen {air : Air}
    (standing : Standing (fun radio => radio.registers regDioMapping1 = 0x01 ∧
      radio.rxDone = false) air) :
    Listening .nothing (air.answer (.spiWrite regOpMode 0x8D)).2 := by
  obtain ⟨flagged, -, mapping, low⟩ := standing
  rw [answer_mode]
  refine ⟨?_, ⟨?_, ?_⟩, .nothing ?_⟩
  · exact ⟨flagged.receiving, flagged.unread, rfl, flagged.owed, flagged.lost, flagged.due,
      flagged.ended⟩
  · rw [write_other _ (by decide), mapping]
  · rw [listening_mode]
    decide
  · rw [rx_done_other _ (by decide), low]

def Heard (owed : Owed) (air : Air) : Prop :=
  ∃ now, Listening now air ∧ (owed = .nothing ∨ now = owed)

theorem heard_stable (env : Environment) (owed : Owed) : Stable env (Heard owed) := by
  intro air heard admitted
  obtain ⟨now, ⟨flagged, tuned, rests⟩, keeps⟩ := heard
  rcases receive_cases env air with ⟨packet, -, received⟩ | received
  · rw [received] at admitted ⊢
    obtain ⟨spared, long⟩ := raise_admitted flagged air.radio packet admitted
    cases rests with
    -- The new packet would take over the FIFO registers of the one that waits.
    | raised earlier high holds wide => cases spared
    | nothing low =>
        have due : air.monitor.owes air.radio = true := by
          rw [Monitor.owes, tuned_dio0 tuned, low, flagged.receiving, flagged.unread,
            flagged.ended]
          rfl
        refine ⟨.raised packet, ⟨raise_owed flagged air.radio packet rfl due,
          tuned_complete tuned packet, ?_⟩, Or.inl ?_⟩
        · exact .raised packet (complete_rx_done air.radio packet)
            (complete_holds air.radio packet) (long due).2
        · rcases keeps with idle | same
          · exact idle
          · exact same.symm
  · rw [received]
    exact ⟨now, ⟨flagged, tuned, rests⟩, keeps⟩

/-- `SX1278_LoRaRxPacket` is executing; the facts are about a packet in the FIFO. -/
structure Draining (owed : Owed) (facts : Radio → Prop) (air : Air) : Prop where
  flagged : Flagged air.monitor true false true owed
  tuned : Tuned air.radio
  facts : owed.waits = true → facts air.radio

/-- The facts survive a reception that the monitor admits. -/
theorem draining_stable (env : Environment) {owed : Owed} {facts : Radio → Prop}
    (kept : ∀ radio packet, owed.waits = true → owed.spared packet = true → facts radio →
      facts (radio.complete packet)) : Stable env (Draining owed facts) := by
  intro air draining admitted
  obtain ⟨flagged, tuned, known⟩ := draining
  rcases receive_cases env air with ⟨packet, -, received⟩ | received
  · rw [received] at admitted ⊢
    have spared := (raise_admitted flagged air.radio packet admitted).1
    refine ⟨raise_not_owed flagged air.radio packet ?_, tuned_complete tuned packet, ?_⟩
    · rw [Monitor.owes, flagged.receiving]
      simp
    · exact fun waits => kept air.radio packet waits spared (known waits)
  · rw [received]
    exact ⟨flagged, tuned, known⟩

theorem nothing_stable (env : Environment) (facts : Radio → Prop) :
    Stable env (Draining .nothing facts) :=
  draining_stable env fun _ _ waits => nomatch waits

theorem raised_stable (env : Environment) (packet : Packet) (facts : Radio → Prop) :
    Stable env (Draining (.raised packet) facts) :=
  draining_stable env fun _ _ _ spared => nomatch spared

theorem buffered_stable (env : Environment) (packet : Packet) (facts : Radio → Prop) :
    Stable env (Draining (.buffered packet) facts) :=
  draining_stable env fun _ _ waits => nomatch waits

structure Placed (packet : Packet) (radio : Radio) : Prop where
  pointer : radio.registers regFifoAddrPtr = packet.start
  bytes : ((List.range packet.bytes.length).map fun offset =>
    radio.fifo (packet.start + BitVec.ofNat 8 offset)) = packet.bytes

/-- What is stored beside a packet leaves it there. -/
theorem located_stable (env : Environment) (packet : Packet) :
    Stable env (Draining (.located packet) (Placed packet)) := by
  apply draining_stable env
  intro radio later _ spared placed
  have apart : ∀ offset ∈ List.range packet.bytes.length,
      later.bytes.length ≤ (packet.start + BitVec.ofNat 8 offset - later.start).toNat := by
    have apart : packet.apart later = true := spared
    intro offset inside
    exact of_decide_eq_true (List.all_eq_true.mp apart offset inside)
  constructor
  · rw [← placed.pointer]
    simp [Radio.complete, Radio.put, Function.update, regFifoAddrPtr, regIrqFlags, regRxNbBytes,
      regFifoRxCurrentaddr]
  · refine Eq.trans (List.map_congr_left ?_) placed.bytes
    intro offset inside
    have beside := apart offset inside
    simp only [Radio.complete, Radio.put]
    rw [if_neg (by omega)]

inductive Stored (module : Module) : Owed → Prop where
  | nothing : Stored module .nothing
  | buffered (packet : Packet) (count : module.readBytes = BitVec.ofNat 8 packet.bytes.length)
      (bytes : module.rxBuffer.val.take packet.bytes.length = packet.bytes) :
      Stored module (.buffered packet)

/-- Between `SX1278_available` and `SX1278_read`. -/
structure Fetched (module : Module) (owed : Owed) (air : Air) : Prop where
  flagged : Flagged air.monitor false true true owed
  stored : Stored module owed

theorem fetched_stable (env : Environment) (module : Module) (owed : Owed) :
    Stable env (Fetched module owed) := by
  intro air fetched _
  rcases receive_cases env air with ⟨packet, -, received⟩ | received
  · rw [received]
    refine ⟨raise_not_owed fetched.flagged air.radio packet ?_, fetched.stored⟩
    rw [Monitor.owes, fetched.flagged.unread]
    simp
  · rw [received]
    exact ⟨fetched.flagged, fetched.stored⟩

end LoraNode.Reception
