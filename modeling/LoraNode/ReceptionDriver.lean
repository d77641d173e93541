import LoraNode.ReceptionSteps

/-!
# The driver calls of the ACK window

One statement for each of `SX1278_receive`, `SX1278_available`, `SX1278_read`
and the state machine: from which assertion to which, whatever arrives.
-/

namespace LoraNode.Reception

open LoraNode.Foundation LoraNode.Foundation.Bytes LoraNode.Foundation.Program LoraNode.NodeState
  LoraNode.LoraApp LoraNode.Sx1278

variable {Reply Result : Type} {env : Environment}

section Rearm

def Mapped (radio : Radio) : Prop := radio.registers regDioMapping1 = 0x01

def MappedClear (radio : Radio) : Prop := Mapped radio ∧ radio.rxDone = false

theorem mapped_other {radio : Radio} {address value : Byte} (mapped : Mapped radio)
    (differs : regDioMapping1 ≠ address) : Mapped (radio.write address value) :=
  (write_other radio differs).trans mapped

theorem mapped_clear_other {radio : Radio} {address value : Byte} (clear : MappedClear radio)
    (mapping : regDioMapping1 ≠ address) (flags : regIrqFlags ≠ address) :
    MappedClear (radio.write address value) :=
  ⟨mapped_other clear.1 mapping, (rx_done_other radio flags).trans clear.2⟩

theorem standing_step {facts : Radio → Prop} (next : Radio → Prop) {address value : Byte}
    {rest : Unit → Driver Result} {air : Air} {post : Result → Air → Prop}
    (standing : Guarded (Standing facts) air) (mode : address ≠ regOpMode)
    (does : ∀ radio, facts radio → next (radio.write address value))
    (continues : ∀ after, Guarded (Standing next) after → (rest ()).Yields (bus env) after post) :
    (access (.spiWrite address value) >>= rest).Yields (bus env) air post := by
  have write : (access (.spiWrite address value)).Yields (bus env) air fun _ after =>
      Guarded (Standing next) after :=
    yields_access (standing_stable env facts) standing fun _ holds =>
      standing_write holds mode does
  exact yields_seq write fun _ => continues

theorem standby_stands (module : Module) (air : Air) (spent : Guarded Spent air) :
    (standby module).Yields (bus env) air fun result next =>
      result.loraSf = module.loraSf ∧ Guarded (Standing fun _ => True) next := by
  rw [standby]
  apply yields_seq (yields_read (spent_stable env) spent (by decide))
  intro value middle read
  have spent : Guarded Spent middle := fun admitted => (read admitted).2
  have write : (access (.spiWrite regOpMode ((value &&& 0xF8) ||| 0x01))).Yields (bus env) middle
      fun _ next => Guarded (Standing fun _ => True) next :=
    yields_access (spent_stable env) spent fun _ holds => spent_standby holds value
  apply yields_seq write
  intro _ after standing
  exact ⟨rfl, standing⟩

/-- `SX1278_LoRaEntryRx` starts to listen with nothing raised and nothing owed. -/
theorem entry_rx_listens (env : Environment) (module : Module) (length : Byte) (air : Air)
    (spent : Guarded Spent air) :
    (loraEntryRx module length).Yields (bus env) air fun result next =>
      result.1 = 1 ∧ result.2.loraSf = module.loraSf ∧ result.2.readBytes = 0 ∧
        Guarded (Listening .nothing) next := by
  rw [loraEntryRx]
  apply yields_seq (standby_stands { module with packetLength := length } air spent)
  intro stood air found
  obtain ⟨sf, standing⟩ := found
  apply standing_step (fun _ => True) standing (by decide) fun _ _ => trivial
  intro air standing
  apply standing_step (fun _ => True) standing (by decide) fun _ _ => trivial
  intro air standing
  apply standing_step Mapped standing (by decide) fun radio _ => write_same radio (by decide)
  intro air standing
  apply standing_step Mapped standing (by decide) fun _ mapped => mapped_other mapped (by decide)
  intro air standing
  rw [clearLoRaIrq]
  apply standing_step MappedClear standing (by decide) fun radio mapped =>
    ⟨mapped_other mapped (by decide), write_clear radio⟩
  intro air standing
  apply standing_step MappedClear standing (by decide) fun _ clear =>
    mapped_clear_other clear (by decide) (by decide)
  intro air standing
  apply yields_seq (yields_read (standing_stable env MappedClear) standing (by decide))
  intro addr air read
  have standing : Guarded (Standing MappedClear) air := fun admitted => (read admitted).2
  apply standing_step MappedClear standing (by decide) fun _ clear =>
    mapped_clear_other clear (by decide) (by decide)
  intro air standing
  have listen : (access (.spiWrite regOpMode 0x8D)).Yields (bus env) air fun _ next =>
      Guarded (Listening .nothing) next :=
    yields_access (standing_stable env MappedClear) standing fun _ holds => standing_listen holds
  apply yields_seq listen
  intro _ air listening
  exact ⟨rfl, sf, rfl, listening⟩

end Rearm

section Fetch

theorem stable_and {assertion : Air → Prop} (fact : Prop) (stable : Stable env assertion) :
    Stable env fun air => fact ∧ assertion air := by
  intro air holds admitted
  exact ⟨holds.1, stable air holds.2 admitted⟩

/-- While a packet waits in the FIFO the driver must not clear the flags. -/
theorem draining_write {owed : Owed} {facts next : Radio → Prop} {air : Air}
    (draining : Draining owed facts air) {address value : Byte}
    (mapping : regDioMapping1 ≠ address) (mode : regOpMode ≠ address)
    (spares : address ≠ regIrqFlags ∨ owed.waits = false)
    (does : ∀ radio, facts radio → next (radio.write address value)) :
    Draining owed next (air.answer (.spiWrite address value)).2 := by
  have same : air.monitor.wrote address value = air.monitor := by
    apply wrote_other mode.symm
    rw [draining.flagged.owed]
    exact spares
  refine ⟨?_, tuned_write draining.tuned mapping mode, fun waits => does _ (draining.facts waits)⟩
  change Flagged (air.monitor.wrote address value) _ _ _ _
  rw [same]
  exact draining.flagged

theorem draining_burst {owed : Owed} {facts : Radio → Prop} {air : Air}
    (draining : Draining owed facts air) (read : owed.waits = false) (address length : Byte) :
    Draining owed facts (air.answer (.burstRead address length)).2 := by
  have same (bytes : List Byte) : air.monitor.fetched bytes = air.monitor := by
    rw [Monitor.fetched, draining.flagged.owed]
    cases owed with
    | raised packet => cases read
    | located packet => cases read
    | buffered packet => rfl
    | nothing => rfl
  refine ⟨?_, ?_, fun waits => ?_⟩
  · change Flagged (air.monitor.fetched (air.radio.burst length).1) _ _ _ _
    rw [same]
    exact draining.flagged
  · exact tuned_burst draining.tuned length
  · rw [read] at waits
    cases waits

theorem draining_look {facts : Radio → Prop} {air : Air} (draining : Draining .nothing facts air)
    (address : Byte) : Draining .nothing facts (air.answer (.spiRead address)).2 := by
  rw [Air.answer, looked_other (.inr draining.flagged.owed)]
  exact draining

/-- Nothing is owed: whatever is read out, RxDone ends low. -/
theorem fetch_unowed (module : Module) (air : Air)
    (draining : Guarded (Draining .nothing fun _ => True) air) :
    (fetchPacket module).Yields (bus env) air fun result next =>
      result.loraSf = module.loraSf ∧
        Guarded (fun air => Draining .nothing (fun _ => True) air ∧ air.radio.rxDone = false)
          next := by
  have stable := nothing_stable env fun _ => True
  rw [fetchPacket]
  apply yields_seq (yields_read stable draining (by decide))
  intro addr air read
  have draining : Guarded (Draining .nothing fun _ => True) air := fun admitted =>
    (read admitted).2
  have pointer : (access (.spiWrite regFifoAddrPtr addr)).Yields (bus env) air fun _ next =>
      Guarded (Draining .nothing fun _ => True) next :=
    yields_access stable draining fun _ holds =>
      draining_write holds (by decide) (by decide) (Or.inl (by decide)) fun _ _ => trivial
  apply yields_seq pointer
  intro _ air draining
  have size : (receivedSize module).Yields (bus env) air fun _ next =>
      Guarded (Draining .nothing fun _ => True) next := by
    rw [receivedSize, yields_ite]
    refine ⟨fun _ => draining, fun _ => ?_⟩
    exact yields_access stable draining fun _ holds => draining_look holds _
  apply yields_seq size
  intro packetSize air draining
  have burst : (spiBurstRead regFifo Buffer.zero packetSize).Yields (bus env) air fun _ next =>
      Guarded (Draining .nothing fun _ => True) next := by
    rw [spiBurstRead, yields_ite]
    refine ⟨fun _ => draining, fun _ => ?_⟩
    have bytes : (access (.burstRead regFifo packetSize)).Yields (bus env) air fun _ next =>
        Guarded (Draining .nothing fun _ => True) next :=
      yields_access stable draining fun _ holds => draining_burst holds rfl _ _
    exact yields_seq bytes fun _ _ holds => holds
  apply yields_seq burst
  intro rxBuffer air draining
  have clear : clearLoRaIrq.Yields (bus env) air fun _ next =>
      Guarded (fun air => Draining .nothing (fun _ => True) air ∧ air.radio.rxDone = false) next :=
    yields_access stable draining fun _ holds =>
      ⟨draining_write holds (by decide) (by decide) (Or.inr rfl) fun _ _ => trivial,
        write_clear _⟩
  apply yields_seq clear
  intro _ air drained
  exact ⟨rfl, drained⟩

def Pointed (packet : Packet) (radio : Radio) : Prop :=
  radio.registers regFifoAddrPtr = packet.start ∧ Holds radio packet

theorem holds_pointed {radio : Radio} {packet : Packet} (holds : Holds radio packet) :
    Pointed packet (radio.write regFifoAddrPtr packet.start) := by
  refine ⟨write_same _ (by decide), ?_, ?_, ?_⟩
  · rw [write_other _ (by decide), holds.address]
  · rw [write_other _ (by decide), holds.count]
  · exact holds.bytes

/-- With its length read the packet is located. -/
theorem draining_located {packet : Packet} {air : Air}
    (draining : Draining (.raised packet) (Pointed packet) air) :
    Draining (.located packet) (Placed packet) (air.answer (.spiRead regRxNbBytes)).2 := by
  obtain ⟨pointer, holds⟩ := draining.facts rfl
  have flagged := draining.flagged
  have located :
      air.monitor.looked regRxNbBytes = { air.monitor with owed := .located packet } := by
    rw [Monitor.looked, if_pos rfl, flagged.owed]
  refine ⟨?_, draining.tuned, fun _ => ⟨pointer, holds.bytes⟩⟩
  change Flagged (air.monitor.looked regRxNbBytes) _ _ _ _
  have due := flagged.due
  rw [flagged.owed] at due
  rw [located]
  exact ⟨flagged.receiving, flagged.unread, flagged.armed, rfl, flagged.lost, due, flagged.ended⟩

theorem draining_taken {packet : Packet} {air : Air}
    (draining : Draining (.located packet) (Placed packet) air) (address : Byte) :
    let answered := air.answer (.burstRead address (BitVec.ofNat 8 packet.bytes.length))
    answered.1 = packet.bytes ∧ Draining (.buffered packet) (fun _ => True) answered.2 := by
  intro answered
  have placed := draining.facts rfl
  have flagged := draining.flagged
  have count := packet_size packet
  have burst : (air.radio.burst (BitVec.ofNat 8 packet.bytes.length)).1 = packet.bytes := by
    simp only [Radio.burst, count, placed.pointer]
    exact placed.bytes
  refine ⟨burst, ?_, tuned_burst draining.tuned _, fun _ => trivial⟩
  change Flagged (air.monitor.fetched (air.radio.burst _).1) _ _ _ _
  rw [burst, Monitor.fetched, flagged.owed]
  simp only [if_true]
  refine ⟨flagged.receiving, flagged.unread, flagged.armed, rfl, flagged.lost, ?_,
    flagged.ended⟩
  have due := flagged.due
  rw [flagged.owed] at due
  exact due

theorem burst_stores {packet : Packet} (long : 2 ≤ packet.bytes.length) (packetSize : Byte)
    (air : Air) (draining : Guarded (fun air =>
      packetSize = BitVec.ofNat 8 packet.bytes.length ∧
        Draining (.located packet) (Placed packet) air) air) :
    (spiBurstRead regFifo Buffer.zero packetSize).Yields (bus env) air fun buffer next =>
      Guarded (fun air => packetSize = BitVec.ofNat 8 packet.bytes.length ∧
        buffer.val.take packet.bytes.length = packet.bytes ∧
          Draining (.buffered packet) (fun _ => True) air) next := by
  have count := packet_size packet
  rw [spiBurstRead, yields_ite]
  constructor
  · intro tiny admitted
    obtain ⟨rfl, -⟩ := draining admitted
    rw [BitVec.le_def, count] at tiny
    have wide : (1 : Byte).toNat = 1 := rfl
    omega
  · intro _
    have bytes : (access (.burstRead regFifo packetSize)).Yields (bus env) air fun bytes next =>
        Guarded (fun air => packetSize = BitVec.ofNat 8 packet.bytes.length ∧
          bytes = packet.bytes ∧ Draining (.buffered packet) (fun _ => True) air) next := by
      refine yields_access (stable_and _ (located_stable env packet)) draining ?_
      intro air found
      obtain ⟨size, holds⟩ := found
      subst size
      exact ⟨rfl, draining_taken holds regFifo⟩
    apply yields_seq bytes
    intro bytes air taken admitted
    obtain ⟨size, rfl, drained⟩ := taken admitted
    have room : packet.bytes.length ≤ Buffer.zero.val.length := by
      rw [Buffer.zero.property]
      exact Nat.le_of_lt packet.short
    have stored : (Buffer.zero.copy packet.bytes packetSize.toNat).val.take packet.bytes.length =
        packet.bytes := by
      simp only [Buffer.copy, size, count]
      rw [copyInto_take _ _ _ room le_rfl, List.take_length]
    exact ⟨size, stored, drained⟩

/-- The owed packet is read into the buffer before the flags are cleared. -/
theorem fetch_owed (module : Module) (explicit : module.loraSf ≠ loraSf6) (packet : Packet)
    (long : 2 ≤ packet.bytes.length) (air : Air)
    (draining : Guarded (Draining (.raised packet) fun radio => Holds radio packet) air) :
    (fetchPacket module).Yields (bus env) air fun result next =>
      result.loraSf = module.loraSf ∧
        Guarded (fun air => Stored result (.buffered packet) ∧
          Draining (.buffered packet) (fun _ => True) air) next := by
  have stable := raised_stable env packet
  rw [fetchPacket]
  have address : (access (.spiRead regFifoRxCurrentaddr)).Yields (bus env) air fun addr next =>
      Guarded (fun air => addr = packet.start ∧
        Draining (.raised packet) (fun radio => Holds radio packet) air) next := by
    apply yields_mono (yields_read (stable _) draining (by decide))
    intro addr next read admitted
    obtain ⟨same, holds⟩ := read admitted
    exact ⟨same.trans (holds.facts rfl).address, holds⟩
  apply yields_seq address
  intro addr air located
  have pointer : (access (.spiWrite regFifoAddrPtr addr)).Yields (bus env) air fun _ next =>
      Guarded (Draining (.raised packet) (Pointed packet)) next := by
    refine yields_access (stable_and _ (stable _)) located ?_
    intro air found
    obtain ⟨rfl, holds⟩ := found
    exact draining_write holds (by decide) (by decide) (Or.inl (by decide)) fun _ =>
      holds_pointed
  apply yields_seq pointer
  intro _ air pointed
  have size : (receivedSize module).Yields (bus env) air fun size next =>
      Guarded (fun air => size = BitVec.ofNat 8 packet.bytes.length ∧
        Draining (.located packet) (Placed packet) air) next := by
    rw [receivedSize, if_neg explicit]
    exact yields_access (stable _) pointed fun _ holds =>
      ⟨(holds.facts rfl).2.count, draining_located holds⟩
  apply yields_seq size
  intro packetSize air sized
  apply yields_seq (burst_stores long packetSize air sized)
  intro rxBuffer air read
  have clear : clearLoRaIrq.Yields (bus env) air fun _ next =>
      Guarded (fun air => packetSize = BitVec.ofNat 8 packet.bytes.length ∧
        rxBuffer.val.take packet.bytes.length = packet.bytes ∧
          Draining (.buffered packet) (fun _ => True) air) next := by
    refine yields_access (stable_and _ (stable_and _ (buffered_stable env packet _))) read ?_
    intro air found
    obtain ⟨counted, stored, holds⟩ := found
    exact ⟨counted, stored,
      draining_write holds (by decide) (by decide) (Or.inr rfl) fun _ _ => trivial⟩
  apply yields_seq clear
  intro _ air drained
  refine ⟨rfl, fun admitted => ?_⟩
  obtain ⟨counted, stored, holds⟩ := drained admitted
  exact ⟨.buffered packet counted stored, holds⟩

variable (env) in
theorem rx_packet_unowed (module : Module) (air : Air)
    (draining : Guarded (Draining .nothing fun _ => True) air) :
    (loraRxPacket module).Yields (bus env) air fun result next =>
      result.1 = result.2.readBytes ∧ result.2.loraSf = module.loraSf ∧
        Guarded (fun air => Draining .nothing (fun _ => True) air ∧ air.radio.rxDone = false)
          next := by
  have raised : (access .getDio0).Yields (bus env) air fun reply next =>
      Guarded (fun air => Draining .nothing (fun _ => True) air ∧
        (reply = false → air.radio.rxDone = false)) next := by
    refine yields_access (nothing_stable env _) draining fun air holds => ⟨holds, ?_⟩
    exact (tuned_dio0 holds.tuned).symm.trans
  rw [loraRxPacket]
  apply yields_seq raised
  intro reply air known
  cases reply
  · exact ⟨rfl, rfl, fun admitted => ⟨(known admitted).1, (known admitted).2 rfl⟩⟩
  · apply yields_seq (fetch_unowed module air fun admitted => (known admitted).1)
    intro result air found
    obtain ⟨sf, fetched⟩ := found
    exact ⟨rfl, sf, fetched⟩

variable (env) in
theorem rx_packet_owed (module : Module) (explicit : module.loraSf ≠ loraSf6) (packet : Packet)
    (long : 2 ≤ packet.bytes.length) (air : Air)
    (draining : Guarded (Draining (.raised packet) fun radio =>
      radio.rxDone = true ∧ Holds radio packet) air) :
    (loraRxPacket module).Yields (bus env) air fun result next =>
      result.1 = result.2.readBytes ∧ result.2.loraSf = module.loraSf ∧
        Guarded (fun air => Stored result.2 (.buffered packet) ∧
          Draining (.buffered packet) (fun _ => True) air) next := by
  have raised : (access .getDio0).Yields (bus env) air fun reply next =>
      Guarded (fun air => reply = true ∧
        Draining (.raised packet) (fun radio => Holds radio packet) air) next := by
    refine yields_access (raised_stable env packet _) draining fun air holds => ⟨?_, ?_⟩
    · exact (tuned_dio0 holds.tuned).trans (holds.facts rfl).1
    · exact ⟨holds.flagged, holds.tuned, fun waits => (holds.facts waits).2⟩
  rw [loraRxPacket]
  apply yields_seq raised
  intro reply air high
  have fetching : Guarded (Draining (.raised packet) fun radio => Holds radio packet) air :=
    fun admitted => (high admitted).2
  cases reply
  · refine ⟨rfl, rfl, fun admitted => ?_⟩
    cases (high admitted).1
  · apply yields_seq (fetch_owed module explicit packet long air fetching)
    intro result air found
    obtain ⟨sf, fetched⟩ := found
    exact ⟨rfl, sf, fetched⟩

end Fetch

section Bench

variable {bench : Bench}

theorem receive_listens (env : Environment) (length : Byte) (spent : Guarded Spent bench.air) :
    let answered := drive env bench (.receive length)
    answered.1 = 1 ∧ answered.2.module.loraSf = bench.module.loraSf ∧
      Guarded (Listening .nothing) answered.2.air := by
  obtain ⟨started, sf, -, listening⟩ :=
    entry_rx_listens env bench.module length bench.air spent
  exact ⟨started, sf, listening⟩

def Bench.polled (env : Environment) (bench : Bench) : Air :=
  { bench.air.receive env with
    monitor := { (bench.air.receive env).monitor with receiving := true } }

theorem listening_polled {owed : Owed} (facts : Radio → Prop)
    (listening : Listening owed (bench.air.receive env))
    (known : owed.waits = true → facts (bench.air.receive env).radio) :
    Draining owed facts (bench.polled env) := by
  obtain ⟨⟨_, unread, armed, owes, lost, due, ended⟩, tuned, -⟩ := listening
  exact ⟨⟨rfl, unread, armed, owes, lost, due, ended⟩, tuned, known⟩

theorem flagged_returned {air : Air} {owed : Owed}
    (flagged : Flagged air.monitor true false true owed) (unread : Bool) :
    Flagged { air.monitor with receiving := false, unread := unread } false unread true owed :=
  ⟨rfl, rfl, flagged.armed, flagged.owed, flagged.lost, flagged.due, flagged.ended⟩

/-- `SX1278_available` reads out the packet that rests in the radio. -/
theorem available_fetches (explicit : bench.module.loraSf ≠ loraSf6) (owed : Owed)
    (heard : Heard owed bench.air)
    (admitted : (drive env bench .available).2.air.monitor.admitted = true) :
    let answered := drive env bench .available
    answered.2.module.loraSf = bench.module.loraSf ∧
      ((answered.1 = 0 ∧ owed = .nothing ∧ Listening .nothing answered.2.air) ∨
        (answered.1 ≠ 0 ∧ ∃ now, (∀ packet, owed = .raised packet → now = .buffered packet) ∧
          Fetched answered.2.module now answered.2.air)) := by
  intro answered
  have began : (bench.polled env).monitor.admitted = true :=
    (driver_follows env (available bench.module) (bench.polled env)).admitted admitted
  obtain ⟨now, listening, keeps⟩ := heard_stable env owed bench.air heard began
  cases listening.rests with
  | nothing low =>
      have idle : owed = .nothing := keeps.elim id Eq.symm
      obtain ⟨count, sf, drained⟩ := rx_packet_unowed env bench.module (bench.polled env)
        fun _ => listening_polled _ listening fun _ => trivial
      obtain ⟨draining, cleared⟩ := drained admitted
      have flagged : Flagged answered.2.air.monitor false (answered.2.module.readBytes != 0) true
          .nothing := flagged_returned draining.flagged _
      refine ⟨sf, ?_⟩
      by_cases empty : answered.2.module.readBytes = 0
      · rw [empty] at flagged
        exact Or.inl ⟨count.trans empty, idle, flagged, draining.tuned, .nothing cleared⟩
      · rw [bne_iff_ne.mpr empty] at flagged
        refine Or.inr ⟨fun zero => empty (count.symm.trans zero), .nothing, ?_, flagged, .nothing⟩
        intro packet raised
        rw [idle] at raised
        cases raised
  | raised packet high holds long =>
      obtain ⟨count, sf, drained⟩ := rx_packet_owed env bench.module explicit packet long
        (bench.polled env) fun _ => listening_polled _ listening fun _ => ⟨high, holds⟩
      obtain ⟨stored, draining⟩ := drained admitted
      have flagged : Flagged answered.2.air.monitor false (answered.2.module.readBytes != 0) true
          (.buffered packet) := flagged_returned draining.flagged _
      have size : answered.2.module.readBytes ≠ 0 := by
        cases stored with
        | buffered packet counted bytes =>
            intro zero
            have same := congrArg BitVec.toNat (counted.symm.trans zero)
            rw [packet_size packet] at same
            have none : (0 : Byte).toNat = 0 := rfl
            omega
      rw [bne_iff_ne.mpr size] at flagged
      refine ⟨sf, Or.inr ⟨fun zero => size (count.symm.trans zero), .buffered packet, ?_, flagged,
        stored⟩⟩
      intro other raised
      rcases keeps with idle | same
      · rw [idle] at raised
        cases raised
      · rw [raised] at same
        cases same
        rfl

structure Taken (received : ReadAnswer) (owed : Owed) (air : Air) : Prop where
  flagged : Flagged air.monitor false false false owed
  frame : owed = .nothing ∨
    ∃ packet, owed = .buffered packet ∧ received.frame.take received.count.toNat = packet.bytes

theorem read_takes (length : Byte) (owed : Owed) (fetched : Fetched bench.module owed bench.air)
    (admitted : (drive env bench (.read length)).2.air.monitor.admitted = true) :
    let answered := drive env bench (.read length)
    answered.2.module.loraSf = bench.module.loraSf ∧ Taken answered.1 owed answered.2.air := by
  intro answered
  obtain ⟨⟨receiving, -, -, owes, lost, due, ended⟩, stored⟩ :=
    fetched_stable env bench.module owed bench.air fetched admitted
  refine ⟨rfl, ⟨receiving, rfl, rfl, owes, lost, due, ended⟩, ?_⟩
  cases stored with
  | nothing => exact Or.inl rfl
  | buffered packet counted bytes =>
      refine Or.inr ⟨packet, rfl, ?_⟩
      have chosen : (if length ≠ bench.module.readBytes then bench.module.readBytes else length) =
          BitVec.ofNat 8 packet.bytes.length := by
        split_ifs with same
        · exact counted
        · exact (not_not.mp same).trans counted
      have copied := copyInto_take (List.replicate 256 0) bench.module.rxBuffer.val
        packet.bytes.length (by rw [List.length_replicate]; exact Nat.le_of_lt packet.short)
        (by rw [bench.module.rxBuffer.property]; exact Nat.le_of_lt packet.short)
      simp only [answered, drive, Sx1278.read, chosen, packet_size packet]
      rw [List.take_set_of_le le_rfl, copied, bytes]

/-- `NODE_STATE_HandleEvent` is given the packet the node owed an answer. -/
theorem took_spends {received : ReadAnswer} {owed : Owed} {air : Air}
    (taken : Taken received owed air) :
    let monitor := air.monitor.took (received.frame.take received.count.toNat)
    Flagged monitor false false false .nothing ∧
      monitor.handed = owed.packets ++ air.monitor.handed := by
  intro monitor
  obtain ⟨⟨receiving, unread, armed, owes, lost, due, ended⟩, frame⟩ := taken
  rcases frame with rfl | ⟨packet, rfl, same⟩
  · have kept : monitor = air.monitor := by
      simp only [monitor, Monitor.took, owes]
    rw [kept]
    exact ⟨⟨receiving, unread, armed, owes, lost, due, ended⟩, rfl⟩
  · have given : monitor = { air.monitor with
        owed := .nothing, handed := packet :: air.monitor.handed } := by
      simp only [monitor, Monitor.took, owes, same, if_true]
    rw [given]
    rw [owes] at due
    exact ⟨⟨receiving, unread, armed, rfl, lost, due, ended⟩, rfl⟩

end Bench

end LoraNode.Reception
