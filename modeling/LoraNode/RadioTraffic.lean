import LoraNode.RadioSettings

/-!
# What a session puts on the air

Any order of `SX1278_transmit`, `SX1278_receive`, `SX1278_available` and
`SX1278_read` after `SX1278_init`, with indices inside of the tables and frames of
two bytes or more, as the burst writes nothing of a shorter one. Every call that
returns 1 has sent its frame once, in order; one that returns 0 has sent it at most
once. Nothing else is sent, and the chip sends and listens with the settings of
`SX1278_init` only.
-/

namespace LoraNode.RadioChip

open LoraNode.Foundation LoraNode.Foundation.Bytes LoraNode.Foundation.Program
  LoraNode.Foundation.Interference LoraNode.Foundation.Preemption LoraNode.SpiMaster
  LoraNode.Sx1278 LoraNode.RadioBus

def Tuned (tuning : Tuning) (registers : Registers) : Prop :=
  ∀ address ∈ configured, registers address = settings tuning address

/-- A packet with these bytes, sent in LoRa mode with these settings. -/
structure Faithful (tuning : Tuning) (bytes : List Byte) (packet : Packet) : Prop where
  payload : packet.payload = bytes
  mode : packet.registers regOpMode = 0x8B
  tuned : Tuned tuning packet.registers

def Outcome (tuning : Tuning) (bytes : List Byte) (sent later : List Packet) (done : Bool) :
    Prop :=
  (∃ packet, Faithful tuning bytes packet ∧ later = sent ++ [packet]) ∨
    done = false ∧ later = sent

variable {sent : List Packet} {listened : List Registers}

section Transmit

theorem carries_faithful {module : Transceiver} {length base : Byte} {bytes : List Byte}
    {packet : Packet}
    (carries : Carries (primed (tuning module) length base sent listened) bytes packet) :
    Faithful (tuning module) bytes packet := by
  refine ⟨carries.payload, carries.mode, ?_⟩
  intro address member
  have done : address ∈ regFifoTxBaseAddr :: regPayloadLength :: regDioMapping1 :: configured :=
    List.mem_cons_of_mem _ (List.mem_cons_of_mem _ (List.mem_cons_of_mem _ member))
  rw [carries.done address done]
  exact target_settings (tuning module) length base member

def Transmitted (module : Transceiver) (bytes : List Byte) (sent : List Packet)
    (listened : List Registers) (result : Bool × Transceiver) (modem : Modem) : Prop :=
  tuning result.2 = tuning module ∧ ∃ later, Outcome (tuning module) bytes sent later result.1 ∧
    Configured result.2 0 0 later listened modem

theorem transmitted_stable (module : Transceiver) (bytes : List Byte)
    (result : Bool × Transceiver) :
    Stable chipSetting (Transmitted module bytes sent listened result) :=
  stable_and (stable_fact _) (stable_exists fun _ =>
    stable_and (stable_fact _) (stands_stable _))

variable (module : Transceiver) (bytes : List Byte)

/-- TxDone has come: the flags are cleared and the chip stands by. -/
theorem sent_stands {module' : Transceiver} (same : tuning module' = tuning module)
    (length base : Byte) :
    Triple chipSetting proper (Landed (primed (tuning module) length base sent listened) bytes)
      (do
        let _ ← spiRead regIrqFlags
        Sx1278.bus clearLoRaIrq
        let module ← standbyTransceiver module'
        return (true, module))
      (Transmitted module bytes sent listened) := by
  apply triple_exists
  intro packet
  apply triple_fact
  intro carries
  apply triple_seq (read_stands rfl (by decide))
  intro _
  apply triple_fact
  intro _
  apply triple_seq clear_stands
  intro _
  apply triple_seq (transceiver_stands module' _ (.inr (.inl rfl)))
  intro after
  apply triple_fact
  intro stood
  refine triple_pure (transmitted_stable module bytes _) ?_
  intro modem holds
  have kept : tuning after = tuning module := by
    rw [stood]
    exact same
  have done (address : Byte) (member : address ∈ configured) :
      address ∈ regFifoTxBaseAddr :: regPayloadLength :: regDioMapping1 :: configured :=
    List.mem_cons_of_mem _ (List.mem_cons_of_mem _ (List.mem_cons_of_mem _ member))
  refine ⟨kept, sent ++ [packet], .inl ⟨packet, carries_faithful carries, rfl⟩, ?_⟩
  exact configured_again holds rfl rfl done kept 0 0

/-- The timeout is used up; the packet may be out all the same. -/
theorem unsent_stands {module' : Transceiver} (same : tuning module' = tuning module)
    (length base : Byte) {assertion : Modem → Prop} (stable : Stable chipSetting assertion)
    (aloft : ∀ modem, assertion modem →
      Aloft (primed (tuning module) length base sent listened) bytes modem) :
    Triple chipSetting proper assertion (giveUp module')
      (Transmitted module bytes sent listened) := by
  have known (modem : Modem) (holds : assertion modem) :
      Outcome (tuning module) bytes sent modem.sent false ∧ modem.listened = listened := by
    obtain ⟨packet, carries, flying | landed⟩ := aloft modem holds
    · exact ⟨.inr ⟨rfl, flying.sent⟩, flying.listened⟩
    · exact ⟨.inl ⟨packet, carries_faithful carries, landed.silent.sent⟩, landed.silent.listened⟩
  have gives : Triple chipSetting proper assertion (giveUp module') fun result modem =>
      (result.1 = false ∧ tuning result.2 = tuning module') ∧ ∃ later,
        Outcome (tuning module) bytes sent later false ∧
          Configured result.2 0 0 later listened modem :=
    giveUp_configures module' 0 0 stable known
  apply triple_mono gives fun _ holds => holds
  intro result modem holds
  obtain ⟨⟨failed, kept⟩, later, outcome, configured⟩ := holds
  rw [← failed] at outcome
  exact ⟨kept.trans same, later, outcome, configured⟩

/-- The burst to the FIFO and the switch to TX. -/
theorem loraTxPacket_sends (module' : Transceiver) (same : tuning module' = tuning module)
    (long : 2 ≤ bytes.length) (short : bytes.length < 256) (base : Byte) (timeout : BitVec 32) :
    Triple chipSetting proper
      (Loaded (primed (tuning module) (BitVec.ofNat 8 bytes.length) base sent listened) base [])
      (loraTxPacket module' bytes (BitVec.ofNat 8 bytes.length) timeout)
      (Transmitted module bytes sent listened) := by
  have size : (BitVec.ofNat 8 bytes.length).toNat = bytes.length := by
    rw [BitVec.toNat_ofNat]
    exact Nat.mod_eq_of_lt short
  have ready : Primed (primed (tuning module) (BitVec.ofNat 8 bytes.length) base sent listened)
      base bytes := primed_primed (tuning module) base short
  have pointer : regFifoAddrPtr ∉
      regFifoTxBaseAddr :: regPayloadLength :: regDioMapping1 :: configured := by decide
  have calm : Calm 0x89 := by decide
  have burst : Triple chipSetting proper
      (Loaded (primed (tuning module) (BitVec.ofNat 8 bytes.length) base sent listened) base [])
      (spiBurstWrite regFifo bytes (BitVec.ofNat 8 bytes.length))
      fun _ => Loaded (primed (tuning module) (BitVec.ofNat 8 bytes.length) base sent listened)
        base bytes := by
    apply triple_ite
    · intro tiny
      have tiny : (BitVec.ofNat 8 bytes.length).toNat ≤ 1 := tiny
      omega
    · intro _
      rw [size, List.take_length]
      exact burst_fills calm pointer short
  rw [loraTxPacket]
  apply triple_seq burst
  intro _
  apply triple_seq (tx_starts ready)
  intro _
  apply triple_seq (awaitTxDone_polls ready (rounds timeout))
  intro inTime
  apply triple_ite
  · intro done
    apply triple_pre _ fun modem holds => holds.2 done
    exact sent_stands module bytes same _ base
  · intro _
    apply unsent_stands module bytes same _ base
    · exact stable_and (aloft_stable _ _) (stable_imp (landed_stable _ _))
    · exact fun modem holds => holds.1

theorem transmit_sends (long : 2 ≤ bytes.length) (short : bytes.length < 256)
    (timeout : BitVec 32) :
    Triple chipSetting proper (Silent sent listened)
      (transmit module bytes (BitVec.ofNat 8 bytes.length) timeout)
      (Transmitted module bytes sent listened) := by
  rw [transmit]
  apply triple_seq (loraEntryTx_enters module (BitVec.ofNat 8 bytes.length) timeout)
  intro result
  obtain ⟨entered, module'⟩ := result
  apply triple_fact
  intro same
  cases entered with
  | true =>
      apply triple_exists
      intro base
      exact loraTxPacket_sends module bytes module' same long short base timeout
  | false =>
      refine triple_pure (transmitted_stable module bytes _) ?_
      intro modem configured
      refine ⟨same, sent, .inr ⟨rfl, rfl⟩, ?_⟩
      exact configured_again configured rfl rfl (fun _ member => member) rfl 0 0

end Transmit

section Receive

def Between (tuning : Tuning) (sent : List Packet) (listened : List Registers) (modem : Modem) :
    Prop :=
  ∃ mode, (mode = 0x89 ∨ mode = 0x8D) ∧
    Stands (stageOf tuning 0 0 mode configured sent listened) modem

theorem between_stable (tuning : Tuning) (sent : List Packet) (listened : List Registers) :
    Stable chipSetting (Between tuning sent listened) :=
  stable_exists fun _ => stable_and (stable_fact _) (stands_stable _)

def Listens (tuning : Tuning) (registers : Registers) : Prop :=
  Tuned tuning registers ∧ registers regOpMode = 0x8D

theorem rx_starts (tuning : Tuning) (cleared : Bool) :
    Triple chipSetting proper
      (Stands { stageOf tuning 0 0 0x89 configured sent listened with cleared := cleared })
      (spiWrite regOpMode 0x8D)
      fun _ modem => ∃ registers, Listens tuning registers ∧
        Between tuning sent (listened ++ [registers]) modem := by
  apply triple_perform (stands_stable _)
  · exact fun _ => stable_exists fun _ => stable_and (stable_fact _) (between_stable _ _ _)
  · exact fun _ _ => rfl
  · intro modem _ next holds answered
    have answered : next =
        (modem.put regOpMode (RadioMode.store (modem.registers regOpMode) 0x8D)).enter := answered
    have before : modem.registers regOpMode = 0x89 := holds.mode
    have stored : RadioMode.store (modem.registers regOpMode) 0x8D = 0x8D := by
      rw [before]
      rfl
    have mode : (modem.put regOpMode 0x8D).registers regOpMode = 0x8D := put_same
    have other : (modem.put regOpMode 0x8D).mode ≠ 0x03 := by
      rw [Modem.mode, mode]
      decide
    have listens : (modem.put regOpMode 0x8D).mode = 0x05 := by
      rw [Modem.mode, mode]
      rfl
    rw [stored, Modem.enter, if_neg other, if_pos listens] at answered
    have done (address : Byte) (member : address ∈ configured) :
        (modem.put regOpMode 0x8D).registers address = target tuning 0 0 address := by
      have differs := Ne.symm (firm_other (holds.firm address member)).1
      rw [put_other differs]
      exact holds.done address member
    have tuned : Tuned tuning (modem.put regOpMode 0x8D).registers := by
      intro address member
      rw [done address member]
      exact target_settings tuning 0 0 member
    rw [answered]
    refine ⟨_, ⟨tuned, mode⟩, 0x8D, .inr rfl, ?_⟩
    refine ⟨⟨rfl, holds.silent.sent, ?_⟩, mode, holds.firm, done,
      fun given => absurd given Bool.false_ne_true⟩
    exact congrArg (· ++ [_]) holds.silent.listened

/-- A register that is not one of the settings. -/
theorem write_free {stage : Stage} {address value : Byte} (free : address ∉ configured)
    (firm : Firm address) (seven : address.msb = false) (done : stage.done = configured) :
    Triple chipSetting proper (Stands stage) (spiWrite address value) fun _ => Stands stage := by
  apply write_loose firm seven
  rw [done]
  exact free

theorem receive_listens (tuning : Tuning) (module : Module) (length : Byte) :
    Triple chipSetting proper (Between tuning sent listened) (Sx1278.bus (receive module length))
      fun result modem => result.2.loraSf = module.loraSf ∧ ∃ registers, Listens tuning registers ∧
        Between tuning sent (listened ++ [registers]) modem := by
  apply triple_exists
  intro mode
  apply triple_fact
  intro between
  rw [receive, loraEntryRx]
  apply bus_seq (standby_stands _ _ (.inr between))
  intro stood
  apply triple_fact
  intro same
  apply bus_seq (write_free (by decide) (by decide) rfl (by rfl))
  intro _
  apply bus_seq (write_free (by decide) (by decide) rfl (by rfl))
  intro _
  apply bus_seq (write_free (by decide) (by decide) rfl (by rfl))
  intro _
  apply bus_seq (write_free (by decide) (by decide) rfl (by rfl))
  intro _
  apply bus_seq clear_stands
  intro _
  apply bus_seq (write_free (by decide) (by decide) rfl (by rfl))
  intro _
  apply bus_seq (read_stands rfl (by decide))
  intro addr
  apply triple_fact
  intro _
  apply bus_seq (write_free (by decide) (by decide) rfl (by rfl))
  intro _
  apply bus_seq (rx_starts tuning true)
  intro _
  refine triple_pure ?_ ?_
  · exact stable_and (stable_fact _) (stable_exists fun _ =>
      stable_and (stable_fact _) (between_stable _ _ _))
  · intro modem holds
    refine ⟨?_, holds⟩
    rw [same]

theorem burst_keeps {stage : Stage} (loose : regFifoAddrPtr ∉ stage.done) (buffer : Buffer)
    (length : Byte) :
    Triple chipSetting proper (Stands stage)
      (Sx1278.bus (Sx1278.spiBurstRead regFifo buffer length)) fun _ => Stands stage := by
  rw [Sx1278.spiBurstRead]
  have reads : Triple chipSetting proper (Stands stage)
      (Sx1278.bus (access (.burstRead regFifo length))) fun _ => Stands stage := by
    apply triple_perform (stands_stable stage) fun _ => stands_stable stage
    · exact fun _ _ => rfl
    · intro modem _ next holds answered
      obtain ⟨_, last, burst⟩ := answered
      exact (burst_drains burst holds loose).2
  split_ifs
  · exact triple_pure (stands_stable stage) fun _ holds => holds
  · apply bus_seq reads
    intro bytes
    exact triple_pure (stands_stable stage) fun _ holds => holds

theorem fetchPacket_keeps (tuning : Tuning) (mode : Byte) (module : Module) :
    Triple chipSetting proper (Stands (stageOf tuning 0 0 mode configured sent listened))
      (Sx1278.bus (fetchPacket module)) fun after modem => after.loraSf = module.loraSf ∧
        Stands (stageOf tuning 0 0 mode configured sent listened) modem := by
  have pointer : regFifoAddrPtr ∉ configured := by decide
  have size : Triple chipSetting proper (Stands (stageOf tuning 0 0 mode configured sent listened))
      (Sx1278.bus (receivedSize module))
      fun _ => Stands (stageOf tuning 0 0 mode configured sent listened) := by
    rw [receivedSize]
    split_ifs
    · exact triple_pure (stands_stable _) fun _ holds => holds
    · apply triple_mono (read_stands rfl (by decide)) fun _ holds => holds
      exact fun _ _ holds => holds.2
  rw [fetchPacket]
  apply bus_seq (read_stands rfl (by decide))
  intro addr
  apply triple_fact
  intro _
  apply bus_seq (write_loose (by decide) rfl pointer)
  intro _
  apply bus_seq size
  intro packetSize
  apply bus_seq (burst_keeps pointer Buffer.zero packetSize)
  intro rxBuffer
  apply bus_seq clear_stands
  intro _
  refine triple_pure (stable_and (stable_fact _) (stands_stable _)) ?_
  intro modem holds
  have open' : false = true → true = true := fun _ => rfl
  exact ⟨rfl, stands_weaken holds rfl (fun _ member => member) open'⟩

theorem available_keeps (tuning : Tuning) (module : Module) :
    Triple chipSetting proper (Between tuning sent listened) (Sx1278.bus (available module))
      fun result modem => result.2.loraSf = module.loraSf ∧
        Between tuning sent listened modem := by
  have stable (result : Byte × Module) : Stable chipSetting fun modem =>
      result.2.loraSf = module.loraSf ∧ Between tuning sent listened modem :=
    stable_and (stable_fact _) (between_stable tuning sent listened)
  apply triple_exists
  intro mode
  apply triple_fact
  intro between
  rw [available, loraRxPacket]
  apply bus_seq dio0_stands
  intro raised
  cases raised with
  | true =>
      apply bus_seq (fetchPacket_keeps tuning mode module)
      intro after
      apply triple_fact
      intro same
      exact triple_pure (stable _) fun _ holds => ⟨same, mode, between, holds⟩
  | false => exact triple_pure (stable _) fun _ holds => ⟨rfl, mode, between, holds⟩

end Receive

section Session

/-- A frame of a length that the bursts carry. -/
structure Payload where
  bytes : List Byte
  long : 2 ≤ bytes.length
  short : bytes.length < 256

inductive Operation where
  | transmit (payload : Payload) (timeout : BitVec 32)
  | receive (length : Byte)
  | available
  | read (length : Byte)

def operate (module : Transceiver) : List Operation → Transmitter (List (Payload × Bool))
  | [] => return []
  | .transmit payload timeout :: later => do
      let (worked, module) ← transmit module payload.bytes
        (BitVec.ofNat 8 payload.bytes.length) timeout
      let outcomes ← operate module later
      return (payload, worked) :: outcomes
  | .receive length :: later => do
      let (_, inner) ← Sx1278.bus (receive module.toModule length)
      operate { module with toModule := inner } later
  | .available :: later => do
      let (_, inner) ← Sx1278.bus (available module.toModule)
      operate { module with toModule := inner } later
  | .read length :: later =>
      operate { module with toModule := (Sx1278.read module.toModule length).2 } later

def session (module : Transceiver) (settings : Settings) (operations : List Operation) :
    Transmitter (List (Payload × Bool)) := do
  let module ← init module settings
  operate module operations

/-- The packets on the air are those of the calls: once each when the call returned 1, at
most once otherwise. -/
inductive Accounts (tuning : Tuning) : List (Payload × Bool) → List Packet → Prop where
  | nothing : Accounts tuning [] []
  | sent (payload : Payload) (worked : Bool) (packet : Packet) (outcomes : List (Payload × Bool))
      (packets : List Packet) (faithful : Faithful tuning payload.bytes packet)
      (later : Accounts tuning outcomes packets) :
      Accounts tuning ((payload, worked) :: outcomes) (packet :: packets)
  | unsent (payload : Payload) (outcomes : List (Payload × Bool)) (packets : List Packet)
      (later : Accounts tuning outcomes packets) :
      Accounts tuning ((payload, false) :: outcomes) packets

def Aired (tuning : Tuning) (sent : List Packet) (listened : List Registers)
    (outcomes : List (Payload × Bool)) (modem : Modem) : Prop :=
  ∃ packets begun, (Accounts tuning outcomes packets ∧
    ∀ registers ∈ begun, Listens tuning registers) ∧
      Silent (sent ++ packets) (listened ++ begun) modem

theorem aired_stable (tuning : Tuning) (outcomes : List (Payload × Bool)) :
    Stable chipSetting (Aired tuning sent listened outcomes) :=
  stable_exists fun _ => stable_exists fun _ => stable_and (stable_fact _) silent_stable

theorem tuning_kept {module : Transceiver} {inner : Module}
    (same : inner.loraSf = module.loraSf) :
    tuning { module with toModule := inner } = tuning module :=
  congrArg (fun factor => { tuning module with loraSf := factor }) same

/-- One transmission before the others. -/
theorem aired_sent {tuning : Tuning} {payload : Payload} {worked : Bool} {later : List Packet}
    {outcomes : List (Payload × Bool)} {modem : Modem}
    (outcome : Outcome tuning payload.bytes sent later worked)
    (aired : Aired tuning later listened outcomes modem) :
    Aired tuning sent listened ((payload, worked) :: outcomes) modem := by
  obtain ⟨packets, begun, ⟨accounts, listens⟩, silent⟩ := aired
  rcases outcome with ⟨packet, faithful, rfl⟩ | ⟨rfl, rfl⟩
  · refine ⟨packet :: packets, begun, ⟨?_, listens⟩, ?_⟩
    · exact .sent payload worked packet outcomes packets faithful accounts
    · rw [List.append_assoc] at silent
      exact silent
  · exact ⟨packets, begun, ⟨.unsent payload outcomes packets accounts, listens⟩, silent⟩

theorem aired_listened {tuning : Tuning} {registers : Registers}
    {outcomes : List (Payload × Bool)} {modem : Modem} (listens : Listens tuning registers)
    (aired : Aired tuning sent (listened ++ [registers]) outcomes modem) :
    Aired tuning sent listened outcomes modem := by
  obtain ⟨packets, begun, ⟨accounts, all⟩, silent⟩ := aired
  rw [List.append_assoc] at silent
  refine ⟨packets, registers :: begun, ⟨accounts, ?_⟩, silent⟩
  intro other member
  rcases List.mem_cons.mp member with rfl | member
  · exact listens
  · exact all other member

theorem operate_airs (operations : List Operation) (module : Transceiver) (sent : List Packet)
    (listened : List Registers) :
    Triple chipSetting proper (Between (tuning module) sent listened) (operate module operations)
      (Aired (tuning module) sent listened) := by
  induction operations generalizing module sent listened with
  | nil =>
      refine triple_pure (aired_stable _ _) ?_
      intro modem holds
      obtain ⟨mode, _, stands⟩ := holds
      refine ⟨[], [], ⟨.nothing, nofun⟩, ?_⟩
      rw [List.append_nil, List.append_nil]
      exact stands.silent
  | cons operation later induction =>
      cases operation with
      | transmit payload timeout =>
          have silent (modem : Modem) (holds : Between (tuning module) sent listened modem) :
              Silent sent listened modem := by
            obtain ⟨mode, _, stands⟩ := holds
            exact stands.silent
          have sends : Triple chipSetting proper (Between (tuning module) sent listened) _ _ :=
            triple_pre (transmit_sends module payload.bytes payload.long payload.short timeout)
              silent
          rw [operate]
          apply triple_seq sends
          intro result
          apply triple_fact
          intro same
          apply triple_exists
          intro aired
          apply triple_fact
          intro outcome
          have next := induction result.2 aired listened
          rw [same] at next
          have stands (modem : Modem) (holds : Configured result.2 0 0 aired listened modem) :
              Between (tuning module) aired listened modem :=
            ⟨0x89, .inl rfl, same ▸ holds⟩
          apply triple_seq (triple_pre next stands)
          intro outcomes
          refine triple_pure (aired_stable _ _) ?_
          exact fun _ holds => aired_sent outcome holds
      | receive length =>
          rw [operate]
          apply triple_seq (receive_listens (tuning module) module.toModule length)
          intro result
          apply triple_fact
          intro same
          apply triple_exists
          intro registers
          apply triple_fact
          intro listens
          have next := induction { module with toModule := result.2 } sent (listened ++ [registers])
          rw [tuning_kept same] at next
          exact triple_mono next (fun _ holds => holds) fun _ _ => aired_listened listens
      | available =>
          rw [operate]
          apply triple_seq (available_keeps (tuning module) module.toModule)
          intro result
          apply triple_fact
          intro same
          have next := induction { module with toModule := result.2 } sent listened
          rw [tuning_kept same] at next
          exact next
      | read length =>
          exact induction { module with toModule := (Sx1278.read module.toModule length).2 } sent
            listened

theorem session_airs (module : Transceiver) (settings : Settings) (operations : List Operation) :
    Triple chipSetting proper (Silent sent listened) (session module settings operations)
      (Aired (tuning (module.set settings)) sent listened) := by
  apply triple_seq (init_configures module settings 0 0)
  intro after
  apply triple_fact
  intro same
  have next := operate_airs operations after sent listened
  rw [same] at next
  apply triple_pre next
  intro modem holds
  exact ⟨0x89, .inl rfl, same ▸ holds⟩

theorem accounts_tuned {tuning : Tuning} {outcomes : List (Payload × Bool)}
    {packets : List Packet} (accounts : Accounts tuning outcomes packets) :
    ∀ packet ∈ packets, Tuned tuning packet.registers := by
  induction accounts with
  | nothing => exact List.forall_mem_nil _
  | sent payload worked packet outcomes packets faithful later induction =>
      exact List.forall_mem_cons.mpr ⟨faithful.tuned, induction⟩
  | unsent payload outcomes packets later induction => exact induction

/-- Whatever was sent since, or listened with, means the settings. -/
def Meant (tuning : Tuning) (sent : List Packet) (listened : List Registers) (modem : Modem) :
    Prop :=
  (∀ packet ∈ modem.sent.drop sent.length, Means tuning packet.registers) ∧
    ∀ registers ∈ modem.listened.drop listened.length, Means tuning registers

theorem aired_meant {tuning : Tuning} (range : InRange tuning) {outcomes : List (Payload × Bool)}
    {modem : Modem} (aired : Aired tuning sent listened outcomes modem) :
    Meant tuning sent listened modem := by
  obtain ⟨packets, begun, ⟨accounts, listens⟩, silent⟩ := aired
  constructor
  · rw [silent.sent, List.drop_left]
    exact fun packet member => settings_mean range (accounts_tuned accounts packet member)
  · rw [silent.listened, List.drop_left]
    exact fun registers member => settings_mean range (listens registers member).1

/-- In every interleaving with the interrupt handler of SERCOM1. -/
theorem session_on_board (module : Transceiver) (settings : Settings)
    (indexed : Indexed (tuning (module.set settings))) (operations : List Operation)
    (rounds : Nat) (discard : Byte) (enough : 2 < rounds) (port : Port (Frame × Modem))
    (idle : Idle port) (released : port.chip.1 = .released)
    (quiet : port.chip.2.sending = none)
    {reached : Configuration (TaskCall Pins) Access (Port (Frame × Modem))
      (Option (List (Payload × Bool)))}
    (moves : Moves (pins (radio modemDevice)) (sercom (radio modemDevice)) interruptHandler
      Port.requests ⟨onBoard rounds discard (session module settings operations), none, port⟩
      reached) :
    reached.Shown careful sound (Returned fun outcomes modem =>
      Aired (tuning (module.set settings)) port.chip.2.sent port.chip.2.listened outcomes modem ∧
        (settings.frequency.toNat < 1024000000 →
          Meant (tuning (module.set settings)) port.chip.2.sent port.chip.2.listened modem)) := by
  have shown := board_shown (board_returns modemDevice (session_airs module settings operations)
    discard enough idle released ⟨quiet, rfl, rfl⟩) moves
  apply shown_mono shown fun _ _ guarded => guarded
  intro answer after returned outcomes same
  obtain ⟨idle, released, aired⟩ := returned outcomes same
  exact ⟨idle, released, aired, fun fits => aired_meant ⟨indexed, fits⟩ aired⟩

section Machine

def promptModem : PromptDevice modemDevice where
  read modem address :=
    if address = regFifo then
      (modem.fifo (modem.registers regFifoAddrPtr),
        modem.put regFifoAddrPtr (modem.registers regFifoAddrPtr + 1))
    else (modem.registers address, modem)
  write := Modem.write
  drift modem := modem.sending.map modem.complete
  reset modem high :=
    if high then modem else { modem.put regOpMode 0x09 with sending := none }
  raise := Modem.txDone
  reads := by
    intro modem address
    change if address = regFifo then _ else _
    split_ifs with fifo
    · exact ⟨rfl, rfl⟩
    · exact ⟨rfl, rfl⟩
  writes _ _ _ := rfl
  drifts := by
    intro modem next moved
    obtain ⟨packet, sending, rfl⟩ := Option.map_eq_some_iff.mp moved
    exact .txDone modem packet sending
  resets := by
    intro modem high
    cases high with
    | true => rfl
    | false =>
        have mode : (modem.put regOpMode 0x09).registers regOpMode = 0x09 := put_same
        exact ⟨mode, rfl, rfl, rfl⟩
  raises _ _ := rfl

def unusedModem : Modem := ⟨fun _ => 0, fun _ => 0, none, [], []⟩

def nodeSettings : Settings := ⟨433000000, 1, 1, 7, 0, 0, 20⟩

def threeBytes : Payload := ⟨[1, 2, 3], by decide, by decide⟩

def oneUplink : List Operation :=
  [.transmit threeBytes 3000, .receive 255, .available, .read 255]

def uplinkStart : Port (Frame × Modem) := unusedPort (.released, unusedModem)

def uplinkRun : Option (List (Payload × Bool)) × Port (Frame × Modem) :=
  (onBoard 3 0 (session nodeTransceiver nodeSettings oneUplink)).simulate
    (promptly promptModem.slave.serve promptModem.slave.turn 100) uplinkStart

theorem session_on_board_once :
    Moves (pins (radio modemDevice)) (sercom (radio modemDevice)) interruptHandler Port.requests
      ⟨onBoard 3 0 (session nodeTransceiver nodeSettings oneUplink), none, uplinkStart⟩
      ⟨.done uplinkRun.1, none, uplinkRun.2⟩ ∧
    uplinkRun.1.map (List.map Prod.snd) = some [true] ∧
    uplinkRun.2.chip.2.sent.map Packet.payload = [[1, 2, 3]] ∧
    ∃ outcomes, uplinkRun.1 = some outcomes ∧
      Aired (tuning (nodeTransceiver.set nodeSettings)) [] [] outcomes uplinkRun.2.chip.2 ∧
      Meant (tuning (nodeTransceiver.set nodeSettings)) [] [] uplinkRun.2.chip.2 := by
  have moves := task_moves promptModem.slave 100
    (onBoard 3 0 (session nodeTransceiver nodeSettings oneUplink)) uplinkStart
  have ends : uplinkRun.1.map (List.map Prod.snd) = some [true] ∧
      uplinkRun.2.chip.2.sent.map Packet.payload = [[1, 2, 3]] := by decide +kernel
  have shown := session_on_board nodeTransceiver nodeSettings
    ⟨by decide, by decide, by decide, by decide, by decide⟩ oneUplink 3 0 (by decide) uplinkStart
    (unusedPort_idle _) rfl rfl moves
  obtain ⟨outcomes, result, _⟩ := Option.map_eq_some_iff.mp ends.1
  obtain ⟨_, _, aired, meant⟩ := shown outcomes result
  exact ⟨moves, ends.1, ends.2, outcomes, result, aired, meant (by decide)⟩

end Machine

end Session

end LoraNode.RadioChip
