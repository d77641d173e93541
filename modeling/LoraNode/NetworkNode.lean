import LoraNode.AppCalls
import LoraNode.Network

/-!
# One node on the channel

What a node promises the others: frame number `n` carries the number `n`, and a
cycle completes only if the gateway has accepted a frame of that node under the
number of the cycle. Each function of the application keeps count of both.
-/

namespace LoraNode.Network

open LoraNode.Foundation LoraNode.Foundation.Program LoraNode.Foundation.Bytes
  LoraNode.Foundation.Interference LoraNode.Foundation.Parallel LoraNode.NodePacket
  LoraNode.NodeResponse LoraNode.NodeState LoraNode.CycleAccounting LoraNode.LoraApp
  LoraNode.AppTrace LoraNode.AppLoop

variable {Node : Type}

/-- Where an uplink comes from: the frame with this number. -/
def Uplink (world : World Node) (node : Node) (number : Nat) (packet : Message) : Prop :=
  ∃ frame, (world.frames node)[number]? = some frame ∧ Reads frame packet

/-- The gateway has accepted an uplink that the node numbers like this cycle. -/
def Delivered (world : World Node) (node : Node) (cycle : Nat) : Prop :=
  ∃ number packet, number ≤ cycle ∧ number ≡ cycle [MOD 65536] ∧
    Uplink world node number packet ∧ packet ∈ world.accepted

def Acknowledges (bytes : List Byte) (world : World Node) : Prop :=
  ∀ ack, Reads bytes ack → ack.type = .ack → ∃ packet ∈ world.accepted,
    packet.source = ack.destination ∧ packet.transactionId = ack.transactionId ∧
      packet.sequence = ack.sequence

inductive Origin (world : World Node) (frame : List Byte) (packet : Message) : Prop where
  | uplink (node : Node) (member : frame ∈ world.frames node)
  | ack (type : packet.type = .ack) (acknowledges : Acknowledges frame world)
  | poll (type : packet.type = .poll)

structure Sound (config : Node → AppConfig) (world : World Node) : Prop where
  paced : ∀ node, (world.frames node).length = (world.endings node).length ∨
    (world.frames node).length = (world.endings node).length + 1
  numbered : ∀ node number frame, (world.frames node)[number]? = some frame →
    Carries (config node) number frame
  aired : ∀ frame ∈ world.air, ∀ packet, Reads frame packet → Origin world frame packet
  taken : ∀ packet ∈ world.accepted, ∃ node number, Uplink world node number packet
  completed : ∀ node cycle action, (world.endings node)[cycle]? = some action →
    action.type = .transactionComplete → Delivered world node cycle

structure Counted (node : Node) (ended sent : Nat) (world : World Node) : Prop where
  endings : (world.endings node).length = ended
  frames : (world.frames node).length = sent

variable (config : Node → AppConfig)

def Holds (node : Node) (state : AppState) (world : World Node) : Prop :=
  state.loraReady = true → ∃ ended, Ready (config node) ended state ∧
    ((state.nodeContext.state = .waitInterval ∧ Counted node ended ended world) ∨
      (state.nodeContext.state = .waitAck ∧ Counted node ended (ended + 1) world))

def promises (node : Node) : Guard Call (World Node) := fun call world =>
  match call with
  | .transmit frame length _ => (world.frames node).length = (world.endings node).length ∧
      Carries (config node) (world.frames node).length (frame.take length.toNat)
  | .handled _ result => result.action.type.terminal = true →
      (world.frames node).length = (world.endings node).length + 1 ∧
        (result.action.type = .transactionComplete →
          Delivered world node (world.endings node).length)
  | _ => True

/-- Others show nothing for a node and the gateway forgets nothing. -/
def relies (node : Node) (world next : World Node) : Prop :=
  next.shown node = world.shown node ∧ ∀ packet ∈ world.accepted, packet ∈ next.accepted

def contract : Contract Node (World Node) Call AppState where
  invariant := Sound config
  relies := relies
  promises := promises config
  holds := Holds config

structure Keeps (node : Node) (world next : World Node) : Prop where
  endings : next.endings node = world.endings node
  frames : next.frames node = world.frames node
  accepted : ∀ packet ∈ world.accepted, packet ∈ next.accepted

def Lasting (node : Node) (assertion : World Node → Prop) : Prop :=
  ∀ world next, assertion world → Keeps node world next → assertion next

section Marks

variable {Reply : Type}

theorem endings_append (first second : List Mark) :
    endings (first ++ second) = endings first ++ endings second := List.filterMap_append

def Quiet {Reply : Type} : Call Reply → Prop
  | .transmit _ _ _ => False
  | .handled _ _ => False
  | _ => True

theorem quiet_marks {call : Call Reply} (quiet : Quiet call) (answer : Reply) :
    sends (markOf call answer).toList = [] ∧ endings (markOf call answer).toList = [] := by
  cases call with
  | transmit frame length timeoutMs => exact quiet.elim
  | handled event result => exact quiet.elim
  | sleep intervalMs => exact ⟨rfl, rfl⟩
  | _ => exact ⟨rfl, rfl⟩

theorem answered_next [DecidableEq Node] {config : Node → AppConfig} {node : Node}
    {call : Call Reply} {answer : Reply} {world next : World Node}
    (answered : (system config).answers node world call answer next) :
    next.frames node = world.frames node ++ sends (markOf call answer).toList ∧
      next.endings node = world.endings node ++ endings (markOf call answer).toList := by
  have more : next.shown node = world.shown node ++ (markOf call answer).toList := by
    rw [answered.2.1, Function.update_self]
  simp only [World.frames, World.endings, more, sends_append, endings_append, and_self]

end Marks

section Keeps

variable {config} {node : Node} {world next : World Node}

theorem relied_keeps (relied : relies node world next) : Keeps node world next := by
  obtain ⟨shown, accepted⟩ := relied
  constructor
  · rw [World.endings, World.endings, shown]
  · rw [World.frames, World.frames, shown]
  · exact accepted

theorem quiet_keeps [DecidableEq Node] {Reply : Type} {call : Call Reply} {answer : Reply}
    (quiet : Quiet call) (answered : (system config).answers node world call answer next) :
    Keeps node world next := by
  obtain ⟨frames, endings⟩ := answered_next answered
  obtain ⟨nothing, unended⟩ := quiet_marks quiet answer
  constructor
  · rw [endings, unended, List.append_nil]
  · rw [frames, nothing, List.append_nil]
  · intro packet member
    rwa [answered.2.2]

theorem counted_lasting (ended sent : Nat) : Lasting node (Counted node ended sent) := by
  intro world next counted keeps
  constructor
  · rw [keeps.endings, counted.endings]
  · rw [keeps.frames, counted.frames]

theorem acknowledges_lasting (bytes : List Byte) : Lasting node (Acknowledges bytes) := by
  intro world next acknowledges keeps ack reads type
  obtain ⟨packet, member, matched⟩ := acknowledges ack reads type
  exact ⟨packet, keeps.accepted packet member, matched⟩

theorem holds_lasting (state : AppState) : Lasting node (Holds config node state) := by
  intro world next holds keeps ready
  obtain ⟨ended, running, standing⟩ := holds ready
  refine ⟨ended, running, standing.imp ?_ ?_⟩
  · intro idle
    exact ⟨idle.1, counted_lasting _ _ world next idle.2 keeps⟩
  · intro acking
    exact ⟨acking.1, counted_lasting _ _ world next acking.2 keeps⟩

theorem lasting_and {first second : World Node → Prop} (left : Lasting node first)
    (right : Lasting node second) : Lasting node fun world => first world ∧ second world :=
  fun world next holds keeps =>
    ⟨left world next holds.1 keeps, right world next holds.2 keeps⟩

end Keeps

section Calls

variable [DecidableEq Node] {config} {node : Node}

abbrev alone (config : Node → AppConfig) (node : Node) : Setting Call (World Node) :=
  (system config).alone (contract config) node

abbrev guard (config : Node → AppConfig) (node : Node) : Guard Call (World Node) :=
  (contract config).guard node

theorem lasting_stable {assertion : World Node → Prop} (lasting : Lasting node assertion) :
    Stable (alone config node) assertion :=
  fun world next holds relied => lasting world next holds (relied_keeps relied)

omit [DecidableEq Node] in
theorem quiet_promises {Reply : Type} {call : Call Reply} (quiet : Quiet call)
    (world : World Node) : guard config node call world := by
  intro _
  cases call with
  | transmit frame length timeoutMs => exact quiet.elim
  | handled event result => exact quiet.elim
  | _ => trivial

theorem quiet_lasts {assertion : World Node → Prop} {Result : Type} {program : App Result}
    (lasting : Lasting node assertion) (quiet : program.Only Quiet) :
    Triple (alone config node) (guard config node) assertion program fun _ => assertion := by
  apply triple_only (lasting_stable lasting) _ _ quiet
  · intro Reply call world quiet _
    exact quiet_promises quiet world
  · intro Reply call world answer next quiet holds answered
    exact lasting world next holds (quiet_keeps quiet answered.2)

/-- A quiet program whose results are known to satisfy something. -/
theorem quiet_ensures {assertion : World Node → Prop} {Result : Type} {program : App Result}
    {fact : Result → Prop} (lasting : Lasting node assertion) (quiet : program.Only Quiet)
    (shows : Shows program fun _ result => fact result) :
    Triple (alone config node) (guard config node) assertion program
      fun result world => fact result ∧ assertion world :=
  triple_ensures (quiet_lasts lasting quiet) shows

theorem transmit_counts {ended : Nat} {frame : List Byte} {length : Byte}
    {timeoutMs : BitVec 32} (carries : Carries (config node) ended (frame.take length.toNat)) :
    Triple (alone config node) (guard config node) (Counted node ended ended)
      (invoke (.transmit frame length timeoutMs)) fun _ => Counted node ended (ended + 1) := by
  apply triple_perform (lasting_stable (counted_lasting _ _))
    (fun _ => lasting_stable (counted_lasting _ _))
  · intro world counted _
    have same : (world.frames node).length = (world.endings node).length :=
      counted.frames.trans counted.endings.symm
    rw [← counted.frames] at carries
    exact ⟨same, carries⟩
  · intro world answer next counted answered
    obtain ⟨frames, endings⟩ := answered_next answered.2
    constructor
    · rw [endings, List.length_append, counted.endings]
      rfl
    · rw [frames, List.length_append, counted.frames]
      rfl

theorem endings_action (event : Event) (result : HandleResult) :
    endings (markOf (.handled event result) ()).toList =
      if result.action.type.terminal then [result.action] else [] := by
  cases type : result.action.type <;> simp [markOf, type, endings, ActionType.terminal]

theorem sends_action (event : Event) (result : HandleResult) :
    sends (markOf (.handled event result) ()).toList = [] := by
  simp only [markOf]
  split_ifs <;> rfl

/-- The state machine ends a cycle or does not; to complete one it needs a reason. -/
theorem handle_counts {ended sent : Nat} {pre : World Node → Prop} (lasting : Lasting node pre)
    (state : AppState) (event : Event)
    (counts : ∀ world, pre world → Counted node ended sent world)
    (paced : (handleEvent (config node) state.nodeContext event .zero).action.type.terminal = true →
      sent = ended + 1)
    (fair : ∀ world, Sound config world → pre world →
      (handleEvent (config node) state.nodeContext event .zero).action.type =
        .transactionComplete → Delivered world node ended) :
    let result := handleEvent (config node) state.nodeContext event .zero
    Triple (alone config node) (guard config node) pre (handle (config node) state event)
      fun value world => value = (result, { state with nodeContext := result.context }) ∧
        Counted node (endedAfter ended result.action.type) sent world := by
  intro result
  have stable : Lasting node (Counted node (endedAfter ended result.action.type) sent) :=
    counted_lasting _ _
  have records : Triple (alone config node) (guard config node) pre
      (invoke (.handled event result))
      fun _ => Counted node (endedAfter ended result.action.type) sent := by
    apply triple_perform (lasting_stable lasting) (fun _ => lasting_stable stable)
    · intro world holds sound terminal
      rw [(counts world holds).endings, (counts world holds).frames]
      exact ⟨paced terminal, fair world sound holds⟩
    · intro world answer next holds answered
      obtain ⟨frames, endings⟩ := answered_next answered.2
      rw [sends_action, List.append_nil] at frames
      rw [endings_action] at endings
      constructor
      · rw [endings, List.length_append, (counts world holds).endings, endedAfter]
        split_ifs <;> rfl
      · rw [frames, (counts world holds).frames]
  apply triple_seq records
  intro _
  refine triple_pure ?_ fun world counted => ⟨rfl, counted⟩
  exact stable_and (stable_fact _) (lasting_stable stable)

end Calls

section Quiet

theorem invoke_quiet {Reply : Type} {call : Call Reply} (quiet : Quiet call) :
    (invoke call).Only Quiet := only_perform quiet

theorem readSensor_quiet (state : AppState) : (readSensor state).Only Quiet := by
  apply only_ite (only_pure _)
  apply only_bind (invoke_quiet (by trivial))
  intro measured
  apply only_ite (only_pure _)
  apply only_bind (invoke_quiet (by trivial))
  intro temperature
  cases temperature with
  | none => exact only_pure _
  | some temperature =>
      apply only_bind (invoke_quiet (by trivial))
      intro humidity
      cases humidity with
      | none => exact only_pure _
      | some humidity => exact only_ite (only_pure _) (only_pure _)

/-- A plain call is quiet. -/
theorem quiet_plain {Result : Type} {program : App Result} (plain : program.Only Plain) :
    program.Only Quiet := by
  apply only_mono _ plain
  intro Reply call plain
  cases call with
  | transmit frame length timeoutMs => exact plain
  | handled event result => exact plain
  | _ => trivial

theorem initializeApp_quiet (config : AppConfig) (state : AppState) :
    (initializeApp config state).Only Quiet := by
  apply only_bind (invoke_quiet (by trivial))
  intro timeReady
  apply only_ite
  · exact only_bind (invoke_quiet (by trivial)) fun _ => only_pure _
  apply only_bind (invoke_quiet (by trivial))
  intro powerReady
  apply only_ite
  · exact only_bind (invoke_quiet (by trivial)) fun _ => only_pure _
  apply only_bind (invoke_quiet (by trivial))
  intro _
  apply only_bind (invoke_quiet (by trivial))
  intro dht11Ready
  apply only_ite
  · exact only_bind (invoke_quiet (by trivial)) fun _ => quiet_plain (initializeNode_plain config _)
  · exact quiet_plain (initializeNode_plain config _)

end Quiet

/-- Nothing but the expected ACK completes a cycle. -/
theorem ack_completes {config : AppConfig} {context : Context} {event : Event} {action : Action}
    (legal : Legal context.state)
    (completes : (handleEvent config context event action).action.type = .transactionComplete) :
    CarriesAck context event := by
  rcases legal with state | state | state
  · simp only [handleEvent, state, handleWaitInterval] at completes
    split_ifs at completes <;> simp [Action.zero] at completes
  · simp only [handleEvent, state, handleWaitTxResult] at completes
    split_ifs at completes <;> simp [Action.zero, completeTransaction] at completes
  · rw [handle_event_wait_ack config context event action state] at completes
    by_cases late : config.ackTimeoutMs ≤ context.ackElapsed event
    · rw [wait_ack_late config context event .zero late] at completes
      simp [completeTransaction] at completes
    · by_contra foreign
      have nothing := (wait_ack_ignored config context event .zero late foreign).2
      simp only at completes
      rw [nothing] at completes
      simp [Action.zero] at completes

section Application

variable [DecidableEq Node] {config} {node : Node} {ended : Nat} {state : AppState}

omit [DecidableEq Node] in
/-- The ACK for a cycle answers an uplink of that node. -/
theorem ack_delivers (apart : Function.Injective fun node => (config node).nodeAddress)
    {world : World Node} {bytes : List Byte} (sound : Sound config world)
    (counted : Counted node ended (ended + 1) world) (acknowledges : Acknowledges bytes world)
    (isAck : IsAckFor (config node).nodeAddress (BitVec.ofNat 8 ended) (BitVec.ofNat 16 ended)
      bytes) : Delivered world node ended := by
  obtain ⟨ack, parsed, destination, type, id, sequence⟩ := (parse_ack_iff _ _ _ _).mpr isAck
  obtain ⟨packet, member, source, -, numbered⟩ :=
    acknowledges ack ((reads_iff _ _).mpr parsed) type
  obtain ⟨sender, number, frame, found, reads⟩ := sound.taken packet member
  obtain ⟨sent, decoded, -, sentSource, -, -, sentSequence⟩ :=
    sound.numbered sender number frame found
  have same : sent = packet := reads_unique decoded reads
  subst same
  have itself : sender = node := apart (sentSource.symm.trans (source.trans destination))
  subst itself
  have before : number < ended + 1 := by
    rw [← counted.frames]
    exact (List.getElem?_eq_some_iff.mp found).1
  have congruent : number ≡ ended [MOD 65536] := by
    have values := congrArg BitVec.toNat (sentSequence.symm.trans (numbered.trans sequence))
    rwa [BitVec.toNat_ofNat, BitVec.toNat_ofNat] at values
  exact ⟨number, sent, Nat.le_of_lt_succ before, congruent, ⟨frame, found, reads⟩, member⟩

/-- Events of the node itself complete nothing. -/
theorem own_event_counts (state : AppState) (legal : Legal state.nodeContext.state) {sent : Nat}
    (event : Event) (own : event.type ≠ .frameReceived)
    (paced : (handleEvent (config node) state.nodeContext event .zero).action.type.terminal = true →
      sent = ended + 1) :
    let result := handleEvent (config node) state.nodeContext event .zero
    Triple (alone config node) (guard config node) (Counted node ended sent)
      (handle (config node) state event) fun value world =>
        value = (result, { state with nodeContext := result.context }) ∧
          Counted node (endedAfter ended result.action.type) sent world := by
  apply handle_counts (counted_lasting _ _) state event (fun _ counted => counted) paced
  intro world sound counted completes
  exact absurd (ack_completes legal completes).1 own

/-- A received frame completes the cycle only as an ACK the gateway sent. -/
theorem frame_counts (apart : Function.Injective fun node => (config node).nodeAddress)
    (ready : Ready (config node) ended state) (acking : state.nodeContext.state = .waitAck)
    (bytes : List Byte) (tick : BitVec 32) :
    let event : Event := ⟨.frameReceived, some bytes, tick⟩
    let result := handleEvent (config node) state.nodeContext event .zero
    Triple (alone config node) (guard config node)
      (fun world => Counted node ended (ended + 1) world ∧ Acknowledges bytes world)
      (handle (config node) state event) fun value world =>
        value = (result, { state with nodeContext := result.context }) ∧
          Counted node (endedAfter ended result.action.type) (ended + 1) world := by
  apply handle_counts (lasting_and (counted_lasting _ _) (acknowledges_lasting bytes)) state _
    (fun _ holds => holds.1) (fun _ => rfl)
  intro world sound holds completes
  obtain ⟨-, frame, same, isAck⟩ := ack_completes ready.accounted.legal completes
  obtain ⟨id, sequence⟩ := ready.accounted.busy (by simp [acking])
  rw [ready.accounted.nodeAddress, id, sequence, ← Option.some.inj same] at isAck
  exact ack_delivers apart sound holds.1 holds.2 isAck

/-- The end of a call in WAIT_ACK: the state machine has done nothing, or has ended
the cycle. -/
theorem handleAction_holds (ready : Ready (config node) ended state)
    (acking : state.nodeContext.state = .waitAck) (event : Event) :
    let result := handleEvent (config node) state.nodeContext event .zero
    Triple (alone config node) (guard config node)
      (Counted node (endedAfter ended result.action.type) (ended + 1))
      (handleAction (config node) { state with nodeContext := result.context } result.action)
      (Holds config node) := by
  intro result
  have logs (after : Nat) : Triple (alone config node) (guard config node)
      (Counted node after (ended + 1)) (logTerminalAction result.action)
      fun _ => Counted node after (ended + 1) :=
    quiet_lasts (counted_lasting _ _) (quiet_plain (logTerminalAction_plain _))
  obtain ⟨-, ⟨nothing, same⟩ | ⟨terminal, idle, accounted⟩⟩ :=
    wait_ack_event (config node) ended state ready acking event
  · have unended : endedAfter ended result.action.type = ended := by
      simp only [result, nothing]
      rfl
    rw [unended, handleAction, if_neg (by simp [result, nothing])]
    apply triple_seq (logs ended)
    intro _
    rw [if_neg (by simp [result, nothing])]
    refine triple_pure (lasting_stable (holds_lasting _)) fun world counted _ => ?_
    have running : Ready (config node) ended { state with nodeContext := result.context } :=
      ⟨ready.ready, ready.valid, by rw [same]; exact ready.accounted⟩
    exact ⟨ended, running, .inr ⟨by rw [same]; exact acking, counted⟩⟩
  · have later : endedAfter ended result.action.type = ended + 1 := by
      simp only [result, endedAfter, terminal, if_true]
    have ends := (ActionType.terminal_iff result.action.type).mp terminal
    rw [later, handleAction, if_neg (ActionType.terminal_acts terminal).2]
    apply triple_seq (logs (ended + 1))
    intro _
    rw [if_pos ends, restartInterval]
    have looks : Triple (alone config node) (guard config node)
        (Counted node (ended + 1) (ended + 1)) (invoke .nowMs)
        fun _ => Counted node (ended + 1) (ended + 1) :=
      quiet_lasts (counted_lasting _ _) (invoke_quiet (by trivial))
    apply triple_seq looks
    intro tick
    refine triple_pure (lasting_stable (holds_lasting _)) fun world counted _ => ?_
    exact ⟨ended + 1, ⟨ready.ready, ready.valid, accounted_interval accounted tick⟩,
      .inl ⟨idle, counted⟩⟩

theorem looks_count {ended sent : Nat} {Reply : Type} {call : Call Reply} (quiet : Quiet call) :
    Triple (alone config node) (guard config node) (Counted node ended sent) (invoke call)
      fun _ => Counted node ended sent :=
  quiet_lasts (counted_lasting _ _) (invoke_quiet quiet)

theorem looks_hold {state : AppState} {Reply : Type} {call : Call Reply} (quiet : Quiet call) :
    Triple (alone config node) (guard config node) (Holds config node state) (invoke call)
      fun _ => Holds config node state :=
  quiet_lasts (holds_lasting _) (invoke_quiet quiet)

theorem returns_holding {pre : World Node → Prop} {state : AppState}
    (holds : ∀ world, pre world → Holds config node state world) :
    Triple (alone config node) (guard config node) pre (pure state) (Holds config node) :=
  triple_pure (lasting_stable (holds_lasting state)) holds

theorem idleTick_holds (ready : Ready (config node) ended state)
    (acking : state.nodeContext.state = .waitAck) :
    Triple (alone config node) (guard config node) (Counted node ended (ended + 1))
      (idleTick (config node) state) (Holds config node) := by
  rw [idleTick]
  apply triple_seq (looks_count (by trivial))
  intro tick
  apply triple_seq (own_event_counts _ ready.accounted.legal ⟨.timerTick, none, tick⟩
    (by simp) fun _ => rfl)
  intro value
  apply triple_fact
  intro same
  subst same
  have handled := (wait_ack_event (config node) ended state ready acking ⟨.timerTick, none, tick⟩).1
  simp only [handled, if_true]
  apply triple_seq (handleAction_holds ready acking ⟨.timerTick, none, tick⟩)
  intro next
  apply triple_ite
  · intro _
    apply triple_seq (looks_hold (by trivial))
    exact fun _ => returns_holding fun _ holds => holds
  · exact fun _ => returns_holding fun _ holds => holds

/-- What the radio hands over was sent by someone, so an ACK was sent by the gateway. -/
theorem read_acknowledges {sent : Nat} (length : Byte) :
    Triple (alone config node) (guard config node) (Counted node ended sent)
      (invoke (.read length)) fun received world => Counted node ended sent world ∧
        Acknowledges (received.frame.take received.count.toNat) world := by
  have lasting (bytes : List Byte) : Lasting node fun world =>
      Counted node ended sent world ∧ Acknowledges bytes world :=
    lasting_and (counted_lasting _ _) (acknowledges_lasting bytes)
  apply triple_perform (lasting_stable (counted_lasting _ _)) fun _ => lasting_stable (lasting _)
  · exact fun world _ => quiet_promises (by trivial) world
  · intro world received next counted answered
    obtain ⟨sound, answered⟩ := answered
    have keeps : Keeps node world next := quiet_keeps (by trivial) answered
    have heard : Heard world.air (received.frame.take received.count.toNat) := answered.1.2
    refine lasting _ world next ⟨counted, fun ack reads type => ?_⟩ keeps
    cases sound.aired _ (heard_whole heard reads) ack reads with
    | uplink sender member =>
        obtain ⟨number, found⟩ := List.getElem?_of_mem member
        obtain ⟨packet, decoded, kind, -⟩ := sound.numbered sender number _ found
        rw [reads_unique decoded reads, type] at kind
        simp at kind
    | ack _ acknowledges => exact acknowledges ack reads type
    | poll poll =>
        rw [type] at poll
        exact absurd poll (by decide)

theorem pollReceiver_holds (apart : Function.Injective fun node => (config node).nodeAddress)
    (ready : Ready (config node) ended state) (acking : state.nodeContext.state = .waitAck) :
    Triple (alone config node) (guard config node) (Counted node ended (ended + 1))
      (pollReceiver (config node) state) (Holds config node) := by
  rw [pollReceiver]
  apply triple_seq (looks_count (by trivial))
  intro bytesReceived
  apply triple_ite
  · exact fun _ => idleTick_holds ready acking
  · intro _
    apply triple_seq (looks_count (by trivial))
    intro tick
    apply triple_seq (read_acknowledges bytesReceived)
    intro received
    have unready : Ready (config node) ended { state with receiverStarted := false } :=
      ⟨ready.ready, ready.valid, ready.accounted⟩
    apply triple_seq (frame_counts apart unready acking _ tick)
    intro value
    apply triple_fact
    intro same
    subst same
    have handled := (wait_ack_event (config node) ended _ unready acking
      ⟨.frameReceived, some (received.frame.take received.count.toNat), tick⟩).1
    simp only [handled, Bool.not_true, Bool.false_eq_true, if_false]
    apply triple_seq (quiet_lasts (counted_lasting _ _)
      (quiet_plain (logReceived_plain received _)))
    exact fun _ => handleAction_holds unready acking _

theorem waitAckTask_holds (apart : Function.Injective fun node => (config node).nodeAddress)
    (ready : Ready (config node) ended state) (acking : state.nodeContext.state = .waitAck) :
    Triple (alone config node) (guard config node) (Counted node ended (ended + 1))
      (waitAckTask (config node) state) (Holds config node) := by
  rw [waitAckTask]
  apply triple_seq (looks_count (by trivial))
  intro tick
  apply triple_seq (own_event_counts _ ready.accounted.legal ⟨.timerTick, none, tick⟩
    (by simp) fun _ => rfl)
  intro value
  apply triple_fact
  intro same
  subst same
  obtain ⟨handled, outcome⟩ :=
    wait_ack_event (config node) ended state ready acking ⟨.timerTick, none, tick⟩
  simp only [handled, true_and]
  apply triple_ite
  · exact fun _ => handleAction_holds ready acking ⟨.timerTick, none, tick⟩
  · intro nothing
    rw [not_not] at nothing
    rcases outcome with ⟨-, same⟩ | ⟨terminal, -⟩
    · rw [same, nothing]
      apply triple_ite
      · intro stopped
        apply triple_seq (quiet_ensures (counted_lasting _ _) (quiet_plain (startReceiver_plain _))
          (shows_mono (start_receiver_shows (config node) ended state ready) fun _ _ => And.right))
        intro armed
        apply triple_fact
        intro started
        have armedAcking : armed.2.nodeContext.state = .waitAck := by rw [started.2, acking]
        apply triple_ite
        · intro _
          apply triple_seq (looks_count (by trivial))
          exact fun _ => idleTick_holds started.1 armedAcking
        · exact fun _ => pollReceiver_holds apart started.1 armedAcking
      · exact fun _ => pollReceiver_holds apart ready acking
    · rw [nothing] at terminal
      exact absurd terminal (by decide)

/-- The result of a transmission ends the cycle or opens its ACK window. -/
theorem notifyTxResult_counts (ready : Ready (config node) ended state)
    (waiting : state.nodeContext.state = .waitTxResult) (succeeded : Bool) (tick : BitVec 32) :
    Triple (alone config node) (guard config node) (Counted node ended (ended + 1))
      (notifyTxResult (config node) state succeeded tick)
      fun _ => Counted node (if succeeded then ended else ended + 1) (ended + 1) := by
  have own : (if succeeded then EventType.txSucceeded else EventType.txFailed) ≠
      .frameReceived := by
    split_ifs <;> simp
  have type : endedAfter ended (handleEvent (config node) state.nodeContext
      ⟨if succeeded then .txSucceeded else .txFailed, none, tick⟩ .zero).action.type =
        if succeeded then ended else ended + 1 := by
    cases succeeded <;>
      simp [handleEvent, waiting, handleWaitTxResult, completeTransaction, endedAfter, Action.zero,
        ActionType.terminal]
  rw [notifyTxResult]
  apply triple_seq (own_event_counts _ ready.accounted.legal
    ⟨if succeeded then .txSucceeded else .txFailed, none, tick⟩ own fun _ => rfl)
  intro value
  apply triple_fact
  intro same
  subst same
  rw [type]
  apply quiet_lasts (counted_lasting _ _)
  apply only_ite
  · exact only_bind (invoke_quiet (by trivial)) fun _ => only_pure _
  · apply only_bind (quiet_plain (logTerminalAction_plain _))
    exact fun _ => only_ite (quiet_plain (restartInterval_plain _)) (only_pure _)

theorem buildAndTransmit_holds (action : Action) (ready : Ready (config node) ended state)
    (waiting : state.nodeContext.state = .waitTxResult)
    (id : action.transactionId = BitVec.ofNat 8 ended)
    (sequence : action.sequence = BitVec.ofNat 16 ended) :
    Triple (alone config node) (guard config node) (Counted node ended ended)
      (buildAndTransmit (config node) state action) (Holds config node) := by
  rw [buildAndTransmit, id, sequence]
  apply triple_seq (quiet_ensures (counted_lasting _ _) (readSensor_quiet state)
    (shows_mono (read_sensor_shows state) fun _ _ => And.right))
  intro sensor
  apply triple_fact
  intro status
  obtain ⟨kind, carries⟩ := built_carries (config node) ended sensor status ready.valid
  have unready : Ready (config node) ended { state with receiverStarted := false } :=
    ⟨ready.ready, ready.valid, ready.accounted⟩
  simp only
  rw [if_neg (by tauto)]
  apply triple_seq (looks_count (by trivial))
  intro _
  apply triple_seq (transmit_counts carries)
  intro sent
  apply triple_seq (looks_count (by trivial))
  intro tick
  cases transmitted : sent != 0 with
  | true =>
      have succeeds := shows_mono (notify_succeeded (config node) ended _ unready waiting tick)
        fun _ _ => And.right
      apply triple_seq (triple_ensures (notifyTxResult_counts unready waiting true tick) succeeds)
      intro notified
      apply triple_fact
      intro found
      have listens := shows_mono (start_receiver_shows (config node) ended notified found.1)
        fun _ _ => And.right
      apply triple_seq (quiet_ensures (counted_lasting _ _)
        (quiet_plain (startReceiver_plain _)) listens)
      intro armed
      apply triple_fact
      intro started
      have holds (world : World Node) (counted : Counted node ended (ended + 1) world) :
          Holds config node armed.2 world :=
        fun _ => ⟨ended, started.1, .inr ⟨by rw [started.2, found.2], counted⟩⟩
      apply triple_ite
      · intro _
        apply triple_seq (looks_count (by trivial))
        exact fun _ => returns_holding holds
      · intro _
        apply triple_seq (looks_count (by trivial))
        exact fun _ => returns_holding holds
  | false =>
      have fails : Shows (notifyTxResult (config node) { state with receiverStarted := false }
          false tick) fun _ next => Ready (config node) (ended + 1) next ∧
            next.nodeContext.state = .waitInterval := by
        apply shows_mono (notify_failed (config node) ended _ unready waiting tick)
        intro _ next found
        obtain ⟨_, _, _, running, idle⟩ := found
        exact ⟨running, idle⟩
      apply triple_seq (triple_ensures (notifyTxResult_counts unready waiting false tick) fails)
      intro notified
      apply triple_fact
      intro found
      apply returns_holding
      exact fun world counted _ => ⟨ended + 1, found.1, .inl ⟨found.2, counted⟩⟩

theorem sleepInterval_holds (ready : Ready (config node) ended state)
    (idle : state.nodeContext.state = .waitInterval) :
    Triple (alone config node) (guard config node) (Counted node ended ended)
      (sleepInterval (config node) state) (Holds config node) := by
  rw [sleepInterval]
  apply triple_seq (looks_count (by trivial))
  intro _
  apply triple_seq (looks_count (by trivial))
  intro slept
  apply triple_ite
  · intro _
    apply triple_seq (looks_count (by trivial))
    exact fun _ => returns_holding fun _ _ halted => absurd halted (by simp)
  · intro _
    apply triple_seq (looks_count (by trivial))
    intro _
    apply triple_seq (looks_count (by trivial))
    intro tick
    have elapsed := interval_elapsed (config node) state.nodeContext idle tick
    have accounted := accounted_transition ready.accounted
      (handle_event_transition (config node) state.nodeContext ⟨.intervalElapsed, none, tick⟩ .zero
        ready.accounted.legal)
    have sampling : (handleEvent (config node) state.nodeContext ⟨.intervalElapsed, none, tick⟩
        .zero).action.type.terminal = false := by
      rw [elapsed]
      rfl
    apply triple_seq (own_event_counts { state with receiverStarted := false }
      ready.accounted.legal ⟨.intervalElapsed, none, tick⟩ (by simp)
      fun terminal => absurd terminal (by simp [sampling]))
    intro value
    apply triple_fact
    intro same
    subst same
    rw [elapsed] at accounted
    simp only [elapsed, if_true, handleAction]
    exact buildAndTransmit_holds _ ⟨ready.ready, ready.valid, accounted⟩ rfl
      ready.accounted.transactionId ready.accounted.responseSequence

theorem tasks_hold (apart : Function.Injective fun node => (config node).nodeAddress)
    (state : AppState) :
    Triple (alone config node) (guard config node) (Holds config node state)
      (tasks (config node) state) (Holds config node) := by
  rw [tasks]
  cases lora : state.loraReady with
  | false =>
      rw [if_pos (by decide)]
      have same : (haltedTask state).Ensures fun _ next => next = state :=
        Program.ensures_mono (halted_task_ensures state) fun _ _ => And.right
      apply triple_mono (quiet_ensures (holds_lasting state)
        (quiet_plain (haltedTask_plain state)) same)
        fun _ holds => holds
      intro next world holds
      rw [holds.1]
      exact holds.2
  | true =>
      rw [if_neg (by decide)]
      intro world holds
      obtain ⟨ended, ready, ⟨idle, counted⟩ | ⟨acking, counted⟩⟩ := holds lora
      · rw [if_pos idle]
        exact sleepInterval_holds ready idle world counted
      · rw [if_neg (by simp [acking]), if_neg (by simp [acking])]
        exact waitAckTask_holds apart ready acking world counted

theorem startNode_holds (static : AppState) :
    Triple (alone config node) (guard config node) (Counted node 0 0)
      (startNode (config node) static) (Holds config node) := by
  apply triple_seq (quiet_ensures (counted_lasting _ _) (initializeApp_quiet _ static)
    (shows_mono (initialize_shows (config node) static) fun _ _ => And.right))
  intro result
  apply triple_fact
  intro started
  apply returns_holding
  intro world counted running
  rcases started with ⟨-, ready, idle⟩ | ⟨-, halted⟩
  · exact ⟨0, ready, .inl ⟨idle, counted⟩⟩
  · rw [halted] at running
    exact absurd running (by decide)

end Application

end LoraNode.Network
