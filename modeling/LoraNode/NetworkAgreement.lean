import LoraNode.NetworkNode

/-!
# What nodes and gateway agree on

In every interleaving the gateway holds nothing but frames that its nodes have
sent, and a node completes a cycle only when the gateway holds a frame of its own
with the number of that cycle. Seq wraps, so this is the frame of that very cycle
for the first 65536 cycles and one of an equal number after that.
-/

namespace LoraNode.Network

open LoraNode.Foundation LoraNode.Foundation.Program LoraNode.Foundation.Bytes
  LoraNode.Foundation.Interference LoraNode.Foundation.Parallel LoraNode.NodePacket
  LoraNode.NodeState LoraNode.CycleAccounting LoraNode.LoraApp LoraNode.AppTrace LoraNode.AppLoop

variable {Node : Type} {config : Node → AppConfig} {world next : World Node}

structure Grows (world next : World Node) : Prop where
  frames : ∀ node, world.frames node <+: next.frames node
  accepted : ∀ packet ∈ world.accepted, packet ∈ next.accepted

theorem uplink_grows (grows : Grows world next) {node : Node} {number : Nat} {packet : Message}
    (uplink : Uplink world node number packet) : Uplink next node number packet := by
  obtain ⟨frame, found, reads⟩ := uplink
  obtain ⟨more, later⟩ := grows.frames node
  refine ⟨frame, ?_, reads⟩
  rw [← later, List.getElem?_append_left (List.getElem?_eq_some_iff.mp found).1]
  exact found

theorem delivered_grows (grows : Grows world next) {node : Node} {cycle : Nat}
    (delivered : Delivered world node cycle) : Delivered next node cycle := by
  obtain ⟨number, packet, before, congruent, uplink, member⟩ := delivered
  exact ⟨number, packet, before, congruent, uplink_grows grows uplink,
    grows.accepted packet member⟩

theorem origin_grows (grows : Grows world next) {frame : List Byte} {packet : Message}
    (origin : Origin world frame packet) : Origin next frame packet := by
  cases origin with
  | uplink node member => exact .uplink node ((grows.frames node).subset member)
  | ack type acknowledges =>
      refine .ack type fun ack reads kind => ?_
      obtain ⟨answered, member, matched⟩ := acknowledges ack reads kind
      exact ⟨answered, grows.accepted answered member, matched⟩
  | poll type => exact .poll type

/-- What a step adds is what has to be looked at. -/
theorem sound_grows (sound : Sound config world) (grows : Grows world next)
    (paced : ∀ node, (next.frames node).length = (next.endings node).length ∨
      (next.frames node).length = (next.endings node).length + 1)
    (numbered : ∀ node number frame, (next.frames node)[number]? = some frame →
      (world.frames node)[number]? = some frame ∨ Carries (config node) number frame)
    (aired : ∀ frame ∈ next.air, frame ∈ world.air ∨
      ∀ packet, Reads frame packet → Origin next frame packet)
    (taken : ∀ packet ∈ next.accepted, packet ∈ world.accepted ∨
      ∃ node number, Uplink next node number packet)
    (completed : ∀ node cycle action, (next.endings node)[cycle]? = some action →
      action.type = .transactionComplete →
        (world.endings node)[cycle]? = some action ∨ Delivered next node cycle) :
    Sound config next := by
  constructor
  · exact paced
  · intro node number frame found
    rcases numbered node number frame found with before | carries
    · exact sound.numbered node number frame before
    · exact carries
  · intro frame member packet reads
    rcases aired frame member with before | origin
    · exact origin_grows grows (sound.aired frame before packet reads)
    · exact origin packet reads
  · intro packet member
    rcases taken packet member with before | uplink
    · obtain ⟨node, number, uplink⟩ := sound.taken packet before
      exact ⟨node, number, uplink_grows grows uplink⟩
    · exact uplink
  · intro node cycle action found completes
    rcases completed node cycle action found completes with before | delivered
    · exact delivered_grows grows (sound.completed node cycle action before completes)
    · exact delivered

theorem sound_initial (config : Node → AppConfig) : Sound config ⟨fun _ => [], [], []⟩ := by
  constructor
  · exact fun _ => .inl rfl
  · intro node number frame found
    exact absurd found (by simp [World.frames, sends])
  · intro frame member
    exact absurd member (by simp)
  · intro packet member
    exact absurd member (by simp)
  · intro node cycle action found
    exact absurd found (by simp [World.endings, endings])

section Gateway

theorem gateway_grows (step : GatewayStep world next) :
    next.shown = world.shown ∧ Grows world next := by
  cases step with
  | accept bytes packet heard reads uplink =>
      exact ⟨rfl, fun _ => List.prefix_refl _, fun _ member => List.mem_append_left _ member⟩
  | acknowledge packet ack frame member reads type destination id sequence =>
      exact ⟨rfl, fun _ => List.prefix_refl _, fun _ member => member⟩
  | poll frame other => exact ⟨rfl, fun _ => List.prefix_refl _, fun _ member => member⟩

/-- An uplink that the gateway hears was sent by a node. -/
theorem heard_uplink (sound : Sound config world) {bytes : List Byte} {packet : Message}
    (heard : Heard world.air bytes) (reads : Reads bytes packet)
    (uplink : packet.type = .data ∨ packet.type = .error) :
    ∃ node number, Uplink world node number packet := by
  cases sound.aired bytes (heard_whole heard reads) packet reads with
  | uplink node member =>
      obtain ⟨number, found⟩ := List.getElem?_of_mem member
      exact ⟨node, number, bytes, found, reads⟩
  | ack type _ => simp [type] at uplink
  | poll type => simp [type] at uplink

theorem gateway_sound (sound : Sound config world) (step : GatewayStep world next) :
    Sound config next := by
  obtain ⟨shown, grows⟩ := gateway_grows step
  have frames (node : Node) : next.frames node = world.frames node := by
    rw [World.frames, World.frames, shown]
  have endings (node : Node) : next.endings node = world.endings node := by
    rw [World.endings, World.endings, shown]
  apply sound_grows sound grows
  · intro node
    rw [frames, endings]
    exact sound.paced node
  · intro node number frame found
    rw [frames] at found
    exact .inl found
  · intro sent member
    cases step with
    | accept bytes packet heard reads uplink => exact .inl member
    | acknowledge packet ack frame taken reads type destination id sequence =>
        rcases List.mem_append.mp member with before | last
        · exact .inl before
        · right
          intro read readAs
          rw [List.mem_singleton.mp last] at readAs ⊢
          have same : ack = read := reads_unique reads readAs
          subst same
          refine .ack type fun other readOther _ => ?_
          rw [← reads_unique reads readOther]
          exact ⟨packet, taken, destination.symm, id.symm, sequence.symm⟩
    | poll frame other =>
        rcases List.mem_append.mp member with before | last
        · exact .inl before
        · right
          intro read readAs
          rw [List.mem_singleton.mp last] at readAs
          exact .poll (other read readAs)
  · intro taken member
    cases step with
    | accept bytes packet heard reads uplink =>
        rcases List.mem_append.mp member with before | last
        · exact .inl before
        · rw [List.mem_singleton.mp last]
          exact .inr (heard_uplink sound heard reads uplink)
    | acknowledge packet ack frame _ reads type destination id sequence => exact .inl member
    | poll frame other => exact .inl member
  · intro node cycle action found _
    rw [endings] at found
    exact .inl found

end Gateway

section Nodes

variable {Reply : Type} {node : Node} {call : Call Reply} {answer : Reply}

theorem found_snoc {Item : Type} {items : List Item} {last found : Item} {place : Nat}
    (at_place : (items ++ [last])[place]? = some found) :
    items[place]? = some found ∨ place = items.length ∧ last = found := by
  rcases Nat.lt_or_ge place items.length with before | after
  · rw [List.getElem?_append_left before] at at_place
    exact .inl at_place
  · rw [List.getElem?_append_right after, List.getElem?_singleton] at at_place
    split_ifs at at_place with zero
    exact .inr ⟨by omega, Option.some.inj at_place⟩

/-- What is new on the air is what the node sent. -/
theorem radiates_sends {air later : List (List Byte)} (radiates : Radiates call answer air later) :
    ∀ frame ∈ later, frame ∈ air ∨ frame ∈ sends (markOf call answer).toList := by
  intro frame member
  cases call with
  | transmit sent length timeoutMs =>
      rcases radiates with aired | ⟨-, silent⟩
      · rw [aired] at member
        exact (List.mem_append.mp member).imp id id
      · rw [silent] at member
        exact .inl member
  | read length =>
      rw [radiates.1] at member
      exact .inl member
  | _ =>
      have silent : later = air := radiates
      rw [silent] at member
      exact .inl member

/-- A call sends nothing and ends nothing, sends the next frame, or handles an event. -/
inductive Adds (config : Node → AppConfig) (node : Node) (world : World Node) :
    List (List Byte) → List Action → Prop where
  | nothing : Adds config node world [] []
  | frame (frame : List Byte) (paced : (world.frames node).length = (world.endings node).length)
      (carries : Carries (config node) (world.frames node).length frame) :
      Adds config node world [frame] []
  | ending (action : Action)
      (paced : (world.frames node).length = (world.endings node).length + 1)
      (fair : action.type = .transactionComplete →
        Delivered world node (world.endings node).length) : Adds config node world [] [action]

theorem promised_adds (answer : Reply) (promised : promises config node call world) :
    Adds config node world (sends (markOf call answer).toList)
      (endings (markOf call answer).toList) := by
  cases call with
  | transmit frame length timeoutMs => exact .frame _ promised.1 promised.2
  | handled event result =>
      rw [endings_action, sends_action]
      split_ifs with terminal
      · exact .ending _ (promised terminal).1 (promised terminal).2
      · exact .nothing
  | _ => exact .nothing

variable [DecidableEq Node]

theorem own_others (answered : (system config).answers node world call answer next) {other : Node}
    (apart : other ≠ node) : relies other world next := by
  constructor
  · rw [answered.2.1, Function.update_of_ne apart]
  · intro packet member
    rwa [answered.2.2]

theorem own_sound (sound : Sound config world) (promised : promises config node call world)
    (answered : (system config).answers node world call answer next) : Sound config next := by
  have adds := promised_adds answer promised
  have radiates := radiates_sends answered.1
  obtain ⟨frames, ends⟩ := answered_next answered
  generalize sends (markOf call answer).toList = sent at adds radiates frames
  generalize endings (markOf call answer).toList = ended at adds ends
  have others {other : Node} (apart : other ≠ node) : Keeps other world next :=
    relied_keeps (own_others answered apart)
  have grows : Grows world next := by
    constructor
    · intro other
      rcases eq_or_ne other node with same | apart
      · rw [same, frames]
        exact List.prefix_append _ _
      · rw [(others apart).frames]
    · intro packet member
      rwa [answered.2.2]
  apply sound_grows sound grows
  · intro other
    rcases eq_or_ne other node with same | apart
    · rw [same, frames, ends]
      cases adds with
      | nothing => simpa using sound.paced node
      | frame frame paced carries => simp [paced]
      | ending action paced fair => simp [paced]
    · rw [(others apart).frames, (others apart).endings]
      exact sound.paced other
  · intro other number frame found
    rcases eq_or_ne other node with same | apart
    · subst same
      rw [frames] at found
      cases adds with
      | nothing => exact .inl (by simpa using found)
      | ending action paced fair => exact .inl (by simpa using found)
      | frame handed paced carries =>
          apply (found_snoc found).imp_right
          intro last
          rwa [last.1, ← last.2]
    · rw [(others apart).frames] at found
      exact .inl found
  · intro frame member
    apply (radiates frame member).imp_right
    intro mine packet _
    apply Origin.uplink node
    rw [frames]
    exact List.mem_append_right _ mine
  · intro packet member
    rw [answered.2.2] at member
    exact .inl member
  · intro other cycle action found completes
    rcases eq_or_ne other node with same | apart
    · subst same
      rw [ends] at found
      cases adds with
      | nothing => exact .inl (by simpa using found)
      | frame frame paced carries => exact .inl (by simpa using found)
      | ending last paced fair =>
          apply (found_snoc found).imp_right
          intro here
          rw [here.1]
          rw [← here.2] at completes
          exact delivered_grows grows (fair completes)
    · rw [(others apart).endings] at found
      exact .inl found

/-- Every promise is kept, as long as no two nodes share an address. -/
theorem contract_kept (apart : Function.Injective fun node => (config node).nodeAddress) :
    (contract config).Kept (system config) := by
  constructor
  · intro Reply node call answer world next sound promised answered
    exact ⟨own_sound sound promised answered, fun other different => own_others answered different⟩
  · intro world next sound step
    obtain ⟨shown, grows⟩ := gateway_grows step
    exact ⟨gateway_sound sound step, fun node => ⟨congrFun shown node, grows.accepted⟩⟩
  · exact fun node state => tasks_hold apart state

theorem powerUp_stands (config : Node → AppConfig) (static : Node → AppState) :
    (contract config).Stands (system config) (powerUp config static) := by
  constructor
  · exact sound_initial config
  · intro node
    exact startNode_holds (static node) _ ⟨rfl, rfl⟩

omit [DecidableEq Node] in
/-- In its first 65536 cycles a node gives no number twice. -/
theorem number_unique {node : Node} {first second : Nat}
    (short : (world.frames node).length ≤ 65536) {left right : Message}
    (leftUplink : Uplink world node first left) (rightUplink : Uplink world node second right)
    (congruent : first ≡ second [MOD 65536]) : first = second ∧ left = right := by
  obtain ⟨frame, found, reads⟩ := leftUplink
  obtain ⟨other, otherFound, otherReads⟩ := rightUplink
  have below := (List.getElem?_eq_some_iff.mp found).1
  have otherBelow := (List.getElem?_eq_some_iff.mp otherFound).1
  have same : first = second := congruent.eq_of_lt_of_lt (by omega) (by omega)
  subst same
  have frames : frame = other := Option.some.inj (found.symm.trans otherFound)
  subst frames
  exact ⟨rfl, reads_unique reads otherReads⟩

omit [DecidableEq Node] in
theorem uplink_numbered (sound : Sound config world) {node : Node} {number : Nat}
    {packet : Message} (uplink : Uplink world node number packet) :
    packet.source = (config node).nodeAddress ∧ packet.transactionId.toNat = number % 256 ∧
      packet.sequence.toNat = number % 65536 := by
  obtain ⟨frame, found, reads⟩ := uplink
  obtain ⟨sent, decoded, -, source, -, id, sequence⟩ := sound.numbered node number frame found
  have same : sent = packet := reads_unique decoded reads
  subst same
  rw [source, id, sequence, BitVec.toNat_ofNat, BitVec.toNat_ofNat]
  exact ⟨rfl, rfl, rfl⟩

/-- Agreement of nodes and gateway in every interleaving. -/
theorem network_agrees (config : Node → AppConfig) (static : Node → AppState)
    (apart : Function.Injective fun node => (config node).nodeAddress)
    (reached : Configuration Node (World Node) Call AppState)
    (reaches : Reaches (system config) (powerUp config static) reached) :
    let world := reached.state
    (∀ node, (world.frames node).length = (world.endings node).length ∨
      (world.frames node).length = (world.endings node).length + 1) ∧
    (∀ packet ∈ world.accepted, ∃ node number, Uplink world node number packet ∧
      packet.source = (config node).nodeAddress ∧ packet.transactionId.toNat = number % 256 ∧
        packet.sequence.toNat = number % 65536) ∧
    (∀ node cycle action, (world.endings node)[cycle]? = some action →
      action.type = .transactionComplete → Delivered world node cycle) ∧
    ∀ node, (world.frames node).length ≤ 65536 →
      (∀ cycle action, (world.endings node)[cycle]? = some action →
        action.type = .transactionComplete →
          ∃ packet ∈ world.accepted, Uplink world node cycle packet) ∧
      ∀ first ∈ world.accepted, ∀ second ∈ world.accepted,
        first.source = (config node).nodeAddress → second.source = (config node).nodeAddress →
          first.sequence = second.sequence → first = second := by
  intro world
  have sound : Sound config world :=
    (stands_reaches (contract_kept apart) (powerUp_stands config static) reaches).invariant
  refine ⟨sound.paced, ?_, sound.completed, fun node short => ⟨?_, ?_⟩⟩
  · intro packet member
    obtain ⟨node, number, uplink⟩ := sound.taken packet member
    exact ⟨node, number, uplink, uplink_numbered sound uplink⟩
  · intro cycle action found completes
    obtain ⟨number, packet, before, congruent, uplink, member⟩ :=
      sound.completed node cycle action found completes
    have ended := (List.getElem?_eq_some_iff.mp found).1
    have same : number = cycle := by
      apply congruent.eq_of_lt_of_lt
      · rcases sound.paced node with paced | paced <;> omega
      · rcases sound.paced node with paced | paced <;> omega
    exact ⟨packet, member, same ▸ uplink⟩
  · intro first firstMember second secondMember firstSource secondSource sequence
    obtain ⟨sender, number, uplink⟩ := sound.taken first firstMember
    obtain ⟨other, later, otherUplink⟩ := sound.taken second secondMember
    obtain ⟨source, -, numbered⟩ := uplink_numbered sound uplink
    obtain ⟨otherSource, -, otherNumbered⟩ := uplink_numbered sound otherUplink
    have mine : sender = node := apart (source.symm.trans firstSource)
    have itsOwn : other = node := apart (otherSource.symm.trans secondSource)
    subst mine itsOwn
    rw [sequence] at numbered
    exact (number_unique short uplink otherUplink (numbered.symm.trans otherNumbered)).2

end Nodes

section Bench

def silence : ReadAnswer := ⟨0, List.replicate 256 0, empty_frame_size⟩

theorem padded_size {frame : List Byte} (short : frame.length < 256) :
    (frame ++ List.replicate (256 - frame.length) 0).length = 256 := by
  rw [List.length_append, List.length_replicate]
  omega

def packed (frame : List Byte) : ReadAnswer :=
  if short : frame.length < 256 then
    ⟨BitVec.ofNat 8 frame.length, frame ++ List.replicate (256 - frame.length) 0,
      padded_size short⟩
  else silence

def lastHeard (air : List (List Byte)) : ReadAnswer := air.getLast?.elim silence packed

theorem last_heard (air : List (List Byte)) :
    Heard air ((lastHeard air).frame.take (lastHeard air).count.toNat) := by
  have nothing : Heard air [] := by
    apply Heard.noise
    intro packet reads
    have empty : parse [] = none := by decide
    rw [reads_iff, empty] at reads
    exact absurd reads (by simp)
  rw [lastHeard]
  cases last : air.getLast? with
  | none => exact nothing
  | some frame =>
      simp only [Option.elim_some, packed]
      split_ifs with short
      · have count : (BitVec.ofNat 8 frame.length).toNat = frame.length := by
          rw [BitVec.toNat_ofNat]
          exact Nat.mod_eq_of_lt short
        rw [count, List.take_left]
        exact .whole frame (List.mem_of_getLast? last)
      · exact nothing

/-- A bench on which every driver works and a frame on the air is heard at once. -/
def serve (node : Bool) {Reply : Type} (world : World Bool) (call : Call Reply) :
    Reply × World Bool :=
  let answer : Reply := match call with
    | .available => 9
    | .read _ => lastHeard world.air
    | call => (bench 5000 call).1
  let air := match call with
    | .transmit frame length _ => world.air ++ [frame.take length.toNat]
    | _ => world.air
  (answer, ⟨Function.update world.shown node (world.shown node ++ (markOf call answer).toList),
    air, world.accepted⟩)

def twoNodes (node : Bool) : AppConfig :=
  { AppConfig.default with nodeAddress := if node then 0x03 else 0x02 }

theorem bench_serves (node : Bool) {Reply : Type} (world : World Bool) (call : Call Reply) :
    (system twoNodes).answers node world call (serve node world call).1
      (serve node world call).2 := by
  cases call with
  | transmit frame length timeoutMs => exact ⟨.inl rfl, rfl, rfl⟩
  | read length => exact ⟨⟨rfl, last_heard world.air⟩, rfl, rfl⟩
  | _ => exact ⟨rfl, rfl, rfl⟩

def switchedOn : AppState × World Bool :=
  (startNode (twoNodes false) .zero).simulate (serve false) ⟨fun _ => [], [], []⟩

def uplinkSent : AppState × World Bool :=
  (tasks (twoNodes false) switchedOn.1).simulate (serve false) switchedOn.2

def uplinkFrame : List Byte := uplinkSent.2.air.headD []

def uplinkPacket : Message := (decode (some uplinkFrame) Message.zero).2

def firstAck : List Byte := [0x03, 0x00, 0x02, 0x00, 0x00, 0x00, 0x00, 0x6D, 0xCF]

def ackPacket : Message := (decode (some firstAck) Message.zero).2

def uplinkAccepted : World Bool :=
  { uplinkSent.2 with accepted := uplinkSent.2.accepted ++ [uplinkPacket] }

def ackSent : World Bool := { uplinkAccepted with air := uplinkAccepted.air ++ [firstAck] }

def ackHeard : AppState × World Bool :=
  (tasks (twoNodes false) uplinkSent.1).simulate (serve false) ackSent

theorem bench_turn {programs : Bool → App AppState} {state : AppState} (world : World Bool)
    (ended : programs false = .done state) :
    let turn := (tasks (twoNodes false) state).simulate (serve false) world
    ∃ later, later false = .done turn.1 ∧
      Reaches (system twoNodes) ⟨programs, world⟩ ⟨later, turn.2⟩ := by
  intro turn
  have again : Step (system twoNodes) ⟨programs, world⟩
      ⟨Function.update programs false (tasks (twoNodes false) state), world⟩ :=
    .again false state programs world ended
  have served := reaches_served (bench_serves false)
    (Function.update programs false (tasks (twoNodes false) state)) world
    (Function.update_self ..)
  exact ⟨_, Function.update_self .., .head again served⟩

theorem gateway_answers :
    GatewayStep uplinkSent.2 uplinkAccepted ∧ GatewayStep uplinkAccepted ackSent := by
  have uplink : (decode (some uplinkFrame) Message.zero).1 = true := by decide +kernel
  have aired : uplinkFrame ∈ uplinkSent.2.air := by decide +kernel
  have type : uplinkPacket.type = .data := by decide +kernel
  have framed : (decode (some firstAck) Message.zero).1 = true := by decide +kernel
  have member : uplinkPacket ∈ uplinkAccepted.accepted := List.mem_append_right _ (by simp)
  have same : ackPacket.type = .ack ∧ ackPacket.destination = uplinkPacket.source ∧
      ackPacket.transactionId = uplinkPacket.transactionId ∧
        ackPacket.sequence = uplinkPacket.sequence := by
    decide +kernel
  constructor
  · exact .accept uplinkFrame uplinkPacket (.whole _ aired) (Prod.ext uplink rfl) (.inl type)
  · exact .acknowledge uplinkPacket ackPacket firstAck member
      (Prod.ext framed (by rw [ackPacket])) same.1 same.2.1 same.2.2.1 same.2.2.2

/-- The first cycle of node 2, and what has been agreed at its end. -/
theorem network_agrees_once :
    ((ackHeard.2.endings false).map Action.type = [.transactionComplete]) ∧
      ∃ packet ∈ ackHeard.2.accepted, Uplink ackHeard.2 false 0 packet := by
  have apart : Function.Injective fun node => (twoNodes node).nodeAddress := by decide
  have completes : (ackHeard.2.endings false).map Action.type = [.transactionComplete] := by
    decide +kernel
  have on := reaches_served (bench_serves false) (powerUp twoNodes fun _ => .zero).programs
    ⟨fun _ => [], [], []⟩ rfl
  obtain ⟨sending, sent, sends⟩ := bench_turn switchedOn.2 (Function.update_self ..)
  obtain ⟨hearing, heard, hears⟩ := bench_turn ackSent sent
  have gateway : Reaches (system twoNodes) ⟨sending, uplinkSent.2⟩ ⟨sending, ackSent⟩ :=
    .tail (.single (.world _ _ _ gateway_answers.1)) (.world _ _ _ gateway_answers.2)
  have reaches := ((on.trans sends).trans gateway).trans hears
  have agrees := network_agrees twoNodes (fun _ => .zero) apart _ reaches
  have ended : (ackHeard.2.endings false)[0]?.map Action.type = some .transactionComplete := by
    rw [← List.getElem?_map, completes]
    rfl
  have short : (ackHeard.2.frames false).length ≤ 65536 := by decide +kernel
  obtain ⟨action, found, type⟩ := Option.map_eq_some_iff.mp ended
  exact ⟨completes, (agrees.2.2.2 false short).1 0 action found type⟩

end Bench

end LoraNode.Network
