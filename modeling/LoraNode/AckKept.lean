import LoraNode.AckPolling

/-!
# No frame costs the node its ACK, unless it comes in the re-arm

A packet the node owes an answer is handed to the state machine in the call
after it was raised at the latest. The exception is a packet completed between
`SX1278_read` and the standby write of the next `SX1278_LoRaEntryRx`, which the
clear of that function discards.
-/

namespace LoraNode.Reception

open LoraNode.Foundation LoraNode.Foundation.Bytes LoraNode.Foundation.Program LoraNode.NodeState
  LoraNode.LoraApp LoraNode.Sx1278

variable {config : AppConfig} {env : Environment} {opened : Nat} {context : Context}
  {handed : List Packet} {state : AppState} {bench : Bench}

theorem heard_lasting (env : Environment) (owed : Owed) :
    Lasting env fun bench => Heard owed bench.air :=
  fun bench => heard_stable env owed bench.air

theorem spent_lasting (env : Environment) : Lasting env fun bench => Spent bench.air :=
  fun bench => spent_stable env bench.air

theorem fetched_lasting (env : Environment) (owed : Owed) :
    Lasting env fun bench => Fetched bench.module owed bench.air :=
  fun bench => fetched_stable env bench.module owed bench.air

/-- `LORA_APP_HandleAction` after the end of a cycle logs and restarts the interval. -/
theorem finished_action {action : Action} (terminal : action.type.terminal = true)
    (finished : Finished config env opened context state bench) :
    Sees env (handleAction config state action) bench fun next after =>
      Finished config env opened context next after := by
  have ends := (ActionType.terminal_iff action.type).mp terminal
  obtain ⟨-, notSample⟩ := ActionType.terminal_acts terminal
  have logged : Sees env (logTerminalAction action) bench fun _ after =>
      Finished config env opened context state after := by
    have lasting := finished_lasting config env opened context state
    rw [logTerminalAction]
    rcases ends with type | type | type
    · rw [type]
      exact sees_idle rfl lasting finished
    · rw [type]
      exact sees_idle rfl lasting finished
    · rw [type]
      exact sees_idle rfl lasting finished
  rw [handleAction, if_neg notSample]
  apply sees_seq logged
  intro _ after finished
  rw [if_pos ends, restartInterval]
  apply sees_seq (sees_now (finished_lasting config env opened context state) finished)
  intro tick last found
  obtain ⟨ended, -⟩ := found
  exact sees_pure _ _ _ ⟨ended.idle, ended.accounted, ended.ended⟩

theorem no_action {action : Action} (nothing : action.type = .none) :
    handleAction config state action = pure state := by
  rw [handleAction, if_neg (by rw [nothing]; decide), if_neg (by rw [nothing]; decide),
    logTerminalAction, nothing]
  rfl

theorem log_received_sees {assertion : Bench → Prop} (lasting : Lasting env assertion)
    (holds : assertion bench) (received : ReadAnswer) (action : Action) :
    Sees env (logReceived received action) bench fun _ after => assertion after := by
  have rest (after : Bench) (holds : assertion after) : Sees env
      (if action.ignoreReason ≠ .none then invoke (.log "status: RX frame ignored\r\n")
        else pure ()) after fun _ last => assertion last := by
    apply sees_ite
    · exact fun _ => sees_idle rfl lasting holds
    · exact fun _ => sees_pure _ _ _ holds
  rw [logReceived]
  apply sees_ite
  · exact fun _ => sees_seq (sees_idle rfl lasting holds) fun _ => rest
  · exact fun _ => sees_seq (sees_idle rfl lasting holds) fun _ => rest

theorem available_sees {owed : Owed}
    (phase : Phase opened context handed (fun bench => Heard owed bench.air) state bench) :
    Sees env (invoke .available) bench fun bytesReceived after =>
      (bytesReceived = 0 ∧ owed = .nothing ∧
          Phase opened context handed (fun bench => Heard .nothing bench.air) state after) ∨
        (bytesReceived ≠ 0 ∧ ∃ now, (∀ packet, owed = .raised packet → now = .buffered packet) ∧
          Phase opened context handed (fun bench => Fetched bench.module now bench.air) state
            after) := by
  have first := receive_follows env bench.air
  have follows := driver_follows env (Sx1278.available bench.module) (bench.polled env)
  apply sees_call
  intro admitted
  have kept (assertion : Bench → Prop) (sf : (drive env bench .available).2.module.loraSf =
      bench.module.loraSf) (holds : assertion (drive env bench .available).2) :
      Phase opened context handed assertion state (drive env bench .available).2 :=
    ⟨phase.since.trans (first.moment.trans follows.moment), phase.ready, phase.context,
      sf.trans_ne phase.explicit, (follows.handed.trans first.handed).trans phase.handed, holds⟩
  obtain ⟨sf, ⟨zero, idle, listening⟩ | ⟨some, now, carried, fetched⟩⟩ :=
    available_fetches phase.explicit owed phase.bench admitted
  · exact Or.inl ⟨zero, idle, kept _ sf ⟨.nothing, listening, Or.inl rfl⟩⟩
  · exact Or.inr ⟨some, now, carried, kept _ sf fetched⟩

theorem read_sees {owed : Owed}
    (phase : Phase opened context handed (fun bench => Fetched bench.module owed bench.air) state
      bench) (length : Byte) :
    Sees env (invoke (.read length)) bench fun received after =>
      Phase opened context handed (fun bench => Taken received owed bench.air) state after := by
  have follows := receive_follows env bench.air
  apply sees_call
  intro admitted
  obtain ⟨sf, taken⟩ := read_takes length owed phase.bench admitted
  exact ⟨phase.since.trans follows.moment, phase.ready, phase.context,
    sf.trans_ne phase.explicit, follows.handed.trans phase.handed, taken⟩

theorem start_receiver_sees
    (phase : Phase opened context handed (fun bench => Spent bench.air) state bench) :
    Sees env (startReceiver state) bench fun result after =>
      result.1 = true ∧ result.2.receiverStarted = true ∧
        Phase opened context handed (fun bench => Heard .nothing bench.air) result.2 after := by
  have received : Sees env (invoke (.receive packetLength)) bench fun answer after =>
      answer = 1 ∧
        Phase opened context handed (fun bench => Heard .nothing bench.air) state after := by
    have follows := driver_follows env (Sx1278.receive bench.module packetLength) bench.air
    obtain ⟨answer, sf, listening⟩ := receive_listens env packetLength fun _ => phase.bench
    apply sees_call
    intro admitted
    exact ⟨answer, phase.since.trans follows.moment, phase.ready, phase.context,
      sf.trans_ne phase.explicit, follows.handed.trans phase.handed, .nothing,
      listening admitted, Or.inl rfl⟩
  rw [startReceiver]
  apply sees_seq received
  intro answer after found
  obtain ⟨rfl, since, ready, context, explicit, handed, heard⟩ := found
  exact sees_pure _ _ _ ⟨rfl, rfl, since, ready, context, explicit, handed, heard⟩

/-- The receiver is started, or nothing is owed and it waits for its re-arm. -/
def Poised (owed : Owed) (state : AppState) (bench : Bench) : Prop :=
  (state.receiverStarted = true ∧ Heard owed bench.air) ∨
    (state.receiverStarted = false ∧ owed = .nothing ∧ Spent bench.air)

theorem poised_settles {owed : Owed} (poised : Poised owed state bench) : Settled bench := by
  rcases poised with ⟨-, heard⟩ | ⟨-, -, spent⟩
  · exact Or.inl ⟨owed, heard⟩
  · exact Or.inr spent

theorem poised_lasting (env : Environment) (owed : Owed) (state : AppState) :
    Lasting env (Poised owed state) := by
  intro bench poised admitted
  rcases poised with ⟨started, heard⟩ | ⟨stopped, idle, spent⟩
  · exact Or.inl ⟨started, heard_lasting env owed bench heard admitted⟩
  · exact Or.inr ⟨stopped, idle, spent_lasting env bench spent admitted⟩

section Waiting

variable (waiting : context.state = .waitAck)

include waiting

theorem idle_tick_sees {owed : Owed}
    (phase : Phase opened context handed (fun bench => Heard owed bench.air) state bench) :
    Sees env (idleTick config state) bench fun next after =>
      (next = state ∧ Phase opened context handed (fun bench => Heard owed bench.air) next after) ∨
        Finished config env opened context next after := by
  have lasting : Lasting env (Phase opened context handed (fun bench => Heard owed bench.air)
    state) := phase_lasting (heard_lasting env owed)
  rw [idleTick]
  apply sees_seq (sees_now lasting phase)
  intro tick after found
  obtain ⟨timed, moment, since, clock⟩ := found
  apply sees_seq (timer_sees waiting timed.context timed (fun heard => Or.inl ⟨owed, heard⟩) tick
    ⟨moment, phase.since.trans since, clock⟩)
  rintro ⟨result, next⟩ after ⟨handled, outcome⟩
  dsimp only at handled outcome ⊢
  rw [if_pos handled]
  rcases outcome with ⟨nothing, rfl, phase⟩ | ⟨terminal, finished⟩
  · rw [no_action nothing]
    apply sees_value
    rw [if_pos nothing]
    apply sees_seq (sees_idle rfl lasting phase)
    intro _ last phase
    exact sees_pure _ _ _ (Or.inl ⟨rfl, phase⟩)
  · apply sees_seq (finished_action terminal finished)
    intro ended last finished
    rw [if_neg (ActionType.terminal_acts terminal).1]
    exact sees_pure _ _ _ (Or.inr finished)

def Polled (config : AppConfig) (env : Environment) (opened : Nat) (context : Context)
    (handed : List Packet) (owed : Owed) (next : AppState) (after : Bench) : Prop :=
  (∃ given, Phase opened context given (Poised .nothing next) next after ∧ Strangers context given ∧
      handed ⊆ given ∧ ∀ packet, owed = .raised packet → packet ∈ given) ∨
    Finished config env opened context next after

theorem poll_receiver_sees {owed : Owed} (started : state.receiverStarted = true)
    (phase : Phase opened context handed (fun bench => Heard owed bench.air) state bench)
    (strangers : Strangers context handed) :
    Sees env (pollReceiver config state) bench (Polled config env opened context handed owed) := by
  rw [pollReceiver]
  apply sees_seq (available_sees phase)
  intro bytesReceived after found
  rcases found with ⟨rfl, rfl, polled⟩ | ⟨some, now, carried, polled⟩
  · rw [if_pos rfl]
    apply sees_mono (idle_tick_sees waiting polled)
    intro next last found
    rcases found with ⟨rfl, idle⟩ | finished
    · refine Or.inl ⟨handed, ?_, strangers, fun _ => id, fun packet raised => by cases raised⟩
      exact phase_moves idle rfl rfl (Or.inl ⟨started, idle.bench⟩)
    · exact Or.inr finished
  -- From here to the next re-arm a packet may be completed that nobody will read.
  · rw [if_neg some]
    apply sees_seq (sees_now (phase_lasting (fetched_lasting env now)) polled)
    intro tick timed found
    obtain ⟨reading, moment, since, passed, clock⟩ := found
    apply sees_seq (sees_moment (read_sees reading bytesReceived))
    intro received after found
    obtain ⟨taken, later⟩ := found
    have stopped : Phase opened context handed (fun bench => Taken received now bench.air)
        { state with receiverStarted := false } after := phase_moves taken rfl rfl taken.bench
    apply sees_seq (frame_sees waiting stopped.context stopped strangers tick
      ⟨moment, polled.since.trans since, Nat.lt_of_lt_of_le passed later, clock⟩)
    rintro ⟨result, next⟩ after ⟨handled, outcome⟩
    dsimp only at handled outcome ⊢
    rw [if_neg (by rw [handled]; decide)]
    rcases outcome with ⟨nothing, rfl, spent, foreign⟩ | ⟨terminal, finished⟩
    · apply sees_seq (log_received_sees (phase_lasting (spent_lasting env)) spent _ _)
      intro _ last logged
      rw [no_action nothing]
      apply sees_pure
      refine Or.inl ⟨now.packets ++ handed, ?_, foreign, List.subset_append_right _ _,
        fun packet raised => ?_⟩
      · exact phase_moves logged rfl rfl (Or.inr ⟨rfl, rfl, logged.bench⟩)
      · rw [carried packet raised]
        exact List.mem_cons_self
    · have lasting := finished_lasting config env opened context next
      apply sees_seq (log_received_sees lasting finished _ _)
      intro _ last finished
      exact sees_mono (finished_action terminal finished) fun _ _ => Or.inr

theorem tasks_sees {owed : Owed}
    (phase : Phase opened context handed (Poised owed state) state bench)
    (strangers : Strangers context handed) :
    Sees env (tasks config state) bench (Polled config env opened context handed owed) := by
  have acking : state.nodeContext.state = .waitAck := by rw [phase.context, waiting]
  rw [tasks, if_neg (by rw [phase.ready]; decide), if_neg (by rw [acking]; decide),
    if_neg (by rw [acking]; decide), waitAckTask]
  apply sees_seq (sees_now (phase_lasting (poised_lasting env owed state)) phase)
  intro tick after found
  obtain ⟨timed, moment, since, clock⟩ := found
  apply sees_seq (timer_sees waiting timed.context timed poised_settles tick
    ⟨moment, phase.since.trans since, clock⟩)
  rintro ⟨result, next⟩ after ⟨handled, outcome⟩
  dsimp only at handled outcome ⊢
  rcases outcome with ⟨nothing, rfl, quiet⟩ | ⟨terminal, finished⟩
  · rw [if_neg (fun acted => acted.2 nothing)]
    rcases quiet.bench with ⟨started, heard⟩ | ⟨stopped, rfl, spent⟩
    · rw [if_neg (by rw [started]; decide)]
      exact poll_receiver_sees waiting started (phase_moves quiet rfl rfl heard) strangers
    · rw [if_pos (by rw [stopped]; rfl)]
      have silent : Phase opened context handed (fun bench => Spent bench.air) next after :=
        phase_moves quiet rfl rfl spent
      apply sees_seq (start_receiver_sees silent)
      rintro ⟨received, restarted⟩ last ⟨received, started, listening⟩
      dsimp only at received started listening ⊢
      rw [if_neg (by rw [received]; decide)]
      exact poll_receiver_sees waiting started listening strangers
  · rw [if_pos ⟨handled, (ActionType.terminal_acts terminal).1⟩]
    exact sees_mono (finished_action terminal finished) fun _ _ => Or.inr

def Between (config : AppConfig) (env : Environment) (opened : Nat) (context : Context)
    (state : AppState) (bench : Bench) : Prop :=
  (∃ handed owed, Phase opened context handed (Poised owed state) state bench ∧
      Strangers context handed) ∨
    Finished config env opened context state bench

theorem window_sees (calls : Nat) (between : Between config env opened context state bench) :
    Sees env (window config calls state) bench (Between config env opened context) := by
  induction calls generalizing state bench with
  | zero => exact sees_pure _ _ _ between
  | succ calls induction =>
      rw [window]
      apply sees_ite
      · intro acking
        rcases between with ⟨handed, owed, phase, strangers⟩ | finished
        · apply sees_seq (tasks_sees waiting phase strangers)
          intro next after found
          rcases found with ⟨given, idle, foreign, -⟩ | finished
          · exact induction (Or.inl ⟨given, .nothing, idle, foreign⟩)
          · exact induction (Or.inr finished)
        · rw [finished.idle] at acking
          cases acking
      · intro _
        exact sees_pure _ _ _ between

end Waiting

theorem await_ack_sees (config : AppConfig) (env : Environment) (calls : Nat)
    (opening : Opening state bench) :
    Sees env (awaitAck config calls state) bench
      (Between config env bench.air.moment state.nodeContext) := by
  have monitor := opening.monitor
  have spent : Spent bench.air := by
    rw [Spent, monitor]
    exact ⟨rfl, rfl, rfl, rfl, rfl, rfl, rfl⟩
  have phase : Phase bench.air.moment state.nodeContext [] (fun bench => Spent bench.air) state
      bench :=
    ⟨le_rfl, opening.ready, rfl, opening.explicit, by rw [monitor]; rfl, spent⟩
  have listens : Sees env (listenForAck state) bench
      (Between config env bench.air.moment state.nodeContext) := by
    rw [listenForAck]
    apply sees_seq (start_receiver_sees phase)
    rintro ⟨received, next⟩ after ⟨received, started, listening⟩
    dsimp only at received started listening ⊢
    rw [if_pos received]
    apply sees_seq (sees_idle rfl (phase_lasting (heard_lasting env .nothing)) listening)
    intro _ last logged
    apply sees_pure
    refine Or.inl ⟨[], .nothing, ?_, fun packet member => by cases member⟩
    exact phase_moves logged rfl rfl (Or.inl ⟨started, logged.bench⟩)
  rw [awaitAck]
  exact sees_seq listens fun next after between => window_sees opening.waiting calls between

theorem between_accounted (between : Between config env opened context state bench) :
    Accounted bench.air := by
  rcases between with ⟨handed, owed, phase, -⟩ | finished
  · exact settled_accounted (poised_settles phase.bench)
  · exact finished.accounted

theorem poised_now {owed : Owed} (poised : Poised owed state bench) :
    Poised bench.air.monitor.owed state bench := by
  rcases poised with ⟨started, now, listening, -⟩ | ⟨stopped, -, spent⟩
  · rw [listening.flagged.owed]
    exact Or.inl ⟨started, now, listening, Or.inr rfl⟩
  · exact Or.inr ⟨stopped, spent.owed, spent⟩

/-- One more call hands over every packet that was owed, unless the cycle ends. -/
theorem next_call_hands (waiting : context.state = .waitAck)
    (between : Between config env opened context state bench) :
    Sees env (window config 1 state) bench fun next after =>
      (Strangers context after.air.monitor.handed ∧
          ∀ packet ∈ bench.air.monitor.due, packet ∈ after.air.monitor.handed) ∨
        Finished config env opened context next after := by
  have accounted := between_accounted between
  rw [window]
  rcases between with ⟨handed, owed, phase, strangers⟩ | finished
  · have now : Phase opened context handed (Poised bench.air.monitor.owed state) state bench :=
      phase_moves phase rfl rfl (poised_now phase.bench)
    rw [if_pos (by rw [phase.context, waiting])]
    apply sees_seq (tasks_sees waiting now strangers)
    intro next after found
    rcases found with ⟨given, idle, foreign, kept, carried⟩ | finished
    · apply sees_pure
      rw [idle.handed]
      refine Or.inl ⟨foreign, fun packet member => ?_⟩
      rw [accounted.due] at member
      rcases List.mem_append.mp member with new | old
      · rcases accounted.resting with idle | ⟨other, raised⟩
        · rw [idle] at new
          cases new
        · rw [raised] at new
          rw [List.mem_singleton.mp new]
          exact carried other raised
      · rw [phase.handed] at old
        exact kept old
    · exact sees_pure _ _ _ (Or.inr finished)
  · rw [if_neg (by rw [finished.idle]; decide)]
    exact sees_pure _ _ _ (Or.inr finished)

/-- In every run the monitor admits, each packet the node owes an answer is
handed to the state machine by the next call, before anything clears it, and
the matching ACK completes the cycle. -/
theorem owed_packets_handed (config : AppConfig) (env : Environment) (calls : Nat)
    (state : AppState) (bench : Bench) (opening : Opening state bench) :
    let ran := (awaitAck config calls state).simulate (drive env) bench
    let next := (window config 1 ran.1).simulate (drive env) ran.2
    let context := state.nodeContext
    (ran.2.air.monitor.admitted = true →
      ran.2.air.monitor.lost = [] ∧
        ran.2.air.monitor.due = ran.2.air.monitor.owed.packets ++ ran.2.air.monitor.handed) ∧
      (next.2.air.monitor.admitted = true → ∀ packet ∈ ran.2.air.monitor.due,
        (packet ∈ next.2.air.monitor.handed ∨ next.1.nodeContext.state = .waitInterval) ∧
          (IsAckFor context.nodeAddress context.pendingTransactionId context.pendingSequence
              packet.bytes →
            (∀ moment, bench.air.moment ≤ moment → moment < next.2.air.moment →
              ¬config.ackTimeoutMs ≤ env.tick moment - context.ackStartedTickMs) →
            next.1.nodeContext.state = .waitInterval ∧
              next.2.air.monitor.ended = [.transactionComplete])) := by
  intro ran next context
  have between := sees_run (await_ack_sees config env calls opening)
  constructor
  · intro admitted
    have accounted := between_accounted (between admitted)
    exact ⟨accounted.lost, accounted.due⟩
  · intro admitted packet due
    have later : Later ran.2 next.2 :=
      simulate_related later_same later_trans drive_later (window config 1 ran.1) ran.2
    have handed := sees_run (next_call_hands opening.waiting (between (later.admitted admitted)))
      admitted
    rcases handed with ⟨foreign, given⟩ | finished
    · have member := given packet due
      exact ⟨Or.inl member, fun isAck => absurd isAck (foreign packet member)⟩
    · refine ⟨Or.inr finished.idle, fun _ inTime => ⟨finished.idle, ?_⟩⟩
      rcases finished.ended with complete | ⟨-, moment, since, passed, late⟩
      · exact complete
      · exact absurd late (inTime moment since passed)

def foreignFrame : Packet where
  bytes := [0x03, 0x00, 0x03, 0x00, 0x00, 0x00, 0x00, 0xC7, 0x9E]
  start := 0
  short := by decide

def matchingAck : Packet where
  bytes := [0x03, 0x00, 0x02, 0x00, 0x00, 0x00, 0x00, 0x6D, 0xCF]
  start := 9
  short := by decide

/-- The clock counts moments up to the sixtieth and then shows the deadline. -/
def schedule (foreign ack : Nat) : Environment where
  arrival := fun moment =>
    if moment = foreign then some foreignFrame
    else if moment = ack then some matchingAck
    else none
  tick := fun moment => if moment < 60 then 5060 + BitVec.ofNat 32 moment else 6060

def waitingNode : AppState where
  nodeContext := ⟨.waitAck, 0x02, 0, 0, 0, 5060, 0, 0⟩
  loraReady := true
  dht11Ready := true
  receiverStarted := false

def openedBench : Bench where
  module := ⟨1, 64, .standby, Buffer.zero, 0⟩
  air := ⟨⟨fun address => if address = regOpMode then 0x89 else 0, fun _ => 0⟩, .opened, 0⟩

theorem schedule_in_time (foreign ack moment : Nat) (early : moment < 60) :
    ¬AppConfig.default.ackTimeoutMs ≤
      (schedule foreign ack).tick moment - waitingNode.nodeContext.ackStartedTickMs := by
  have tick : (schedule foreign ack).tick moment = 5060 + BitVec.ofNat 32 moment := if_pos early
  have elapsed : 5060 + BitVec.ofNat 32 moment - 5060 = BitVec.ofNat 32 moment := by
    rw [BitVec.add_comm, BitVec.add_sub_cancel]
  change ¬(1000 : BitVec 32) ≤ (schedule foreign ack).tick moment - 5060
  rw [tick, elapsed, BitVec.le_def, BitVec.toNat_ofNat]
  have wide : (1000 : BitVec 32).toNat = 1000 := rfl
  omega

/-- The ACK that comes after the re-arm completes the cycle. -/
theorem ack_kept_after_rearm :
    let ran := (awaitAck .default 2 waitingNode).simulate (drive (schedule 12 39)) openedBench
    let next := (window .default 1 ran.1).simulate (drive (schedule 12 39)) ran.2
    ran.2.air.monitor.lost = [] ∧ next.1.nodeContext.state = .waitInterval ∧
      next.2.air.monitor.ended = [.transactionComplete] := by
  obtain ⟨kept, hands⟩ := owed_packets_handed .default (schedule 12 39) 2 waitingNode openedBench
    ⟨rfl, rfl, by decide, rfl⟩
  have handed := hands (by decide +kernel) matchingAck (by decide +kernel)
  have isAck : IsAckFor 0x02 0 0 matchingAck.bytes := by decide +kernel
  have complete := handed.2 isAck fun moment _ bound =>
    schedule_in_time 12 39 moment (Nat.lt_of_lt_of_le bound (by decide +kernel))
  exact ⟨(kept (by decide +kernel)).1, complete⟩

/-- The ACK completes while the node prints the foreign frame, before the
deadline, and the re-arm of the next call discards it. -/
theorem ack_lost_in_rearm :
    let early := (awaitAck .default 3 waitingNode).simulate (drive (schedule 12 22)) openedBench
    let late := (awaitAck .default 12 waitingNode).simulate (drive (schedule 12 22)) openedBench
    IsAckFor 0x02 0 0 matchingAck.bytes ∧
      (∀ moment, moment < early.2.air.moment → ¬AppConfig.default.ackTimeoutMs ≤
        (schedule 12 22).tick moment - waitingNode.nodeContext.ackStartedTickMs) ∧
      early.2.air.monitor.due = [matchingAck, foreignFrame] ∧
        early.2.air.monitor.lost = [matchingAck] ∧
          early.1.nodeContext.state = .waitAck ∧
            late.2.air.monitor.handed = [foreignFrame] ∧
              late.2.air.monitor.ended = [.ackTimeout] := by
  decide +kernel

end LoraNode.Reception
