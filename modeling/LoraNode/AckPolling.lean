import LoraNode.AckWindow
import LoraNode.ReceptionDriver

/-!
# One call of the application in the ACK window

`LORA_APP_Tasks` keeps waiting, with every owed packet handed to the state
machine or still in the radio, or it ends the cycle. Nothing is said of runs
the monitor does not admit.
-/

namespace LoraNode.Reception

open LoraNode.Foundation LoraNode.Foundation.Bytes LoraNode.Foundation.Program LoraNode.NodeState
  LoraNode.LoraApp LoraNode.Sx1278

variable {env : Environment} {First Second Reply Result : Type}

theorem took_admitted (monitor : Monitor) (frame : List Byte) :
    (monitor.took frame).admitted = monitor.admitted := by
  rw [Monitor.took]
  cases monitor.owed with
  | nothing => rfl
  | raised packet => rfl
  | located packet => rfl
  | buffered packet =>
      simp only
      split_ifs <;> rfl

theorem met_admitted (monitor : Monitor) (event : Event) :
    (monitor.met event).admitted = monitor.admitted := by
  rw [Monitor.met]
  split
  · exact took_admitted monitor _
  · rfl

theorem noted_admitted (monitor : Monitor) (type : ActionType) :
    (monitor.noted type).admitted = monitor.admitted := by
  rw [Monitor.noted]
  split_ifs <;> rfl

structure Later (bench next : Bench) : Prop where
  moment : bench.air.moment ≤ next.air.moment
  admitted : next.air.monitor.admitted = true → bench.air.monitor.admitted = true

theorem later_same (bench : Bench) : Later bench bench := ⟨le_rfl, id⟩

theorem later_trans (first second third : Bench) (left : Later first second)
    (right : Later second third) : Later first third :=
  ⟨left.moment.trans right.moment, fun holds => left.admitted (right.admitted holds)⟩

theorem receive_later (bench : Bench) : Later bench (bench.receive env) :=
  ⟨(receive_follows env bench.air).moment, (receive_follows env bench.air).admitted⟩

theorem drive_later (Reply : Type) (bench : Bench) (call : Call Reply) :
    Later bench (drive env bench call).2 := by
  cases call with
  | receive length =>
      have follows := driver_follows env (Sx1278.receive bench.module length) bench.air
      exact ⟨follows.moment, follows.admitted⟩
  | available =>
      have first := receive_follows env bench.air
      have follows := driver_follows env (Sx1278.available bench.module) (bench.polled env)
      exact ⟨first.moment.trans follows.moment,
        fun holds => first.admitted (follows.admitted holds)⟩
  | handled event result =>
      have noted := noted_admitted (bench.air.monitor.met event) result.action.type
      have met := met_admitted bench.air.monitor event
      exact ⟨le_rfl, (noted.trans met).symm.trans⟩
  | read length =>
      have follows := receive_follows env bench.air
      exact ⟨follows.moment, follows.admitted⟩
  | _ => exact receive_later bench

def Sees (env : Environment) (program : App Result) (bench : Bench)
    (post : Result → Bench → Prop) : Prop :=
  program.Yields (drive env) bench fun result after =>
    after.air.monitor.admitted = true → post result after

theorem sees_pure (result : Result) (bench : Bench) (post : Result → Bench → Prop)
    (holds : post result bench) : Sees env (pure result) bench post :=
  fun _ => holds

theorem sees_mono {program : App Result} {bench : Bench} {first second : Result → Bench → Prop}
    (sees : Sees env program bench first)
    (weaker : ∀ result after, first result after → second result after) :
    Sees env program bench second :=
  yields_mono sees fun result after holds admitted => weaker result after (holds admitted)

theorem sees_call {call : Call Reply} {bench : Bench} {post : Reply → Bench → Prop}
    (does : (drive env bench call).2.air.monitor.admitted = true →
      post (drive env bench call).1 (drive env bench call).2) :
    Sees env (invoke call) bench post := by
  rw [Sees, invoke, yields_perform]
  exact does

/-- What follows may assume that the run was admitted so far. -/
theorem sees_seq {program : App First} {next : First → App Second} {bench : Bench}
    {middle : First → Bench → Prop} {post : Second → Bench → Prop}
    (first : Sees env program bench middle)
    (second : ∀ value after, middle value after → Sees env (next value) after post) :
    Sees env (program >>= next) bench post := by
  apply yields_seq first
  intro value after holds admitted
  have later : Later after ((next value).simulate (drive env) after).2 :=
    simulate_related later_same later_trans drive_later (next value) after
  exact second value after (holds (later.admitted admitted)) admitted

theorem sees_handle {config : AppConfig} {state : AppState} {event : Event} {bench : Bench}
    {post : HandleResult × AppState → Bench → Prop}
    (does : let result := handleEvent config state.nodeContext event .zero
      post (result, { state with nodeContext := result.context })
        (drive env bench (.handled event result)).2) :
    Sees env (handle config state event) bench post :=
  fun _ => does

theorem sees_ite (condition : Prop) [Decidable condition] {first second : App Result}
    {bench : Bench} {post : Result → Bench → Prop}
    (met : condition → Sees env first bench post)
    (unmet : ¬condition → Sees env second bench post) :
    Sees env (if condition then first else second) bench post := by
  rw [Sees, yields_ite]
  exact ⟨met, unmet⟩

theorem sees_moment {program : App Result} {bench : Bench} {post : Result → Bench → Prop}
    (sees : Sees env program bench post) :
    Sees env program bench fun result after =>
      post result after ∧ bench.air.moment ≤ after.air.moment := by
  intro admitted
  have later : Later bench (program.simulate (drive env) bench).2 :=
    simulate_related later_same later_trans drive_later program bench
  exact ⟨sees admitted, later.moment⟩

theorem sees_value {value : First} {next : First → App Second} {bench : Bench}
    {post : Second → Bench → Prop} (rest : Sees env (next value) bench post) :
    Sees env (pure value >>= next) bench post := rest

theorem sees_run {program : App Result} {bench : Bench} {post : Result → Bench → Prop}
    (sees : Sees env program bench post) :
    let ran := program.simulate (drive env) bench
    ran.2.air.monitor.admitted = true → post ran.1 ran.2 := sees

-- From here on a program is read through the rules above only.
attribute [irreducible] Sees

def Lasting (env : Environment) (assertion : Bench → Prop) : Prop :=
  ∀ bench, assertion bench → (bench.receive env).air.monitor.admitted = true →
    assertion (bench.receive env)

theorem sees_idle {call : Call Reply} {bench : Bench} {assertion : Bench → Prop}
    (idle : (drive env bench call).2 = bench.receive env) (lasting : Lasting env assertion)
    (holds : assertion bench) :
    Sees env (invoke call) bench fun _ after => assertion after := by
  apply sees_call
  rw [idle]
  exact lasting bench holds

/-- The clock answers with the tick of a moment that has passed. -/
theorem sees_now {bench : Bench} {assertion : Bench → Prop} (lasting : Lasting env assertion)
    (holds : assertion bench) :
    Sees env (invoke .nowMs) bench fun tick after =>
      assertion after ∧ ∃ moment, bench.air.moment ≤ moment ∧ moment < after.air.moment ∧
        tick = env.tick moment := by
  apply sees_call
  intro admitted
  refine ⟨lasting bench holds admitted, bench.air.moment, le_rfl, ?_, rfl⟩
  have moves : (bench.receive env).air.moment = bench.air.moment + 1 := by
    rcases receive_cases env bench.air with ⟨packet, -, received⟩ | received
    · rw [Bench.receive, received]
    · rw [Bench.receive, received]
  exact Nat.lt_of_lt_of_eq (Nat.lt_succ_self _) moves.symm

/-- The node waits in this context since the window opened and these packets have
been handed over. -/
structure Phase (opened : Nat) (context : Context) (handed : List Packet)
    (assertion : Bench → Prop) (state : AppState) (bench : Bench) : Prop where
  since : opened ≤ bench.air.moment
  ready : state.loraReady = true
  context : state.nodeContext = context
  explicit : bench.module.loraSf ≠ loraSf6
  handed : bench.air.monitor.handed = handed
  bench : assertion bench

theorem phase_moves {opened : Nat} {context : Context} {handed : List Packet}
    {before after : Bench → Prop} {state next : AppState} {bench : Bench}
    (phase : Phase opened context handed before state bench)
    (ready : next.loraReady = state.loraReady) (same : next.nodeContext = state.nodeContext)
    (holds : after bench) : Phase opened context handed after next bench :=
  ⟨phase.since, ready.trans phase.ready, same.trans phase.context, phase.explicit, phase.handed,
    holds⟩

theorem phase_lasting {opened : Nat} {context : Context} {handed : List Packet}
    {assertion : Bench → Prop} {state : AppState} (lasting : Lasting env assertion) :
    Lasting env (Phase opened context handed assertion state) := by
  intro bench phase admitted
  have follows := receive_follows env bench.air
  exact ⟨phase.since.trans follows.moment, phase.ready, phase.context, phase.explicit,
    follows.handed.trans phase.handed, lasting bench phase.bench admitted⟩

/-- Nothing has been lost and no packet is on its way into the receive buffer. -/
structure Accounted (air : Air) : Prop where
  lost : air.monitor.lost = []
  due : air.monitor.due = air.monitor.owed.packets ++ air.monitor.handed
  resting : air.monitor.owed = .nothing ∨ ∃ packet, air.monitor.owed = .raised packet

theorem spent_accounted {air : Air} (spent : Spent air) : Accounted air :=
  ⟨spent.lost, spent.due, .inl spent.owed⟩

theorem listening_accounted {owed : Owed} {air : Air} (listening : Listening owed air) :
    Accounted air := by
  have owes := listening.flagged.owed
  refine ⟨listening.flagged.lost, listening.flagged.due, ?_⟩
  cases listening.rests with
  | nothing low => exact .inl owes
  | raised packet high holds long => exact .inr ⟨packet, owes⟩

def Settled (bench : Bench) : Prop := (∃ owed, Heard owed bench.air) ∨ Spent bench.air

theorem settled_accounted {bench : Bench} (settled : Settled bench) : Accounted bench.air := by
  rcases settled with ⟨owed, now, listening, -⟩ | spent
  · exact listening_accounted listening
  · exact spent_accounted spent

theorem settled_ended {bench : Bench} (settled : Settled bench) :
    bench.air.monitor.ended = [] := by
  rcases settled with ⟨owed, now, listening, -⟩ | spent
  · exact listening.flagged.ended
  · exact spent.ended

theorem noted_ended {monitor : Monitor} (unfinished : monitor.ended = []) {type : ActionType}
    (visible : type ≠ .none) : (monitor.noted type).ended = [type] := by
  rw [Monitor.noted, if_neg visible, unfinished]

theorem noted_accounted {air : Air} (accounted : Accounted air) (type : ActionType) :
    Accounted { air with monitor := air.monitor.noted type } := by
  rw [Monitor.noted]
  split_ifs
  · exact accounted
  · exact ⟨accounted.lost, accounted.due, accounted.resting⟩

theorem ended_accounted (env : Environment) {air : Air} (closed : air.monitor.ended ≠ [])
    (accounted : Accounted air) : Accounted (air.receive env) := by
  rcases receive_cases env air with ⟨packet, -, received⟩ | received
  · have excused : air.monitor.owes air.radio = false := by
      rw [Monitor.owes, List.isEmpty_eq_false_iff.mpr closed]
      rfl
    rw [received]
    simp only [Monitor.raise, excused, Bool.false_eq_true, if_false]
    exact ⟨accounted.lost, accounted.due, accounted.resting⟩
  · rw [received]
    exact ⟨accounted.lost, accounted.due, accounted.resting⟩

/-- The cycle has ended in this window: by its ACK, or by a tick past the deadline. -/
structure Finished (config : AppConfig) (env : Environment) (opened : Nat) (context : Context)
    (state : AppState) (bench : Bench) : Prop where
  idle : state.nodeContext.state = .waitInterval
  accounted : Accounted bench.air
  ended : bench.air.monitor.ended = [.transactionComplete] ∨
    bench.air.monitor.ended = [.ackTimeout] ∧ ∃ moment, opened ≤ moment ∧
      moment < bench.air.moment ∧ config.ackTimeoutMs ≤ env.tick moment - context.ackStartedTickMs

theorem finished_lasting (config : AppConfig) (env : Environment) (opened : Nat) (context : Context)
    (state : AppState) :
    Lasting env (Finished config env opened context state) := by
  intro bench finished _
  have follows := receive_follows env bench.air
  have closed : bench.air.monitor.ended ≠ [] := by
    rcases finished.ended with complete | ⟨timeout, -⟩
    · rw [complete]
      exact List.cons_ne_nil _ _
    · rw [timeout]
      exact List.cons_ne_nil _ _
  refine ⟨finished.idle, ended_accounted env closed finished.accounted, ?_⟩
  have same : (bench.receive env).air.monitor.ended = bench.air.monitor.ended := follows.ended
  rw [same]
  rcases finished.ended with complete | ⟨timeout, moment, since, passed, late⟩
  · exact Or.inl complete
  · exact Or.inr ⟨timeout, moment, since, Nat.lt_of_lt_of_le passed follows.moment, late⟩

def Strangers (context : Context) (packets : List Packet) : Prop :=
  ∀ packet ∈ packets, ¬IsAckFor context.nodeAddress context.pendingTransactionId
    context.pendingSequence packet.bytes

def Bench.meets (bench : Bench) (event : Event) : Bench :=
  { bench with air := { bench.air with monitor := bench.air.monitor.met event } }

section Event

variable {config : AppConfig} {opened : Nat} {context : Context} {state : AppState} {bench : Bench}
  (waiting : context.state = .waitAck) (same : state.nodeContext = context)

include waiting same

/-- `NODE_STATE_HandleEvent` in the window: the event is ignored or the cycle ends. -/
theorem handle_sees (event : Event) (settled : Settled (bench.meets event))
    (clock : ∃ moment, opened ≤ moment ∧ moment < bench.air.moment ∧
      event.tickMs = env.tick moment) :
    Sees env (handle config state event) bench fun out after =>
      out.1.handled = true ∧
        ((out.1.action.type = .none ∧ ¬CarriesAck context event ∧ out.2 = state ∧
            after = bench.meets event) ∨
          (out.1.action.type.terminal = true ∧
            Finished config env opened context out.2 after)) := by
  have window : AckWindow.Window context context.ackStartedTickMs := ⟨waiting, rfl⟩
  apply sees_handle
  rw [same]
  by_cases decisive : AckWindow.Decisive config context context.ackStartedTickMs event
  · have decided := AckWindow.decisive_event config window event .zero decisive
    have accounted := fun type => noted_accounted (settled_accounted settled) type
    obtain ⟨moment, since, passed, tick⟩ := clock
    by_cases late : config.ackTimeoutMs ≤ event.tickMs - context.ackStartedTickMs
    · rw [if_pos late] at decided
      rw [decided]
      refine ⟨rfl, Or.inr ⟨rfl, rfl, accounted .ackTimeout, Or.inr ⟨?_, moment, since, passed, ?_⟩⟩⟩
      · exact noted_ended (settled_ended settled) (ActionType.terminal_acts rfl).1
      · rw [← tick]
        exact late
    · rw [if_neg late] at decided
      rw [decided]
      refine ⟨rfl, Or.inr ⟨rfl, rfl, accounted .transactionComplete, Or.inl ?_⟩⟩
      exact noted_ended (settled_ended settled) (ActionType.terminal_acts rfl).1
  · obtain ⟨handled, kept, nothing⟩ := AckWindow.idle_event config window event .zero decisive
    rw [AckWindow.Decisive, not_or] at decisive
    refine ⟨handled, Or.inl ⟨nothing, decisive.2, ?_, ?_⟩⟩
    · rw [kept, ← same]
    · simp only [drive, Monitor.saw, Monitor.noted, nothing, if_true]
      rfl

theorem timer_sees {handed : List Packet} {assertion : Bench → Prop}
    (phase : Phase opened context handed assertion state bench)
    (settles : assertion bench → Settled bench) (tick : BitVec 32)
    (clock : ∃ moment, opened ≤ moment ∧ moment < bench.air.moment ∧ tick = env.tick moment) :
    Sees env (handle config state ⟨.timerTick, none, tick⟩) bench fun out after =>
      out.1.handled = true ∧
        ((out.1.action.type = .none ∧ out.2 = state ∧
            Phase opened context handed assertion state after) ∨
          (out.1.action.type.terminal = true ∧
            Finished config env opened context out.2 after)) := by
  apply sees_mono (handle_sees waiting same ⟨.timerTick, none, tick⟩ (settles phase.bench) clock)
  intro out after found
  rcases found with ⟨handled, ⟨nothing, -, kept, stays⟩ | finished⟩
  · refine ⟨handled, Or.inl ⟨nothing, kept, ?_⟩⟩
    rw [stays]
    exact phase
  · exact ⟨handled, Or.inr finished⟩

theorem frame_sees {handed : List Packet} {received : ReadAnswer} {owed : Owed}
    (phase : Phase opened context handed (fun bench => Taken received owed bench.air) state bench)
    (strangers : Strangers context handed) (tick : BitVec 32)
    (clock : ∃ moment, opened ≤ moment ∧ moment < bench.air.moment ∧ tick = env.tick moment) :
    let frame := received.frame.take received.count.toNat
    Sees env (handle config state ⟨.frameReceived, some frame, tick⟩) bench fun out after =>
      out.1.handled = true ∧
        ((out.1.action.type = .none ∧ out.2 = state ∧
            Phase opened context (owed.packets ++ handed) (fun bench => Spent bench.air) state
              after ∧ Strangers context (owed.packets ++ handed)) ∨
          (out.1.action.type.terminal = true ∧
            Finished config env opened context out.2 after)) := by
  intro frame
  obtain ⟨spent, given⟩ := took_spends phase.bench
  apply sees_mono (handle_sees waiting same ⟨.frameReceived, some frame, tick⟩ (Or.inr spent)
    clock)
  intro out after found
  rcases found with ⟨handled, ⟨nothing, foreign, kept, stays⟩ | finished⟩
  · refine ⟨handled, Or.inl ⟨nothing, kept, ?_, ?_⟩⟩
    · rw [stays]
      exact ⟨phase.since, phase.ready, phase.context, phase.explicit,
        given.trans (by rw [phase.handed]), spent⟩
    · intro packet member
      rcases List.mem_append.mp member with new | old
      · rcases phase.bench.frame with rfl | ⟨buffered, rfl, bytes⟩
        · cases new
        · obtain rfl := List.mem_singleton.mp new
          exact fun isAck => foreign ⟨rfl, packet.bytes, congrArg some bytes, isAck⟩
      · exact strangers packet old
  · exact ⟨handled, Or.inr finished⟩

end Event

end LoraNode.Reception
