import LoraNode.AppTrace
import LoraNode.Foundation.LabelledRun

/-!
# The application loop

One call of `LORA_APP_Tasks` either does nothing for ever, sleeps and
transmits once, or waits for an ACK. Over a run this makes sleeps and ended
cycles take turns.
-/

namespace LoraNode.AppLoop

open LoraNode.Foundation LoraNode.Foundation.Bytes LoraNode.NodePacket LoraNode.NodeState
  LoraNode.CycleAccounting LoraNode.LoraApp LoraNode.AppTrace

section WaitAck

variable (config : AppConfig) (ended : Nat) (state : AppState)
  (ready : Ready config ended state) (acking : state.nodeContext.state = .waitAck)

include ready acking

theorem idle_tick_shows : Shows (idleTick config state) (AckOutcome config ended) := by
  rw [idleTick, shows_bind, shows_invoke]
  intro tick
  have handled := (wait_ack_event config ended state ready acking ⟨.timerTick, none, tick⟩).1
  rw [shows_bind, shows_handle]
  simp only [handled, if_true]
  refine shows_seq (handle_action_shows config ended state ready acking _) ?_
  intro before next outcome
  rw [shows_ite]
  constructor
  · intro nothing
    rw [shows_bind, shows_invoke_unit, shows_pure]
    simpa [markOf] using outcome
  · intro something
    rw [shows_pure]
    simpa [markOf] using outcome

theorem poll_receiver_shows : Shows (pollReceiver config state) (AckOutcome config ended) := by
  rw [pollReceiver, shows_bind, shows_invoke]
  intro bytesReceived
  rw [shows_ite]
  constructor
  · intro empty
    exact idle_tick_shows config ended state ready acking
  · intro pending
    rw [shows_bind, shows_invoke]
    intro tick
    rw [shows_bind, shows_invoke]
    intro received
    have unready : Ready config ended { state with receiverStarted := false } :=
      ⟨ready.ready, ready.valid, ready.accounted⟩
    have handled := (wait_ack_event config ended _ unready acking ⟨.frameReceived,
      some (received.frame.take received.count.toNat), tick⟩).1
    rw [shows_bind, shows_handle]
    simp only [handled, Bool.not_true, Bool.false_eq_true, if_false]
    rw [shows_bind, shows_log_received]
    refine shows_mono (handle_action_shows config ended _ unready acking _) ?_
    intro seen next outcome
    simpa [markOf] using outcome

theorem wait_ack_task_shows : Shows (waitAckTask config state) (AckOutcome config ended) := by
  rw [waitAckTask, shows_bind, shows_invoke]
  intro tick
  rw [shows_bind, shows_handle]
  obtain ⟨handled, outcome⟩ :=
    wait_ack_event config ended state ready acking ⟨.timerTick, none, tick⟩
  simp only [handled, true_and]
  rw [shows_ite]
  constructor
  · intro acted
    exact handle_action_shows config ended state ready acking ⟨.timerTick, none, tick⟩
  · intro nothing
    rw [not_not] at nothing
    rcases outcome with ⟨-, same⟩ | ⟨terminal, -⟩
    · -- No timeout: the poll goes on in the unchanged state.
      rw [same, actionMarks, if_pos nothing, shows_ite]
      constructor
      · intro stopped
        refine shows_seq (start_receiver_shows config ended state ready) ?_
        rintro before ⟨started, armed⟩ ⟨rfl, armedReady, sameContext⟩
        have armedAcking : armed.nodeContext.state = .waitAck := by rw [sameContext, acking]
        rw [shows_ite]
        constructor
        · intro failed
          rw [shows_bind, shows_invoke_unit]
          exact idle_tick_shows config ended armed armedReady armedAcking
        · intro listening
          exact poll_receiver_shows config ended armed armedReady armedAcking
      · intro listening
        exact poll_receiver_shows config ended state ready acking
    · rw [nothing] at terminal
      exact absurd terminal (by decide)

end WaitAck

def haltTrace : Trace :=
  [⟨.disableIrq .rtc, ()⟩, ⟨.disableIrq .sercom1, ()⟩, ⟨.disableIrq .sercom5, ()⟩,
    ⟨.standbyModeEnter, ()⟩]

theorem halted_task_ensures (state : AppState) :
    (haltedTask state).Ensures fun trace next => trace = haltTrace ∧ next = state :=
  fun _ _ _ _ => ⟨rfl, rfl⟩

def Initialized (config : AppConfig) (seen : List Mark) (result : Bool × AppState) : Prop :=
  seen = [] ∧ ((result.1 = true ∧ Ready config 0 result.2 ∧
      result.2.nodeContext.state = .waitInterval) ∨
    (result.1 = false ∧ result.2.loraReady = false))

theorem initialize_node_shows (config : AppConfig) (state : AppState) :
    Shows (initializeNode config state) (Initialized config) := by
  rw [initializeNode, shows_bind, shows_invoke_unit, shows_bind, shows_invoke]
  intro version
  rw [shows_ite]
  constructor
  · intro missing
    rw [shows_bind, shows_invoke_unit]
    exact ⟨rfl, Or.inr ⟨rfl, by simpa using missing⟩⟩
  · intro detected
    rw [Bool.not_eq_true, Bool.not_eq_false'] at detected
    rw [shows_bind, shows_invoke_unit, shows_bind, shows_invoke]
    intro tick
    rw [shows_ite]
    constructor
    · intro refused
      exact ⟨rfl, Or.inr ⟨rfl, rfl⟩⟩
    · intro accepted
      have valid : NodeState.isNodeAddress config.nodeAddress = true := by
        by_contra invalid
        rw [Bool.not_eq_true] at invalid
        simp [initializeContext, invalid] at accepted
      have accounted := (accounted_initial state.nodeContext config.nodeAddress tick valid).2
      refine ⟨rfl, Or.inl ⟨rfl, ⟨detected, valid, accounted⟩, ?_⟩⟩
      simp [initializeContext, valid]

theorem initialize_shows (config : AppConfig) (static : AppState) :
    Shows (initializeApp config static) (Initialized config) := by
  rw [initializeApp, shows_bind, shows_invoke]
  intro timeReady
  rw [shows_ite]
  refine ⟨fun failed => ?_, fun timed => ?_⟩
  · rw [shows_bind, shows_invoke_unit]
    exact ⟨rfl, Or.inr ⟨rfl, rfl⟩⟩
  rw [shows_bind, shows_invoke]
  intro powerReady
  rw [shows_ite]
  refine ⟨fun failed => ?_, fun powered => ?_⟩
  · rw [shows_bind, shows_invoke_unit]
    exact ⟨rfl, Or.inr ⟨rfl, rfl⟩⟩
  rw [shows_bind, shows_invoke_unit, shows_bind, shows_invoke]
  intro dht11Ready
  rw [shows_ite]
  constructor
  · intro noSensor
    rw [shows_bind, shows_invoke_unit]
    exact initialize_node_shows config _
  · intro sensor
    exact initialize_node_shows config _

def taskStep (config : AppConfig) (state : AppState) (trace : Trace) (next : AppState) : Prop :=
  Program.Runs (tasks config state) trace next

def isWake : Mark → Bool
  | .slept woken => woken
  | .sent _ => false
  | .acted _ => false

def isEnd : Mark → Bool
  | .acted action => action.type.terminal
  | .slept _ => false
  | .sent _ => false

def cycleMarks (seen : List Mark) : List Mark := seen.filter fun mark => isWake mark || isEnd mark

def wakes (seen : List Mark) : Nat := seen.countP isWake

def sends (seen : List Mark) : List (List Byte) :=
  seen.filterMap fun mark => match mark with
    | .sent frame => some frame
    | .slept _ => none
    | .acted _ => none

theorem wakes_cycle_marks (seen : List Mark) : wakes seen = (cycleMarks seen).countP isWake := by
  rw [wakes, cycleMarks, List.countP_filter]
  congr 1
  funext mark
  cases isWake mark <;> rfl

/-- What the loop has shown so far and where it stands. -/
structure Settled (config : AppConfig) (seen : List Mark) (state : AppState) : Prop where
  turns : Alternation.TakesTurns isWake (cycleMarks seen)
  failed : Mark.slept false ∈ seen → state.loraReady = false
  running : state.loraReady = true → ∃ ended, Ready config ended state ∧
    ((state.nodeContext.state = .waitInterval ∧ (cycleMarks seen).length = 2 * ended) ∨
      (state.nodeContext.state = .waitAck ∧ (cycleMarks seen).length = 2 * ended + 1))

theorem settled_initial {config : AppConfig} {seen : List Mark} {result : Bool × AppState}
    (started : Initialized config seen result) : Settled config [] result.2 := by
  rcases started with ⟨-, ⟨-, ready, idle⟩ | ⟨-, halted⟩⟩
  · exact ⟨Alternation.takes_turns_nil _, by simp, fun _ => ⟨0, ready, Or.inl ⟨idle, rfl⟩⟩⟩
  · exact ⟨Alternation.takes_turns_nil _, by simp, fun ready => by simp [halted] at ready⟩

theorem wait_ack_opens (config : AppConfig) (state : AppState) :
    (waitAckTask config state).Ensures fun trace _ =>
      ∃ (tick : BitVec 32) (rest : Trace),
        trace = ⟨.nowMs, tick⟩ :: ⟨.handled ⟨.timerTick, none, tick⟩
          (handleEvent config state.nodeContext ⟨.timerTick, none, tick⟩ .zero), ()⟩ :: rest := by
  intro tick handled
  apply Program.ensures_mono (Program.ensures_trivial _)
  intro rest next _
  exact ⟨tick, rest, rfl⟩

inductive TaskOutcome (config : AppConfig) (seen : List Mark) (state : AppState) :
    Trace → AppState → Prop where
  | halted (stopped : state.loraReady = false) : TaskOutcome config seen state haltTrace state
  | slept (ended : Nat) (lora : state.loraReady = true)
      (idle : state.nodeContext.state = .waitInterval)
      (count : (cycleMarks seen).length = 2 * ended) (trace : Trace) (next : AppState)
      (outcome : SleepOutcome config ended (marks trace) next) :
      TaskOutcome config seen state trace next
  | polled (ended : Nat) (lora : state.loraReady = true)
      (acking : state.nodeContext.state = .waitAck)
      (count : (cycleMarks seen).length = 2 * ended + 1) (trace : Trace) (next : AppState)
      (outcome : AckOutcome config ended (marks trace) next) (tick : BitVec 32) (rest : Trace)
      (opens : trace = ⟨.nowMs, tick⟩ :: ⟨.handled ⟨.timerTick, none, tick⟩
        (handleEvent config state.nodeContext ⟨.timerTick, none, tick⟩ .zero), ()⟩ :: rest) :
      TaskOutcome config seen state trace next

theorem task_outcome {config : AppConfig} {seen : List Mark} {state next : AppState}
    {trace : Trace} (settled : Settled config seen state)
    (task : taskStep config state trace next) : TaskOutcome config seen state trace next := by
  rw [taskStep, tasks] at task
  cases lora : state.loraReady with
  | false =>
      rw [if_pos (by simp [lora])] at task
      obtain ⟨rfl, rfl⟩ := Program.ensures_runs (halted_task_ensures state) task
      exact .halted lora
  | true =>
      rw [if_neg (by simp [lora])] at task
      rcases settled.running lora with ⟨ended, ready, ⟨idle, count⟩ | ⟨acking, count⟩⟩
      · rw [if_pos idle] at task
        exact .slept ended lora idle count trace next
          (Program.ensures_runs (sleep_interval_shows config ended state ready idle) task)
      · rw [if_neg (by simp [acking]), if_neg (by simp [acking])] at task
        obtain ⟨tick, rest, opens⟩ := Program.ensures_runs (wait_ack_opens config state) task
        exact .polled ended lora acking count trace next
          (Program.ensures_runs (wait_ack_task_shows config ended state ready acking) task) tick
          rest opens

/-- A call in WAIT_INTERVAL attempts one sleep. It halts the node, or it hands
one frame over that awaits its ACK or is lost at once. -/
def SleepsOnce (more : List Mark) (next : AppState) : Prop :=
  (more = [.slept false] ∧ next.loraReady = false) ∨
    ∃ (action : Action) (frame : List Byte) (rest : List Mark),
      more = .slept true :: .acted action :: .sent frame :: rest ∧ action.type = .readSensor ∧
        next.loraReady = true ∧ ((rest = [] ∧ next.nodeContext.state = .waitAck) ∨
          ∃ failure : Action, rest = [.acted failure] ∧ failure.type = .txFailed ∧
            next.nodeContext.state = .waitInterval)

theorem sleeps_once {config : AppConfig} {ended : Nat} {more : List Mark} {next : AppState}
    (outcome : SleepOutcome config ended more next) : SleepsOnce more next := by
  cases outcome with
  | halted next stopped => exact Or.inl ⟨rfl, stopped⟩
  | woken action type rest next uplink =>
      right
      cases uplink with
      | delivered frame carries next ready acking =>
          exact ⟨action, frame, [], rfl, type, ready.ready, Or.inl ⟨rfl, acking⟩⟩
      | lost frame carries failure failed next ready idle =>
          exact ⟨action, frame, _, rfl, type, ready.ready, Or.inr ⟨failure, rfl, failed, idle⟩⟩

def Overdue (config : AppConfig) (state : AppState) (tick : BitVec 32) : Prop :=
  config.ackTimeoutMs ≤ tick - state.nodeContext.ackStartedTickMs

/-- A call in WAIT_ACK takes the time first. It ends the cycle, or it waits on
while the deadline has not passed. -/
def WaitsForAck (config : AppConfig) (state : AppState) (trace : Trace) (next : AppState) :
    Prop :=
  ∃ (tick : BitVec 32) (rest : Trace), trace = ⟨.nowMs, tick⟩ :: rest ∧ next.loraReady = true ∧
    ((marks trace = [] ∧ next.nodeContext.state = .waitAck ∧ ¬Overdue config state tick) ∨
      ∃ action : Action, marks trace = [.acted action] ∧ action.type.terminal = true ∧
        next.nodeContext.state = .waitInterval ∧
          (Overdue config state tick → action.type = .ackTimeout))

theorem waits_for_ack {config : AppConfig} {ended : Nat} {state next : AppState} {trace : Trace}
    (acking : state.nodeContext.state = .waitAck)
    (outcome : AckOutcome config ended (marks trace) next) {tick : BitVec 32} {rest : Trace}
    (opens : trace = ⟨.nowMs, tick⟩ :: ⟨.handled ⟨.timerTick, none, tick⟩
      (handleEvent config state.nodeContext ⟨.timerTick, none, tick⟩ .zero), ()⟩ :: rest) :
    WaitsForAck config state trace next := by
  have window : AckWindow.Window state.nodeContext state.nodeContext.ackStartedTickMs :=
    ⟨acking, rfl⟩
  have overdue : Overdue config state tick →
      ∃ (action : Action) (more : List Mark), action.type = .ackTimeout ∧
        marks trace = .acted action :: more := by
    intro late
    have decided := AckWindow.decisive_event config window ⟨.timerTick, none, tick⟩ .zero
      (Or.inl late)
    rw [if_pos (show config.ackTimeoutMs ≤ tick - _ from late)] at decided
    exact ⟨_, marks rest, rfl, by rw [opens, decided]; rfl⟩
  refine ⟨tick, _, opens, ?_⟩
  generalize marks trace = more at outcome overdue ⊢
  cases outcome with
  | waiting next ready acking =>
      refine ⟨ready.ready, Or.inl ⟨rfl, acking, fun late => ?_⟩⟩
      obtain ⟨action, more, -, shown⟩ := overdue late
      simp at shown
  | finished action terminal next ready idle =>
      refine ⟨ready.ready, Or.inr ⟨action, rfl, terminal, idle, fun late => ?_⟩⟩
      obtain ⟨timeout, more, type, shown⟩ := overdue late
      rw [List.cons.injEq, Mark.acted.injEq] at shown
      rwa [shown.1]

theorem cycle_marks_append (first second : List Mark) :
    cycleMarks (first ++ second) = cycleMarks first ++ cycleMarks second :=
  List.filter_append ..

theorem Settled.keep {config : AppConfig} {seen more : List Mark} {state next : AppState}
    (settled : Settled config seen state) (nothing : cycleMarks more = [])
    (failed : Mark.slept false ∈ seen ++ more → next.loraReady = false)
    (running : next.loraReady = true → ∃ ended, Ready config ended next ∧
      ((next.nodeContext.state = .waitInterval ∧ (cycleMarks seen).length = 2 * ended) ∨
        (next.nodeContext.state = .waitAck ∧ (cycleMarks seen).length = 2 * ended + 1))) :
    Settled config (seen ++ more) next := by
  refine ⟨?_, failed, ?_⟩
  · rw [cycle_marks_append, nothing, List.append_nil]
    exact settled.turns
  · rw [cycle_marks_append, nothing, List.append_nil]
    exact running

theorem Settled.no_failure {config : AppConfig} {seen : List Mark} {state : AppState}
    (settled : Settled config seen state) (lora : state.loraReady = true) :
    Mark.slept false ∉ seen := fun member => by
  have halted := settled.failed member
  simp [lora] at halted

theorem cycle_marks_sample (action : Action) (type : action.type = .readSensor)
    (rest : List Mark) :
    cycleMarks (.slept true :: .acted action :: rest) = .slept true :: cycleMarks rest := by
  simp [cycleMarks, isWake, isEnd, type, ActionType.terminal]

theorem cycle_marks_sent (frame : List Byte) (rest : List Mark) :
    cycleMarks (.sent frame :: rest) = cycleMarks rest := by
  simp [cycleMarks, isWake, isEnd]

theorem cycle_marks_ended (action : Action) (terminal : action.type.terminal = true) :
    cycleMarks [.acted action] = [.acted action] := by
  simp [cycleMarks, isWake, isEnd, terminal]

theorem turns_wake {seen : List Mark} {ended : Nat}
    (turns : Alternation.TakesTurns isWake (cycleMarks seen))
    (count : (cycleMarks seen).length = 2 * ended) :
    Alternation.TakesTurns isWake (cycleMarks seen ++ [.slept true]) := by
  rw [Alternation.takes_turns_snoc]
  exact ⟨turns, by simp [isWake, count]⟩

theorem turns_end {marks : List Mark} {ended : Nat} (turns : Alternation.TakesTurns isWake marks)
    (count : marks.length = 2 * ended + 1) (action : Action) :
    Alternation.TakesTurns isWake (marks ++ [.acted action]) := by
  rw [Alternation.takes_turns_snoc]
  refine ⟨turns, ?_⟩
  have odd : (2 * ended + 1) % 2 = 1 := by omega
  simp [isWake, count, odd]

theorem settled_sleep {config : AppConfig} {seen more : List Mark} {state next : AppState}
    {ended : Nat} (settled : Settled config seen state) (lora : state.loraReady = true)
    (count : (cycleMarks seen).length = 2 * ended)
    (outcome : SleepOutcome config ended more next) : Settled config (seen ++ more) next := by
  have clean := settled.no_failure lora
  cases outcome with
  | halted next stopped =>
      refine settled.keep rfl (fun _ => stopped) ?_
      intro ready
      simp [stopped] at ready
  | woken action type rest next uplink =>
      have wake := turns_wake settled.turns count
      cases uplink with
      | delivered frame carries next ready acking =>
          have shown : cycleMarks (seen ++ [.slept true, .acted action, .sent frame]) =
              cycleMarks seen ++ [.slept true] := by
            rw [cycle_marks_append, cycle_marks_sample action type, cycle_marks_sent]
            rfl
          refine ⟨by rwa [shown], fun member => ?_, fun _ => ⟨ended, ready, Or.inr ⟨acking, ?_⟩⟩⟩
          · simp [clean] at member
          · rw [shown, List.length_append, count]
            rfl
      | lost frame carries failure failed next ready idle =>
          have shown : cycleMarks
              (seen ++ [.slept true, .acted action, .sent frame, .acted failure]) =
                cycleMarks seen ++ [.slept true] ++ [.acted failure] := by
            rw [cycle_marks_append, cycle_marks_sample action type, cycle_marks_sent,
              cycle_marks_ended failure (by rw [failed]; rfl), List.append_assoc]
            rfl
          have length : (cycleMarks seen ++ [Mark.slept true]).length = 2 * ended + 1 := by
            rw [List.length_append, count]
            rfl
          refine ⟨?_, fun member => ?_, fun _ => ⟨ended + 1, ready, Or.inl ⟨idle, ?_⟩⟩⟩
          · rw [shown]
            exact turns_end wake length failure
          · simp [clean] at member
          · rw [shown, List.length_append, length]
            rfl

theorem settled_poll {config : AppConfig} {seen more : List Mark} {state next : AppState}
    {ended : Nat} (settled : Settled config seen state) (lora : state.loraReady = true)
    (count : (cycleMarks seen).length = 2 * ended + 1)
    (outcome : AckOutcome config ended more next) : Settled config (seen ++ more) next := by
  have clean := settled.no_failure lora
  cases outcome with
  | waiting next ready acking =>
      refine settled.keep rfl (fun member => ?_) fun _ => ⟨ended, ready, Or.inr ⟨acking, count⟩⟩
      simp [clean] at member
  | finished action terminal next ready idle =>
      have shown : cycleMarks (seen ++ [.acted action]) = cycleMarks seen ++ [.acted action] := by
        rw [cycle_marks_append, cycle_marks_ended action terminal]
      refine ⟨?_, fun member => ?_, fun _ => ⟨ended + 1, ready, Or.inl ⟨idle, ?_⟩⟩⟩
      · rw [shown]
        exact turns_end settled.turns count action
      · simp [clean] at member
      · rw [shown, List.length_append, count]
        rfl

theorem settled_step {config : AppConfig} {seen : List Mark} {state next : AppState}
    {trace : Trace} (settled : Settled config seen state)
    (task : taskStep config state trace next) : Settled config (seen ++ marks trace) next := by
  cases task_outcome settled task with
  | halted stopped =>
      refine settled.keep rfl (fun _ => stopped) ?_
      intro lora
      simp [stopped] at lora
  | slept ended lora idle count trace next outcome =>
      exact settled_sleep settled lora count outcome
  | polled ended lora acking count trace next outcome tick rest opens =>
      exact settled_poll settled lora count outcome

theorem settled_run {config : AppConfig} {start state : AppState} {history : List Trace}
    (settled : Settled config [] start)
    (run : LabelledRun.Run (taskStep config) start history state) :
    Settled config (history.flatMap marks) state := by
  have preserved : ∀ (done : List Trace) (before : AppState) (trace : Trace) (after : AppState),
      Settled config (done.flatMap marks) before → taskStep config before trace after →
        Settled config ((done ++ [trace]).flatMap marks) after := by
    intro done before trace after holds task
    rw [List.flatMap_append, List.flatMap_singleton]
    exact settled_step holds task
  have initial : Settled config (([] : List Trace).flatMap marks) start := settled
  have whole := LabelledRun.run_invariant preserved initial run
  rwa [List.nil_append] at whole

theorem wakes_of_idle {config : AppConfig} {seen : List Mark} {state : AppState} {ended : Nat}
    (settled : Settled config seen state) (count : (cycleMarks seen).length = 2 * ended) :
    wakes seen = ended := by
  rw [wakes_cycle_marks, Alternation.opened_count isWake _ settled.turns, count]
  omega

/-- A call that wakes hands one frame to the radio, under the number of wakes
before it, and hands it over after waking. -/
def SendsAfterWaking (config : AppConfig) (number : Nat) (more : List Mark) : Prop :=
  ∃ (action : Action) (frame : List Byte) (rest : List Mark),
    more = .slept true :: .acted action :: .sent frame :: rest ∧ sends rest = [] ∧
      Carries config number frame

theorem uplink_sends {config : AppConfig} {ended : Nat} {action : Action} {rest : List Mark}
    {next : AppState} (uplink : UplinkOutcome config ended rest next) :
    SendsAfterWaking config ended (.slept true :: .acted action :: rest) := by
  cases uplink with
  | delivered frame carries next ready acking => exact ⟨action, frame, [], rfl, rfl, carries⟩
  | lost frame carries failure failed next ready idle =>
      exact ⟨action, frame, [.acted failure], rfl, rfl, carries⟩

theorem task_sends {config : AppConfig} {seen : List Mark} {state next : AppState}
    {trace : Trace} (settled : Settled config seen state)
    (outcome : TaskOutcome config seen state trace next) :
    (sends (marks trace) = [] ∧ Mark.slept true ∉ marks trace) ∨
      (state.nodeContext.state = .waitInterval ∧
        SendsAfterWaking config (wakes seen) (marks trace)) := by
  cases outcome with
  | halted stopped => exact Or.inl ⟨rfl, by simp [haltTrace, marks, markOf]⟩
  | slept ended lora idle count trace next outcome =>
      rw [wakes_of_idle settled count]
      generalize marks trace = more at outcome ⊢
      cases outcome with
      | halted next stopped => exact Or.inl ⟨rfl, by simp⟩
      | woken action type rest next uplink => exact Or.inr ⟨idle, uplink_sends uplink⟩
  | polled ended lora acking count trace next outcome tick rest opens =>
      generalize marks trace = more at outcome ⊢
      cases outcome with
      | waiting next ready acking => exact Or.inl ⟨rfl, by simp⟩
      | finished action terminal next ready idle => exact Or.inl ⟨rfl, by simp⟩

theorem halted_run {config : AppConfig} {start state : AppState} {history : List Trace}
    (halted : start.loraReady = false)
    (run : LabelledRun.Run (taskStep config) start history state) : state.loraReady = false := by
  induction run with
  | nil state => exact halted
  | cons state middle last trace traces first rest induction =>
      rw [taskStep, tasks, if_pos (by simp [halted])] at first
      obtain ⟨-, rfl⟩ := Program.ensures_runs (halted_task_ensures state) first
      exact induction halted

theorem sends_append (first second : List Mark) :
    sends (first ++ second) = sends first ++ sends second := List.filterMap_append

theorem only_frame {config : AppConfig} {number : Nat} {more before after : List Mark}
    {frame : List Byte} (sending : SendsAfterWaking config number more)
    (split : more = before ++ .sent frame :: after) :
    .slept true ∈ before ∧ sends before = [] ∧ sends after = [] := by
  obtain ⟨action, only, rest, shown, nothing, -⟩ := sending
  have frames : sends before ++ frame :: sends after = [only] := by
    have both := congrArg sends (split.symm.trans shown)
    rw [sends_append] at both
    change sends before ++ frame :: sends after = only :: sends rest at both
    rwa [nothing] at both
  obtain ⟨none, one⟩ := List.append_eq_singleton_iff.mp frames |>.resolve_right (by simp)
  refine ⟨?_, none, (List.cons.inj one).2⟩
  cases before with
  | nil => simp [shown] at split
  | cons first before =>
      rw [shown, List.cons_append, List.cons.injEq] at split
      rw [← split.1]
      exact List.mem_cons_self

/-- The loop over every run of the application with arbitrary driver answers. -/
theorem transmits_once_per_sleep (config : AppConfig) (static : AppState) (startTrace : Trace)
    (started : Bool) (start state next : AppState) (history : List Trace) (trace : Trace)
    (initialized : Program.Runs (initializeApp config static) startTrace (started, start))
    (run : LabelledRun.Run (taskStep config) start history state)
    (task : taskStep config state trace next) :
    let seen := history.flatMap marks
    let more := marks trace
    marks startTrace = [] ∧
    (started = true → start.loraReady = true ∧ start.nodeContext.state = .waitInterval) ∧
    (state.loraReady = true →
      (state.nodeContext.state = .waitInterval ∧ SleepsOnce more next) ∨
        (state.nodeContext.state = .waitAck ∧ WaitsForAck config state trace next)) ∧
    (next.loraReady = true →
      next.nodeContext.state = .waitInterval ∨ next.nodeContext.state = .waitAck) ∧
    (∀ before frame after, more = before ++ .sent frame :: after →
      state.nodeContext.state = .waitInterval ∧ .slept true ∈ before ∧
        sends before = [] ∧ sends after = []) ∧
    Alternation.TakesTurns isWake (cycleMarks (seen ++ more)) ∧
    (.slept true ∈ more → ∃ frame packet, sends more = [frame] ∧
      decode (some frame) Message.zero = (true, packet) ∧
        (packet.type = .data ∨ packet.type = .error) ∧ packet.source = config.nodeAddress ∧
          packet.transactionId.toNat = wakes seen % 256 ∧
            packet.sequence.toNat = wakes seen % 65536) ∧
    (started = false ∨ .slept false ∈ seen → trace = haltTrace ∧ next = state) := by
  intro seen more
  have initial := Program.ensures_runs (initialize_shows config static) initialized
  have settled := settled_run (settled_initial initial) run
  have after := settled_step settled task
  have sending := task_sends settled (task_outcome settled task)
  refine ⟨initial.1, ?_, ?_, ?_, ?_, after.turns, ?_, ?_⟩
  · intro accepted
    rcases initial with ⟨-, ⟨-, ready, idle⟩ | ⟨refused, -⟩⟩
    · exact ⟨ready.ready, idle⟩
    · simp [accepted] at refused
  · intro lora
    cases task_outcome settled task with
    | halted stopped => simp [stopped] at lora
    | slept ended lora idle count trace next outcome =>
        exact Or.inl ⟨idle, sleeps_once outcome⟩
    | polled ended lora acking count trace next outcome tick rest opens =>
        exact Or.inr ⟨acking, waits_for_ack acking outcome opens⟩
  · intro lora
    rcases after.running lora with ⟨-, -, ⟨idle, -⟩ | ⟨acking, -⟩⟩
    · exact Or.inl idle
    · exact Or.inr acking
  · intro before frame after split
    rcases sending with ⟨nothing, -⟩ | ⟨idle, sending⟩
    · have some : sends more = sends before ++ frame :: sends after := by
        rw [split, sends_append]
        rfl
      rw [nothing] at some
      simp at some
    · exact ⟨idle, only_frame sending split⟩
  · intro woken
    rcases sending with ⟨-, asleep⟩ | ⟨-, action, frame, rest, shown, nothing, carries⟩
    · exact absurd woken asleep
    · obtain ⟨packet, decoded, kind, source, -, id, sequence⟩ := carries
      refine ⟨frame, packet, ?_, decoded, kind, source, ?_, ?_⟩
      · change sends (marks trace) = _
        rw [shown]
        change frame :: sends rest = _
        rw [nothing]
      · rw [id, BitVec.toNat_ofNat]
      · rw [sequence, BitVec.toNat_ofNat]
  · intro failure
    have halted : state.loraReady = false := by
      rcases failure with refused | failed
      · rcases initial with ⟨-, ⟨ok, -⟩ | ⟨-, stopped⟩⟩
        · simp [refused] at ok
        · exact halted_run stopped run
      · exact settled.failed failed
    rw [taskStep, tasks, if_pos (by simp [halted])] at task
    exact Program.ensures_runs (halted_task_ensures state) task

def bench {Reply : Type} (now : BitVec 32) : Call Reply → Reply × BitVec 32
  | .timeInitialize => (true, now)
  | .powerInitialize => (true, now)
  | .dht11Init => (true, now)
  | .radioInit _ _ _ _ _ _ _ => ((), now)
  | .spiRead _ => (expectedVersion, now)
  | .nowMs => (now, now)
  | .sleep _ => (true, now)
  | .dht11Read => (true, now)
  | .dht11GetTemperature => (some (Rat.ofInt 25), now)
  | .dht11GetHumidity => (some (Rat.ofInt 60), now)
  | .transmit _ _ _ => (1, now)
  | .receive _ => (1, now)
  | .available => (0, now)
  | .read _ => (⟨0, List.replicate 256 0, empty_frame_size⟩, now)
  | .delayMs _ => ((), now)
  | .log _ => ((), now)
  | .printFrame _ _ _ => ((), now)
  | .disableIrq _ => ((), now)
  | .standbyModeEnter => ((), now)
  | .handled _ _ => ((), now)

/-- Two calls on the bench: a sleep and its uplink, then the ACK timeout that
ends the cycle. -/
theorem two_calls_end_a_cycle :
    let start := ((initializeApp .default .zero).simulate bench 0).1.2
    let waiting := ((tasks .default start).simulate bench 5000).1
    let rested := ((tasks .default waiting).simulate bench 9000).1
    let first := (tasks .default start).recorded bench 5000
    let second := (tasks .default waiting).recorded bench 9000
    marks first = [.slept true, .acted { Action.zero with type := .readSensor },
      .sent [2, 2, 0, 0, 4, 0, 250, 2, 88, 0, 0, 8, 15]] ∧
    SleepsOnce (marks first) waiting ∧
    marks second = [.acted { Action.zero with type := .ackTimeout }] ∧
    WaitsForAck .default waiting second rested ∧
    Alternation.TakesTurns isWake (cycleMarks (marks first ++ marks second)) := by
  intro start waiting rested first second
  have initialized := Program.recorded_runs bench (initializeApp .default .zero) 0
  have calling : taskStep .default start first waiting := Program.recorded_runs bench _ 5000
  have polling : taskStep .default waiting second rested := Program.recorded_runs bench _ 9000
  have sleeping := transmits_once_per_sleep .default .zero _ _ start start waiting [] first
    initialized (.nil _) calling
  have ending := transmits_once_per_sleep .default .zero _ _ start waiting rested [first] second
    initialized (.cons _ _ _ _ _ calling (.nil _)) polling
  have slept := sleeping.2.2.1 (by decide +kernel)
  have polled := ending.2.2.1 (by decide +kernel)
  refine ⟨by decide +kernel, ?_, by decide +kernel, ?_, ?_⟩
  · exact (slept.resolve_right fun acking => absurd acking.1 (by decide +kernel)).2
  · exact (polled.resolve_left fun idle => absurd idle.1 (by decide +kernel)).2
  · simpa using ending.2.2.2.2.2.1

end LoraNode.AppLoop
