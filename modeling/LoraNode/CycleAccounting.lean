import LoraNode.Foundation.Alternation
import LoraNode.NodeStateSteps

/-!
# Every cycle is counted once

Cycles are numbered from 0 in their true order. `Accounted` ties the context to
the number of cycles ended so far, and `History` ties that number to the
actions emitted. Both wraps of the counters are images of the same number.
-/

namespace LoraNode.CycleAccounting

open LoraNode.Foundation LoraNode.Foundation.Bytes LoraNode.NodePacket LoraNode.NodeState

/-- The context of a node after `ended` cycles, whatever its time fields hold. -/
structure Accounted (address : Byte) (ended : Nat) (context : Context) : Prop where
  legal : Legal context.state
  nodeAddress : context.nodeAddress = address
  responseSequence : context.responseSequence = BitVec.ofNat 16 ended
  transactionId : context.transactionId = BitVec.ofNat 8 ended
  idle : context.state = .waitInterval → context.pendingTransactionId = 0 ∧
    context.pendingSequence = 0 ∧ context.ackStartedTickMs = 0
  busy : context.state ≠ .waitInterval →
    context.pendingTransactionId = BitVec.ofNat 8 ended ∧
      context.pendingSequence = BitVec.ofNat 16 ended

def endedAfter (ended : Nat) (type : ActionType) : Nat :=
  if type.terminal then ended + 1 else ended

theorem accounted_initial (before : Context) (address : Byte) (tick : BitVec 32)
    (valid : NodeState.isNodeAddress address = true) :
    (initializeContext before address tick).1 = true ∧
      Accounted address 0 (initializeContext before address tick).2 := by
  simp only [initializeContext, valid, Bool.not_true, Bool.false_eq_true, if_false, true_and]
  exact ⟨Or.inl rfl, rfl, rfl, rfl, fun _ => ⟨rfl, rfl, rfl⟩, fun busy => absurd rfl busy⟩

theorem accounted_complete {address : Byte} {ended : Nat} {context : Context}
    (accounted : Accounted address ended context) (type : ActionType) (tick : BitVec 32) :
    Accounted address (ended + 1) (completeTransaction context .zero type tick).1 := by
  refine ⟨Or.inl rfl, accounted.nodeAddress, ?_, ?_, fun _ => ⟨rfl, rfl, rfl⟩,
    fun busy => absurd rfl busy⟩
  · change context.responseSequence + 1 = _
    rw [accounted.responseSequence, BitVec.ofNat_add]
    rfl
  · change context.transactionId + 1 = _
    rw [accounted.transactionId, BitVec.ofNat_add]
    rfl

theorem accounted_transition {address : Byte} {ended : Nat} {context next : Context}
    {event : Event} {action : Action} (accounted : Accounted address ended context)
    (transition : Transition context event next action) :
    Accounted address (endedAfter ended action.type) next := by
  cases transition with
  | quiet _ nothing =>
      rw [nothing]
      exact accounted
  | sampled state _ type id sequence =>
      rw [type]
      exact ⟨Or.inr (Or.inl rfl), accounted.nodeAddress, accounted.responseSequence,
        accounted.transactionId, fun idle => by simp at idle,
        fun _ => ⟨accounted.transactionId, accounted.responseSequence⟩⟩
  | transmitted state type _ nothing =>
      rw [nothing]
      have busy : context.state ≠ .waitInterval := by simp [state]
      exact ⟨Or.inr (Or.inr rfl), accounted.nodeAddress, accounted.responseSequence,
        accounted.transactionId, fun idle => by simp at idle, fun _ => accounted.busy busy⟩
  | finished state type terminal _ emitted =>
      rw [emitted, endedAfter, if_pos terminal]
      exact accounted_complete accounted _ _

def visible (actions : List Action) : List Action :=
  actions.filter fun action => decide (action.type ≠ .none)

def isSample (action : Action) : Bool := decide (action.type = .readSensor)

def samples (actions : List Action) : List Action := actions.filter isSample

def cycles (actions : List Action) : Nat := actions.countP fun action => action.type.terminal

/-- Visible actions are READ_SENSOR and terminal actions by turns, cycle `n`
reads the sensor under the number `n`, and a cycle is open outside WAIT_INTERVAL. -/
structure History (actions : List Action) (state : State) : Prop where
  turns : Alternation.TakesTurns isSample (visible actions)
  opened : state ≠ .waitInterval ↔ (visible actions).length % 2 = 1
  numbers : ∀ (number : Nat) (action : Action), (samples actions)[number]? = some action →
    action.transactionId = BitVec.ofNat 8 number ∧ action.sequence = BitVec.ofNat 16 number

theorem visible_samples (actions : List Action) :
    samples actions = (visible actions).filter isSample := by
  rw [visible, List.filter_filter, samples]
  congr 1
  funext action
  cases type : action.type <;> simp [isSample, type]

theorem visible_cycles (actions : List Action) :
    cycles actions = (visible actions).countP fun action => !isSample action := by
  rw [visible, List.countP_filter, cycles]
  congr 1
  funext action
  cases type : action.type <;> simp [isSample, type, ActionType.terminal]

theorem history_cycles {actions : List Action} {state : State} (history : History actions state) :
    cycles actions = (visible actions).length / 2 := by
  rw [visible_cycles]
  exact Alternation.closed_count _ _ history.turns

theorem history_samples {actions : List Action} {state : State}
    (history : History actions state) :
    (samples actions).length = cycles actions + if state = .waitInterval then 0 else 1 := by
  have opened := Alternation.opened_count _ _ history.turns
  rw [List.countP_eq_length_filter, ← visible_samples] at opened
  rw [opened, history_cycles history]
  by_cases idle : state = .waitInterval
  · have even := mt history.opened.mpr (not_not.mpr idle)
    rw [if_pos idle]
    omega
  · have odd := history.opened.mp idle
    rw [if_neg idle]
    omega

theorem cycles_snoc (actions : List Action) (action : Action) :
    cycles (actions ++ [action]) = endedAfter (cycles actions) action.type := by
  rw [cycles, List.countP_append, List.countP_singleton, endedAfter]
  split_ifs <;> rfl

theorem visible_snoc (actions : List Action) (action : Action) :
    visible (actions ++ [action]) =
      if action.type = .none then visible actions else visible actions ++ [action] := by
  rw [visible, List.filter_append]
  by_cases nothing : action.type = .none
  · simp [nothing, visible]
  · simp [nothing, visible]

theorem samples_snoc (actions : List Action) (action : Action) :
    samples (actions ++ [action]) =
      if action.type = .readSensor then samples actions ++ [action] else samples actions := by
  rw [samples, List.filter_append]
  by_cases sample : action.type = .readSensor
  · simp [sample, samples, isSample]
  · simp [sample, samples, isSample]

theorem history_initial : History [] .waitInterval :=
  ⟨Alternation.takes_turns_nil _, by simp [visible], by simp [samples]⟩

theorem History.quiet {actions : List Action} {state next : State} {action : Action}
    (history : History actions state) (nothing : action.type = .none)
    (same : next = .waitInterval ↔ state = .waitInterval) :
    History (actions ++ [action]) next := by
  refine ⟨?_, ?_, ?_⟩
  · rw [visible_snoc, if_pos nothing]
    exact history.turns
  · rw [visible_snoc, if_pos nothing, ← history.opened]
    exact not_congr same
  · rw [samples_snoc, if_neg (by simp [nothing])]
    exact history.numbers

theorem History.sampled {actions : List Action} {action : Action}
    (history : History actions .waitInterval) (type : action.type = .readSensor)
    (id : action.transactionId = BitVec.ofNat 8 (cycles actions))
    (sequence : action.sequence = BitVec.ofNat 16 (cycles actions)) :
    History (actions ++ [action]) .waitTxResult := by
  have even : (visible actions).length % 2 = 0 := by
    have closed := mt history.opened.mpr (not_not.mpr rfl)
    omega
  have shown : visible (actions ++ [action]) = visible actions ++ [action] := by
    rw [visible_snoc, if_neg (by simp [type])]
  refine ⟨?_, ?_, ?_⟩
  · rw [shown, Alternation.takes_turns_snoc]
    exact ⟨history.turns, by simp [isSample, type, even]⟩
  · rw [shown, List.length_append, List.length_singleton]
    simp only [ne_eq, reduceCtorEq, not_false_eq_true, true_iff]
    omega
  · rw [samples_snoc, if_pos type]
    have count := history_samples history
    rw [if_pos rfl, Nat.add_zero] at count
    intro number found place
    rcases Nat.lt_trichotomy number (samples actions).length with before | here | after
    · rw [List.getElem?_append_left before] at place
      exact history.numbers number found place
    · rw [here, List.getElem?_concat_length, Option.some.injEq] at place
      rw [← place, here, count]
      exact ⟨id, sequence⟩
    · rw [List.getElem?_eq_none (by simp; omega)] at place
      exact absurd place (by simp)

theorem History.finished {actions : List Action} {state : State} {action : Action}
    (history : History actions state) (busy : state ≠ .waitInterval)
    (terminal : action.type.terminal = true) : History (actions ++ [action]) .waitInterval := by
  have odd := history.opened.mp busy
  have notNone : action.type ≠ .none := fun type => by simp [type, ActionType.terminal] at terminal
  have notSample : action.type ≠ .readSensor := fun type => by
    simp [type, ActionType.terminal] at terminal
  have shown : visible (actions ++ [action]) = visible actions ++ [action] := by
    rw [visible_snoc, if_neg notNone]
  refine ⟨?_, ?_, ?_⟩
  · rw [shown, Alternation.takes_turns_snoc]
    exact ⟨history.turns, by simp [isSample, notSample, odd]⟩
  · rw [shown, List.length_append, List.length_singleton]
    simp only [ne_eq, not_true_eq_false, false_iff]
    omega
  · rw [samples_snoc, if_neg notSample]
    exact history.numbers

theorem history_transition {address : Byte} {actions : List Action} {context next : Context}
    {event : Event} {action : Action} (accounted : Accounted address (cycles actions) context)
    (history : History actions context.state)
    (transition : Transition context event next action) :
    History (actions ++ [action]) next.state := by
  cases transition with
  | quiet _ nothing => exact history.quiet nothing Iff.rfl
  | sampled state _ type id sequence =>
      rw [state] at history
      exact history.sampled type (id.trans accounted.transactionId)
        (sequence.trans accounted.responseSequence)
  | transmitted state type _ nothing => exact history.quiet nothing (by simp [state])
  | finished state type terminal _ emitted =>
      have busy : context.state ≠ .waitInterval := by
        rcases state with state | state <;> simp [state]
      exact history.finished busy (by rw [emitted, terminal])

section Run

variable (config : AppConfig)

def Counted (address : Byte) (results : List HandleResult) (context : Context) : Prop :=
  (∀ result ∈ results, result.handled = true) ∧
    Accounted address (cycles (results.map HandleResult.action)) context ∧
      History (results.map HandleResult.action) context.state

theorem counted_step (address : Byte) (results : List HandleResult) (context : Context)
    (event : Event) (counted : Counted address results context) :
    Counted address (results ++ [(stepEvent config context event).2])
      (stepEvent config context event).1 := by
  obtain ⟨handled, accounted, history⟩ := counted
  have transition := handle_event_transition config context event .zero accounted.legal
  refine ⟨?_, ?_, ?_⟩
  · intro result member
    rcases List.mem_append.mp member with before | last
    · exact handled result before
    · rw [List.mem_singleton.mp last]
      exact handle_event_handled config context event .zero accounted.legal
  · rw [List.map_append, List.map_singleton, cycles_snoc]
    exact accounted_transition accounted transition
  · rw [List.map_append, List.map_singleton]
    exact history_transition accounted history transition

theorem counted_run (before : Context) (address : Byte) (tick : BitVec 32)
    (valid : NodeState.isNodeAddress address = true) (events : List Event) :
    let start := (initializeContext before address tick).2
    Counted address (resultsOf config start events) (contextAfter config start events) := by
  intro start
  have initial := (accounted_initial before address tick valid).2
  have state : start.state = .waitInterval := by
    simp [start, initializeContext, valid]
  have first : Counted address [] start :=
    ⟨by simp, initial, by simpa [state] using history_initial⟩
  have run := Transducer.run_invariant (stepEvent config) (Counted address)
    (fun results context event => counted_step config address results context event) [] start
    first events
  rw [List.nil_append] at run
  exact run

end Run

structure Accounts (address : Byte) (results : List HandleResult) (context : Context) : Prop where
  handled : ∀ result ∈ results, result.handled = true
  state : context.state = .waitInterval ∨ context.state = .waitTxResult ∨ context.state = .waitAck
  nodeAddress : context.nodeAddress = address
  responseSequence : context.responseSequence.toNat =
    cycles (results.map HandleResult.action) % 65536
  transactionId : context.transactionId.toNat = cycles (results.map HandleResult.action) % 256
  lowByte : context.transactionId.toNat = context.responseSequence.toNat % 256
  idle : context.state = .waitInterval → context.pendingTransactionId = 0 ∧
    context.pendingSequence = 0 ∧ context.ackStartedTickMs = 0
  busy : context.state ≠ .waitInterval →
    context.pendingTransactionId.toNat = cycles (results.map HandleResult.action) % 256 ∧
      context.pendingSequence.toNat = cycles (results.map HandleResult.action) % 65536
  alternate : ∀ (place : Nat) (action : Action),
    (visible (results.map HandleResult.action))[place]? = some action →
      if place % 2 = 0 then action.type = .readSensor else action.type.terminal = true
  opened : (samples (results.map HandleResult.action)).length =
    cycles (results.map HandleResult.action) + if context.state = .waitInterval then 0 else 1
  numbers : ∀ (number : Nat) (action : Action),
    (samples (results.map HandleResult.action))[number]? = some action →
      action.transactionId.toNat = number % 256 ∧ action.sequence.toNat = number % 65536

theorem terminal_of_visible {actions : List Action} {place : Nat} {action : Action}
    (shown : (visible actions)[place]? = some action) (closes : isSample action = false) :
    action.type.terminal = true := by
  have member := List.mem_of_getElem? shown
  rw [visible, List.mem_filter, decide_eq_true_eq] at member
  cases type : action.type <;> simp_all [isSample, ActionType.terminal]

theorem counted_accounts {address : Byte} {results : List HandleResult} {context : Context}
    (counted : Counted address results context) : Accounts address results context := by
  obtain ⟨handled, accounted, history⟩ := counted
  have sequence := congrArg BitVec.toNat accounted.responseSequence
  have id := congrArg BitVec.toNat accounted.transactionId
  rw [BitVec.toNat_ofNat] at sequence id
  exact
    { handled := handled
      state := accounted.legal
      nodeAddress := accounted.nodeAddress
      responseSequence := sequence
      transactionId := id
      lowByte := by
        rw [sequence, id]
        exact (Nat.mod_mod_of_dvd _ (by decide)).symm
      idle := accounted.idle
      busy := by
        intro started
        obtain ⟨pendingId, pendingSequence⟩ := accounted.busy started
        rw [pendingId, pendingSequence, BitVec.toNat_ofNat, BitVec.toNat_ofNat]
        exact ⟨rfl, rfl⟩
      alternate := by
        intro place action shown
        obtain ⟨inside, found⟩ := List.getElem?_eq_some_iff.mp shown
        have turn := history.turns place inside
        rw [found] at turn
        by_cases even : place % 2 = 0
        · rw [if_pos even]
          simpa [isSample, even] using turn
        · rw [if_neg even]
          exact terminal_of_visible shown (by simpa [even] using turn)
      opened := history_samples history
      numbers := by
        intro number action sampled
        obtain ⟨sampleId, sampleSequence⟩ := history.numbers number action sampled
        rw [sampleId, sampleSequence, BitVec.toNat_ofNat, BitVec.toNat_ofNat]
        exact ⟨rfl, rfl⟩ }

/-- Cycle accounting over every run from `NODE_STATE_Initialize`. -/
theorem cycle_accounting (config : AppConfig) (before : Context) (address : Byte)
    (tick : BitVec 32) (valid : NodeState.isNodeAddress address = true) (events : List Event) :
    let start := initializeContext before address tick
    start.1 = true ∧
      Accounts address (resultsOf config start.2 events) (contextAfter config start.2 events) :=
  ⟨(accounted_initial before address tick valid).1,
    counted_accounts (counted_run config before address tick valid events)⟩

def unansweredCycle : List Event :=
  [⟨.intervalElapsed, none, 5000⟩, ⟨.txSucceeded, none, 5060⟩, ⟨.frameReceived, none, 5070⟩,
    ⟨.timerTick, none, 6060⟩]

def usedContext : Context where
  state := .waitAck
  nodeAddress := 0x09
  responseSequence := 7
  pendingTransactionId := 7
  pendingSequence := 7
  ackStartedTickMs := 30
  intervalStartedTickMs := 20
  transactionId := 7

theorem unanswered_cycle_accounted :
    let start := initializeContext usedContext 0x02 0
    NodeState.isNodeAddress 0x02 = true ∧ start.1 = true ∧
      cycles (actionsOf .default start.2 unansweredCycle) = 1 ∧
        Accounts 0x02 (resultsOf .default start.2 unansweredCycle)
          (contextAfter .default start.2 unansweredCycle) := by
  have accounts := cycle_accounting .default usedContext 0x02 0 (by decide) unansweredCycle
  exact ⟨by decide, accounts.1, by decide, accounts.2⟩

end LoraNode.CycleAccounting
