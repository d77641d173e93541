import LoraNode.CycleAccounting

/-!
# The ACK window

From TX_SUCCEEDED on, the window is decided by its first decisive event: one at
or past the deadline, or the matching ACK. Nothing before that event leaves a
trace in the context.
-/

namespace LoraNode.AckWindow

open LoraNode.Foundation LoraNode.Foundation.Bytes LoraNode.NodeState LoraNode.CycleAccounting

variable (config : AppConfig)

/-- The event comes at or past the deadline of a window opened at `opened`, or
carries the ACK the context waits for. -/
def Decisive (context : Context) (opened : BitVec 32) (event : Event) : Prop :=
  config.ackTimeoutMs ≤ event.tickMs - opened ∨ CarriesAck context event

instance (context : Context) (opened : BitVec 32) (event : Event) :
    Decidable (Decisive config context opened event) :=
  inferInstanceAs (Decidable (_ ∨ _))

structure Window (context : Context) (opened : BitVec 32) : Prop where
  state : context.state = .waitAck
  started : context.ackStartedTickMs = opened

theorem tx_succeeded_opens (before : Context) (entry : Event) (action : Action)
    (waiting : before.state = .waitTxResult) (succeeded : entry.type = .txSucceeded) :
    Window (handleEvent config before entry action).context entry.tickMs := by
  simp only [handleEvent, waiting, handleWaitTxResult, succeeded, if_true]
  exact ⟨rfl, rfl⟩

theorem idle_event {context : Context} {opened : BitVec 32} (window : Window context opened)
    (event : Event) (action : Action) (idle : ¬Decisive config context opened event) :
    let result := handleEvent config context event action
    result.handled = true ∧ result.context = context ∧ result.action.type = .none := by
  rw [Decisive, not_or, ← window.started] at idle
  obtain ⟨same, nothing⟩ := wait_ack_ignored config context event .zero idle.1 idle.2
  rw [handle_event_wait_ack config context event action window.state]
  exact ⟨rfl, same, nothing⟩

theorem decisive_event {context : Context} {opened : BitVec 32} (window : Window context opened)
    (event : Event) (action : Action) (decisive : Decisive config context opened event) :
    let type := if config.ackTimeoutMs ≤ event.tickMs - opened then ActionType.ackTimeout
      else ActionType.transactionComplete
    handleEvent config context event action =
      ⟨true, (completeTransaction context .zero type event.tickMs).1,
        { Action.zero with type := type }⟩ := by
  have started := window.started
  intro type
  rw [handle_event_wait_ack config context event action window.state]
  by_cases late : config.ackTimeoutMs ≤ event.tickMs - opened
  · have timeout : type = .ackTimeout := if_pos late
    rw [timeout, wait_ack_late config context event .zero (by rwa [Context.ackElapsed, started])]
    rfl
  · have complete : type = .transactionComplete := if_neg late
    have carries := decisive.resolve_left late
    rw [complete, wait_ack_accepted config context event .zero
      (by rwa [Context.ackElapsed, started]) carries]
    rfl

theorem unfinished_not_decisive {context : Context} {opened : BitVec 32}
    (window : Window context opened) (event : Event)
    (unfinished : (handleEvent config context event .zero).action.type.terminal = false) :
    ¬Decisive config context opened event := by
  intro decisive
  rw [decisive_event config window event .zero decisive] at unfinished
  simp only at unfinished
  split_ifs at unfinished <;> simp [ActionType.terminal] at unfinished

section Idle

variable {config} {context : Context} {opened : BitVec 32} (window : Window context opened)
  {idle : List Event} (quiet : ∀ event ∈ idle, ¬Decisive config context opened event)

include window quiet

theorem context_after_idle : contextAfter config context idle = context :=
  Transducer.final_state_idle _ _ _ fun event member =>
    (idle_event config window event .zero (quiet event member)).2.1

theorem results_of_idle (result : HandleResult) (member : result ∈ resultsOf config context idle) :
    result.handled = true ∧ result.context = context ∧ result.action.type = .none := by
  have results : resultsOf config context idle =
      idle.map fun event => (stepEvent config context event).2 :=
    Transducer.outputs_idle _ _ _ fun event inside =>
      (idle_event config window event .zero (quiet event inside)).2.1
  rw [results] at member
  obtain ⟨event, inside, rfl⟩ := List.mem_map.mp member
  exact idle_event config window event .zero (quiet event inside)

theorem visible_of_idle : visible (actionsOf config context idle) = [] := by
  rw [visible, List.filter_eq_nil_iff]
  intro action member
  obtain ⟨result, inside, rfl⟩ := List.mem_map.mp member
  simp [(results_of_idle window quiet result inside).2.2]

theorem drop_idle (rest : List Event) :
    contextAfter config context (idle ++ rest) = contextAfter config context rest ∧
      visible (actionsOf config context (idle ++ rest)) =
        visible (actionsOf config context rest) := by
  have same := context_after_idle window quiet
  constructor
  · rw [context_after_append, same]
  · rw [actions_of_append, same, visible, List.filter_append]
    change visible _ ++ visible _ = visible _
    rw [visible_of_idle window quiet, List.nil_append]

end Idle

/-- The window opened by TX_SUCCEEDED is decided by its first decisive event. -/
theorem first_decisive_event (before : Context) (entry : Event) (action : Action)
    (waiting : before.state = .waitTxResult) (succeeded : entry.type = .txSucceeded) :
    let context := (handleEvent config before entry action).context
    context.state = .waitAck ∧
      ∀ idle : List Event, (∀ event ∈ idle, ¬Decisive config context entry.tickMs event) →
        (contextAfter config context idle = context ∧
          ∀ result ∈ resultsOf config context idle,
            result.handled = true ∧ result.context = context ∧ result.action.type = .none) ∧
        (∀ event action', Decisive config context entry.tickMs event →
          let result := handleEvent config (contextAfter config context idle) event action'
          result.context.state = .waitInterval ∧
            result.context.responseSequence = context.responseSequence + 1 ∧
              result.action.type =
                if config.ackTimeoutMs ≤ event.tickMs - entry.tickMs then .ackTimeout
                else .transactionComplete) ∧
        ∀ other rest : List Event,
          (∀ event ∈ other, ¬Decisive config context entry.tickMs event) →
            contextAfter config context (idle ++ rest) =
                contextAfter config context (other ++ rest) ∧
              visible (actionsOf config context (idle ++ rest)) =
                visible (actionsOf config context (other ++ rest)) := by
  intro context
  have window : Window context entry.tickMs :=
    tx_succeeded_opens config before entry action waiting succeeded
  refine ⟨window.state, fun idle quiet => ⟨⟨?_, ?_⟩, ?_, ?_⟩⟩
  · exact context_after_idle window quiet
  · exact results_of_idle window quiet
  · intro event action' decisive result
    have decided : result = handleEvent config context event action' := by
      simp only [result, context_after_idle window quiet]
    rw [decided, decisive_event config window event action' decisive]
    exact ⟨rfl, rfl, rfl⟩
  · intro other rest otherQuiet
    have left := drop_idle window quiet rest
    have right := drop_idle window otherQuiet rest
    exact ⟨left.1.trans right.1.symm, left.2.trans right.2.symm⟩

def firstUplink : Context where
  state := .waitTxResult
  nodeAddress := 0x02
  responseSequence := 0
  pendingTransactionId := 0
  pendingSequence := 0
  ackStartedTickMs := 0
  intervalStartedTickMs := 0
  transactionId := 0

def irrelevantEvents : List Event :=
  [⟨.frameReceived, some [0x03, 0x00], 0xFFFFFF10⟩,
    ⟨.frameReceived, some [0x03, 0x00, 0x03, 0x00, 0x00, 0x00, 0x00, 0xC7, 0x9E], 0xFFFFFF20⟩,
    ⟨.txSucceeded, none, 0x00000005⟩]

/-- The counter wraps inside the window and the late copy of the ACK loses. -/
theorem window_decided_across_wrap :
    let context := (handleEvent .default firstUplink ⟨.txSucceeded, none, 0xFFFFFF00⟩ .zero).context
    let ack : List Byte := [0x03, 0x00, 0x02, 0x00, 0x00, 0x00, 0x00, 0x6D, 0xCF]
    contextAfter .default context irrelevantEvents = context ∧
      (handleEvent .default (contextAfter .default context irrelevantEvents)
        ⟨.frameReceived, some ack, 0x000002E7⟩ .zero).action.type = .transactionComplete ∧
      (handleEvent .default (contextAfter .default context irrelevantEvents)
        ⟨.frameReceived, some ack, 0x000002E8⟩ .zero).action.type = .ackTimeout := by
  have decided := first_decisive_event .default firstUplink ⟨.txSucceeded, none, 0xFFFFFF00⟩ .zero
    rfl rfl
  have quiet := decided.2 irrelevantEvents (by decide +kernel)
  refine ⟨quiet.1.1, ?_, ?_⟩
  · exact (quiet.2.1 _ .zero (by decide +kernel)).2.2
  · exact (quiet.2.1 _ .zero (by decide +kernel)).2.2

end LoraNode.AckWindow
