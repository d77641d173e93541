import LoraNode.UplinkAck

/-!
# No stale, replayed or foreign ACK

A frame that completes a cycle names the node and the cycle modulo 65536. The
network may reorder, delay and duplicate at will: every event sequence is a run.
-/

namespace LoraNode.StaleAck

open LoraNode.Foundation LoraNode.Foundation.Bytes LoraNode.NodePacket LoraNode.NodeState
  LoraNode.CycleAccounting LoraNode.AckWindow LoraNode.UplinkAck

structure NodeRun where
  config : AppConfig
  before : Context
  address : Byte
  tick : BitVec 32
  events : List Event
  valid : NodeState.isNodeAddress address = true

def NodeRun.start (run : NodeRun) : Context :=
  (initializeContext run.before run.address run.tick).2

def NodeRun.context (run : NodeRun) : Context := contextAfter run.config run.start run.events

def NodeRun.cycle (run : NodeRun) : Nat := cycles (actionsOf run.config run.start run.events) + 1

/-- The frame ends the cycle in progress, delivered at `now`. -/
def NodeRun.CompletesOn (run : NodeRun) (bytes : List Byte) (now : BitVec 32) : Prop :=
  (handleEvent run.config run.context ⟨.frameReceived, some bytes, now⟩ .zero).action.type =
    .transactionComplete

def NodeRun.extend (run : NodeRun) (later : List Event) : NodeRun :=
  { run with events := run.events ++ later }

theorem NodeRun.accounted (run : NodeRun) :
    Accounted run.address (cycles (actionsOf run.config run.start run.events)) run.context :=
  (counted_run run.config run.before run.address run.tick run.valid run.events).2.1

theorem completes_in_wait_ack {config : AppConfig} {context : Context} {bytes : List Byte}
    {now : BitVec 32} {action : Action} (legal : Legal context.state)
    (completes : (handleEvent config context ⟨.frameReceived, some bytes, now⟩ action).action.type =
      .transactionComplete) : context.state = .waitAck := by
  rcases legal with state | state | state
  · simp [handleEvent, state, handleWaitInterval, Action.zero] at completes
  · simp [handleEvent, state, handleWaitTxResult, Action.zero] at completes
  · exact state

/-- The frame that completes cycle `ended + 1` is the ACK numbered `ended`. -/
theorem NodeRun.completing_frame {run : NodeRun} {bytes : List Byte} {now : BitVec 32}
    (completes : run.CompletesOn bytes now) :
    let ended := cycles (actionsOf run.config run.start run.events)
    IsAckFor run.address (BitVec.ofNat 8 ended) (BitVec.ofNat 16 ended) bytes := by
  intro ended
  have accounted := run.accounted
  have state : run.context.state = .waitAck := completes_in_wait_ack accounted.legal completes
  have window : Window run.context run.context.ackStartedTickMs := ⟨state, rfl⟩
  obtain ⟨-, isAck⟩ := (completes_iff run.config window bytes now .zero).mp completes
  obtain ⟨id, sequence⟩ := accounted.busy (by simp [state])
  rwa [accounted.nodeAddress, id, sequence] at isAck

theorem ack_injective {left right leftId rightId : Byte} {leftSequence rightSequence : BitVec 16}
    {bytes : List Byte} (first : IsAckFor left leftId leftSequence bytes)
    (second : IsAckFor right rightId rightSequence bytes) :
    left = right ∧ leftId = rightId ∧ leftSequence = rightSequence := by
  obtain ⟨packet, parsed, destination, -, id, sequence⟩ := (parse_ack_iff _ _ _ _).mpr first
  obtain ⟨other, otherParsed, destination', -, id', sequence'⟩ :=
    (parse_ack_iff _ _ _ _).mpr second
  have same : packet = other := Option.some.inj (parsed.symm.trans otherParsed)
  subst same
  exact ⟨destination.symm.trans destination', id.symm.trans id', sequence.symm.trans sequence'⟩

theorem same_cycle {left right : NodeRun} {bytes : List Byte} {leftNow rightNow : BitVec 32}
    (first : left.CompletesOn bytes leftNow) (second : right.CompletesOn bytes rightNow) :
    left.address = right.address ∧ left.cycle ≡ right.cycle [MOD 65536] := by
  obtain ⟨address, -, sequence⟩ :=
    ack_injective (NodeRun.completing_frame first) (NodeRun.completing_frame second)
  refine ⟨address, Nat.ModEq.add_right 1 ?_⟩
  have values := congrArg BitVec.toNat sequence
  rwa [BitVec.toNat_ofNat, BitVec.toNat_ofNat] at values

theorem cycles_append (first second : List Action) :
    cycles (first ++ second) = cycles first + cycles second := List.countP_append

theorem later_cycle {run : NodeRun} {bytes : List Byte} {now : BitVec 32}
    (completes : run.CompletesOn bytes now) (later : List Event) :
    run.cycle < (run.extend (⟨.frameReceived, some bytes, now⟩ :: later)).cycle := by
  have actions : actionsOf run.config run.start
      (run.events ++ ⟨.frameReceived, some bytes, now⟩ :: later) =
        actionsOf run.config run.start run.events ++
          actionsOf run.config run.context (⟨.frameReceived, some bytes, now⟩ :: later) :=
    actions_of_append _ _ _ _
  have ends : 1 ≤ cycles
      (actionsOf run.config run.context (⟨.frameReceived, some bytes, now⟩ :: later)) := by
    rw [actions_of_cons, cycles, List.countP_cons]
    have type : (handleEvent run.config run.context ⟨.frameReceived, some bytes, now⟩
        .zero).action.type = .transactionComplete := completes
    simp [type, ActionType.terminal]
  simp only [NodeRun.cycle, NodeRun.extend]
  change cycles (actionsOf run.config run.start run.events) + 1 <
    cycles (actionsOf run.config run.start (run.events ++ _)) + 1
  rw [actions, cycles_append]
  omega

/-- One frame completes at most one cycle among any 65536 of one node, and none
of another node, in one run or in two. -/
theorem ack_completes_one_cycle :
    (∀ (left right : NodeRun) (bytes : List Byte) (leftNow rightNow : BitVec 32),
      left.CompletesOn bytes leftNow → right.CompletesOn bytes rightNow →
        left.address = right.address ∧ left.cycle ≡ right.cycle [MOD 65536]) ∧
    (∀ (run : NodeRun) (bytes : List Byte) (now : BitVec 32) (later : List Event)
      (again : BitVec 32), run.CompletesOn bytes now →
        let next := run.extend (⟨.frameReceived, some bytes, now⟩ :: later)
        next.CompletesOn bytes again → run.cycle + 65536 ≤ next.cycle) := by
  refine ⟨fun left right bytes leftNow rightNow => same_cycle, ?_⟩
  intro run bytes now later again first next second
  have after : run.cycle < next.cycle := later_cycle first later
  obtain ⟨-, same⟩ := same_cycle first second
  obtain ⟨wraps, apart⟩ := (Nat.modEq_iff_dvd' after.le).mp same
  have positive : 0 < wraps := by
    rcases Nat.eq_zero_or_pos wraps with none | some
    · rw [none] at apart
      omega
    · exact some
  omega

end LoraNode.StaleAck
