import LoraNode.AckWindow
import LoraNode.AppTime

/-!
# The ACK deadline in hardware counts

Every event of the window is stamped by a sample of the millisecond clock. The
deadline is stated on the true count of the 46875 Hz timer, which never wraps.
-/

namespace LoraNode.AckDeadline

open LoraNode.Foundation LoraNode.Foundation.Bytes LoraNode.NodeState LoraNode.AckWindow
  LoraNode.AppTime

/-- One sample of the clock, `gap` counts after the last, and the event it stamps. -/
structure Sample where
  gap : Nat
  short : gap < 2 ^ 32
  type : EventType
  frame : Option (List Byte)

structure Node where
  clock : Clock
  count : Nat
  context : Context

variable (config : AppConfig)

def takeSample (node : Node) (sample : Sample) : Node × Action :=
  let now := nowMs node.clock (BitVec.ofNat 32 (node.count + sample.gap))
  let result := handleEvent config node.context ⟨sample.type, sample.frame, now.1⟩ .zero
  (⟨now.2, node.count + sample.gap, result.context⟩, result.action)

def nodeAfter (node : Node) (samples : List Sample) : Node :=
  Transducer.finalState (takeSample config) node samples

def sampleActions (node : Node) (samples : List Sample) : List Action :=
  Transducer.outputs (takeSample config) node samples

/-- `LORA_APP_BuildAndTransmit` stamps TX_SUCCEEDED with the sample at `opened`. -/
def transmittedAt (clock : Clock) (opened : Nat) (before : Context)
    (frame : Option (List Byte)) : Node :=
  let now := nowMs clock (BitVec.ofNat 32 opened)
  ⟨now.2, opened, (handleEvent config before ⟨.txSucceeded, frame, now.1⟩ .zero).context⟩

/-- Whole milliseconds the clock advances over `counts` counts from the total at
the opening sample. -/
def clockGrowth (total counts : Nat) : Nat := (total + 1000 * counts) / 46875 - total / 46875

structure Waiting (opened total : Nat) (node : Node) : Prop where
  after : opened ≤ node.count
  tracks : Tracks node.clock node.count (total + 1000 * (node.count - opened))
  window : Window node.context (BitVec.ofNat 32 (total / 46875))
  early : clockGrowth total (node.count - opened) < config.ackTimeoutMs.toNat

theorem waiting_initial (clock : Clock) (opened : Nat) (before : Context)
    (frame : Option (List Byte)) (state : before.state = .waitTxResult)
    (positive : 0 < config.ackTimeoutMs.toNat) :
    ∃ total, Waiting config opened total (transmittedAt config clock opened before frame) := by
  obtain ⟨total, tracks⟩ := tracks_sampled clock opened
  refine ⟨total, Nat.le_refl _, ?_, ?_, ?_⟩
  · change Tracks _ opened (total + 1000 * (opened - opened))
    rw [Nat.sub_self, Nat.mul_zero, Nat.add_zero]
    exact tracks
  · rw [← tracks.ms]
    exact tx_succeeded_opens config before _ .zero state rfl
  · change clockGrowth total (opened - opened) < _
    rw [Nat.sub_self, clockGrowth, Nat.mul_zero, Nat.add_zero, Nat.sub_self]
    exact positive

section Sampling

variable {config} {opened total : Nat} {node : Node}

theorem growth_fits (waiting : Waiting config opened total node)
    (bounded : config.ackTimeoutMs.toNat ≤ 2 ^ 31) (sample : Sample) :
    clockGrowth total (node.count + sample.gap - opened) < 2 ^ 32 := by
  have early := waiting.early
  have after := waiting.after
  have short := sample.short
  simp only [clockGrowth] at early ⊢
  omega

/-- The elapsed milliseconds the state machine computes at a sample. -/
theorem sample_elapsed (waiting : Waiting config opened total node)
    (bounded : config.ackTimeoutMs.toNat ≤ 2 ^ 31) (sample : Sample) :
    let now := nowMs node.clock (BitVec.ofNat 32 (node.count + sample.gap))
    Tracks now.2 (node.count + sample.gap)
        (total + 1000 * (node.count + sample.gap - opened)) ∧
      (now.1 - BitVec.ofNat 32 (total / 46875)).toNat =
        clockGrowth total (node.count + sample.gap - opened) := by
  intro now
  have fits := growth_fits waiting bounded sample
  have after := waiting.after
  obtain ⟨tracks, shown⟩ := tracks_now waiting.tracks sample.gap sample.short
  have sum : total + 1000 * (node.count - opened) + 1000 * sample.gap =
      total + 1000 * (node.count + sample.gap - opened) := by omega
  rw [sum] at tracks shown
  refine ⟨tracks, ?_⟩
  have split : (total + 1000 * (node.count + sample.gap - opened)) / 46875 =
      total / 46875 + clockGrowth total (node.count + sample.gap - opened) := by
    rw [clockGrowth]
    omega
  rw [shown, split, elapsed_counts _ _ fits]

theorem waiting_idle (waiting : Waiting config opened total node)
    (bounded : config.ackTimeoutMs.toNat ≤ 2 ^ 31) (sample : Sample)
    (unfinished : (takeSample config node sample).2.type.terminal = false) :
    Waiting config opened total (takeSample config node sample).1 := by
  obtain ⟨tracks, elapsed⟩ := sample_elapsed waiting bounded sample
  have after := waiting.after
  have idle := unfinished_not_decisive config waiting.window _ unfinished
  have same := (idle_event config waiting.window _ .zero idle).2.1
  have early := BitVec.lt_def.mp (BitVec.not_le.mp (not_or.mp idle).1)
  refine ⟨?_, tracks, ?_, ?_⟩
  · change opened ≤ node.count + sample.gap
    omega
  · change Window (handleEvent config node.context _ .zero).context _
    rw [same]
    exact waiting.window
  · exact elapsed.symm.trans_lt early

theorem waiting_run (bounded : config.ackTimeoutMs.toNat ≤ 2 ^ 31) (samples : List Sample)
    (waiting : Waiting config opened total node)
    (unfinished : ∀ action ∈ sampleActions config node samples, action.type.terminal = false) :
    Waiting config opened total (nodeAfter config node samples) := by
  induction samples generalizing node with
  | nil => exact waiting
  | cons sample samples induction =>
      have next := waiting_idle waiting bounded sample (unfinished _ List.mem_cons_self)
      exact induction next fun action member => unfinished action (List.mem_cons_of_mem _ member)

theorem sample_outcome (waiting : Waiting config opened total node)
    (bounded : config.ackTimeoutMs.toNat ≤ 2 ^ 31) (sample : Sample) :
    let reached := config.ackTimeoutMs.toNat ≤
      clockGrowth total (node.count + sample.gap - opened)
    let type := (takeSample config node sample).2.type
    (reached → type = .ackTimeout) ∧ (type = .ackTimeout → reached) ∧
      (type = .transactionComplete → ¬reached) := by
  intro reached type
  obtain ⟨-, elapsed⟩ := sample_elapsed waiting bounded sample
  have late : config.ackTimeoutMs ≤ (nowMs node.clock
      (BitVec.ofNat 32 (node.count + sample.gap))).1 - BitVec.ofNat 32 (total / 46875) ↔
        reached := by
    rw [BitVec.le_def, elapsed]
  by_cases decisive : Decisive config node.context (BitVec.ofNat 32 (total / 46875))
      ⟨sample.type, sample.frame,
        (nowMs node.clock (BitVec.ofNat 32 (node.count + sample.gap))).1⟩
  · have ended := congrArg (fun result => result.action.type)
      (decisive_event config waiting.window _ .zero decisive)
    change type = (if config.ackTimeoutMs ≤ _ - _ then .ackTimeout else .transactionComplete)
      at ended
    by_cases isLate : reached
    · rw [if_pos (late.mpr isLate)] at ended
      simp [ended, isLate]
    · rw [if_neg (mt late.mp isLate)] at ended
      simp [ended, isLate]
  · have nothing : type = .none := (idle_event config waiting.window _ .zero decisive).2.2
    have early : ¬reached := fun isLate => decisive (Or.inl (late.mpr isLate))
    simp [nothing, early]

end Sampling

/-- The three bounds on the true count, for every schedule of samples. -/
theorem ack_deadline (clock : Clock) (opened : Nat) (before : Context)
    (frame : Option (List Byte)) (samples : List Sample) (sample : Sample)
    (state : before.state = .waitTxResult) (positive : 1 ≤ config.ackTimeoutMs.toNat)
    (bounded : config.ackTimeoutMs.toNat ≤ 2 ^ 31)
    (unfinished : ∀ action ∈
      sampleActions config (transmittedAt config clock opened before frame) samples,
        action.type.terminal = false) :
    let timeout := config.ackTimeoutMs.toNat
    let node := nodeAfter config (transmittedAt config clock opened before frame) samples
    let counts := node.count + sample.gap - opened
    let type := (takeSample config node sample).2.type
    (type = .transactionComplete → 1000 * counts < timeout * 46875) ∧
      (type = .ackTimeout → (timeout - 1) * 46875 < 1000 * counts) ∧
        (timeout * 46875 ≤ 1000 * counts → type = .ackTimeout) := by
  intro timeout node counts type
  obtain ⟨total, initial⟩ := waiting_initial config clock opened before frame state positive
  have waiting : Waiting config opened total node := waiting_run bounded samples initial unfinished
  obtain ⟨ends, onlyLate, completes⟩ := sample_outcome waiting bounded sample
  refine ⟨fun complete => ?_, fun timedOut => ?_, fun passed => ?_⟩
  · exact CarriedDivision.growth_lt (by decide) (Nat.not_le.mp (completes complete))
  · have grown : timeout - 1 < clockGrowth total counts :=
      Nat.lt_of_lt_of_le (Nat.sub_lt positive Nat.one_pos) (onlyLate timedOut)
    exact CarriedDivision.growth_gt (by decide) grown
  · exact ends (CarriedDivision.growth_of_amount (by decide) passed)

def wrappingClock : Clock := ⟨0xFFFFFFF0, 0xFFFFFFFF, 46874⟩

def earlyPoll : Sample := ⟨30000, by decide, .timerTick, none⟩

def latePoll : Sample := ⟨16875, by decide, .timerTick, none⟩

/-- Exactly one second of counts after the uplink the node gives up. -/
theorem deadline_across_wrap :
    (takeSample .default (nodeAfter .default
      (transmittedAt .default wrappingClock 0xFFFFFFFF firstUplink none) [earlyPoll])
        latePoll).2.type = .ackTimeout :=
  (ack_deadline .default wrappingClock 0xFFFFFFFF firstUplink none [earlyPoll] latePoll rfl
    (by decide) (by decide) (by decide)).2.2 (by decide)

end LoraNode.AckDeadline
