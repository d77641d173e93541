import LoraNode.AppSampling
import LoraNode.Foundation.Stateful
import LoraNode.SensorDriver
import LoraNode.Transcript

/-!
# What the whole program does on the DATA line

Each read of the sensor is a transaction of bounded length, and between two of them
lies a sleep of the configured interval.
-/

namespace LoraNode.SensorTraffic

open LoraNode.Foundation LoraNode.Foundation.Bytes LoraNode.Foundation.Program
  LoraNode.Foundation.Stateful LoraNode.LoraApp LoraNode.AppSampling LoraNode.Dht11
  LoraNode.SensorDriver LoraNode.Transcript

def nodeMain (config : AppConfig) (calls : Nat) : Program NodeCall (AppState × Handle) :=
  carriedOut driverBody (Transcript.nodeMain config calls) staticHandle

/-- No timeout of the program is longer than the one it gives to `DHT11_Init`. -/
def Bounded (handle : Handle) : Prop := handle.timeoutUs ≤ defaultTimeout

def Shows (Reply : Type) (call : Call Reply) (handle : Handle) (trace : List (Entry NodeCall))
    (answer : Reply) (next : Handle) : Prop :=
  (Bounded handle → Bounded next) ∧
    match call with
    | .dht11Init => pins trace = drivenHigh
    | .dht11Read => Bounded handle → Transaction defaultTimeout (pins trace)
    | .sleep intervalMs => trace = [⟨.app (.sleep intervalMs), answer⟩]
    | _ => pins trace = []

theorem driverBody_shows (Reply : Type) (call : Call Reply) (handle : Handle) :
    (driverBody call handle).Ensures fun trace answered =>
      Shows Reply call handle trace answered.1 answered.2 := by
  cases call with
  | dht11Init =>
      have initialized : (initHandle defaultTimeout).Ensures fun trace answered =>
          trace = drivenHigh ∧ answered.2 = .fresh defaultTimeout := by
        rw [initHandle, ensures_bind]
        apply ensures_mono pinSetOutputHigh_rests
        rintro _ _ rfl
        exact ⟨rfl, rfl⟩
      apply ensures_mono (ensures_pins initialized)
      intro trace answered shown
      have timeout : (Handle.fresh defaultTimeout).timeoutUs = defaultTimeout := rfl
      refine ⟨fun _ => ?_, shown.1⟩
      rw [shown.2, Bounded, timeout]
      exact BitVec.le_refl defaultTimeout
  | dht11Read =>
      apply ensures_mono (ensures_pins (readSample_transacts handle))
      intro trace answered shown
      refine ⟨fun bounded => ?_, fun bounded => transaction_mono shown.1 bounded⟩
      rw [Bounded, shown.2]
      exact bounded
  | dht11GetTemperature => exact ⟨id, rfl⟩
  | dht11GetHumidity => exact ⟨id, rfl⟩
  | _ => exact fun answer => ⟨id, rfl⟩

section Carried

variable {above : Trace} {handle next : Handle} {below : List (Entry NodeCall)}

theorem carries_bounded (carries : Carries Shows above handle below next)
    (bounded : Bounded handle) : Bounded next :=
  carries_invariant (fun _ _ _ _ _ _ holds shown => shown.1 holds) carries bounded

theorem untouched_pins {Reply : Type} {call : Call Reply} {answer : Reply}
    (untouched : Untouched call) (shown : Shows Reply call handle below answer next) :
    pins below = [] := by
  cases call with
  | dht11Init => exact untouched.elim
  | dht11Read => exact untouched.elim
  | sleep intervalMs =>
      rw [show below = _ from shown.2]
      rfl
  | _ => exact shown.2

theorem silent_pins (silent : Silent above) (carries : Carries Shows above handle below next) :
    pins below = [] := by
  induction carries with
  | nothing => rfl
  | call call answer above state middle last first below shown rest induction =>
      obtain ⟨untouched, later⟩ := List.forall_mem_cons.mp silent
      rw [pins_append, untouched_pins untouched shown, induction later]
      rfl

/-- One call in a silent trace is all that reaches the pins. -/
theorem single_pins {call : Call Bool} {before after : Trace} {answer : Bool}
    (early : Silent before) (late : Silent after) (bounded : Bounded handle)
    (carries : Carries Shows (before ++ ⟨call, answer⟩ :: after) handle below next) :
    ∃ middle part between, Bounded middle ∧ Shows Bool call middle part answer between ∧
      pins below = pins part := by
  obtain ⟨first, second, middle, same, opens, carries⟩ := carries_append carries
  cases carries with
  | call _ _ _ _ between _ part rest shown closes =>
      refine ⟨middle, part, between, carries_bounded opens bounded, shown, ?_⟩
      rw [same, pins_append, pins_append, silent_pins early opens, silent_pins late closes,
        List.nil_append, List.append_nil]

def Visit (intervalMs : BitVec 32) (ready : Bool) (trace : List (Entry NodeCall)) : Prop :=
  ∃ rest, trace = ⟨.app (.sleep intervalMs), true⟩ :: rest ∧
    (pins rest = [] ∨ ready = true ∧ Transaction defaultTimeout (pins rest))

variable {intervalMs : BitVec 32} {ready : Bool}

theorem sampled_pins (sampled : Sampled ready above) (bounded : Bounded handle)
    (carries : Carries Shows above handle below next) :
    pins below = [] ∨ ready = true ∧ Transaction defaultTimeout (pins below) := by
  cases sampled with
  | never _ silent => exact .inl (silent_pins silent carries)
  | once present before after measured early late =>
      obtain ⟨middle, part, between, known, shown, same⟩ := single_pins early late bounded carries
      rw [same]
      exact .inr ⟨present, shown.2 known⟩

theorem started_pins (started : Started ready above) (bounded : Bounded handle)
    (carries : Carries Shows above handle below next) :
    (ready = false ∧ pins below = []) ∨ pins below = drivenHigh := by
  cases started with
  | never _ silent => exact .inl ⟨rfl, silent_pins silent carries⟩
  | once _ before after answer early late =>
      obtain ⟨middle, part, between, known, shown, same⟩ := single_pins early late bounded carries
      rw [same]
      exact .inr shown.2

theorem round_visits (round : Round intervalMs ready above) (bounded : Bounded handle)
    (carries : Carries Shows above handle below next) : Visit intervalMs ready below := by
  obtain ⟨rest, rfl, sampled⟩ := round
  cases carries with
  | call _ _ _ _ middle _ first second shown later =>
      refine ⟨second, ?_, sampled_pins sampled (shown.1 bounded) later⟩
      rw [show first = _ from shown.2]
      rfl

theorem rounds_visit {rounds : List Trace}
    (each : ∀ round ∈ rounds, Round intervalMs ready round) (bounded : Bounded handle)
    (carries : Carries Shows rounds.flatten handle below next) :
    ∃ visits : List (List (Entry NodeCall)), below = visits.flatten ∧
      ∀ visit ∈ visits, Visit intervalMs ready visit := by
  induction rounds generalizing handle below with
  | nil =>
      cases carries with
      | nothing => exact ⟨[], rfl, List.forall_mem_nil _⟩
  | cons round rounds induction =>
      obtain ⟨opens, closes⟩ := List.forall_mem_cons.mp each
      rw [List.flatten_cons] at carries
      obtain ⟨first, second, middle, same, here, later⟩ := carries_append carries
      obtain ⟨visits, rest, all⟩ := induction closes (carries_bounded here bounded) later
      refine ⟨first :: visits, ?_, ?_⟩
      · rw [same, rest, List.flatten_cons]
      · exact List.forall_mem_cons.mpr ⟨round_visits opens bounded here, all⟩

end Carried

theorem runTasks_spaced (config : AppConfig) (calls : Nat) (state : AppState) :
    (runTasks config calls state).Ensures
      fun trace _ => Spaced config.sleepIntervalMs state.dht11Ready trace := by
  induction calls generalizing state with
  | zero => exact spaced_silent (List.forall_mem_nil _)
  | succ calls induction =>
      rw [runTasks, ensures_bind]
      apply ensures_mono (ensures_and (tasks_spaced config state) (tasks_leaves state))
      rintro before next ⟨spaced, same⟩
      apply ensures_mono (induction next)
      intro after _ later
      rw [same] at later
      exact spaced_append spaced later

/-- The start, and what follows it. -/
theorem nodeMain_spaced (config : AppConfig) (calls : Nat) :
    (Transcript.nodeMain config calls).Ensures fun trace _ => ∃ start rest ready,
      trace = start ++ rest ∧ Started ready start ∧
        Spaced config.sleepIntervalMs ready rest := by
  rw [Transcript.nodeMain, ensures_bind]
  apply ensures_mono (initializeApp_started config .zero)
  intro start result started
  apply ensures_mono (runTasks_spaced config calls result.2)
  exact fun rest _ spaced => ⟨start, rest, result.2.dht11Ready, rfl, started, spaced⟩

/-- The sensor is used as `DHT11.h` asks, whatever it does: one transaction a sleep,
from a line that the start has driven high. -/
theorem node_spares_sensor (config : AppConfig) (calls : Nat) :
    (nodeMain config calls).Ensures fun trace _ =>
      ∃ (start : List (Entry NodeCall)) (visits : List (List (Entry NodeCall))) (ready : Bool),
        trace = start ++ visits.flatten ∧
          ((ready = false ∧ pins start = []) ∨ pins start = drivenHigh) ∧
            ∀ visit ∈ visits, Visit config.sleepIntervalMs ready visit := by
  have zero : Bounded staticHandle := by
    rw [Bounded]
    decide
  apply ensures_mono (ensures_carried driverBody_shows (nodeMain_spaced config calls) staticHandle)
  rintro below last ⟨above, ⟨start, rest, ready, rfl, started, spaced⟩, carries⟩
  obtain ⟨quiet, rounds, rfl, silent, each⟩ := spaced
  obtain ⟨first, second, middle, rfl, opens, later⟩ := carries_append carries
  obtain ⟨still, third, after, rfl, waits, goes⟩ := carries_append later
  have known := carries_bounded opens zero
  obtain ⟨visits, rfl, all⟩ := rounds_visit each (carries_bounded waits known) goes
  refine ⟨first ++ still, visits, ready, (List.append_assoc ..).symm, ?_, all⟩
  rw [pins_append, silent_pins silent waits, List.append_nil]
  exact started_pins started zero opens

/-- `DHT11_MIN_INTERVAL_MS` is 1500. -/
example : 1500 ≤ AppConfig.default.sleepIntervalMs.toNat := by decide

end LoraNode.SensorTraffic
