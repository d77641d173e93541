import LoraNode.Foundation.LabelledRun
import LoraNode.UsartMachine
import LoraNode.UsartWriter

/-!
# Every write is delivered

Once `SERCOM5_USART_Write` has returned, a bounded number of steps of the shift
register and runs of the handler bring the whole array onto the line. As long as
something is left, one of these steps is possible.
-/

namespace LoraNode.Usart

open LoraNode.Foundation LoraNode.Foundation.Bytes LoraNode.Foundation.Program
  LoraNode.Foundation.Interference LoraNode.Foundation.Buffers LoraNode.Foundation.Preemption
  LoraNode.Foundation.LabelledRun

variable {Buffer : Type} {sizes : Buffer → Nat} {memory : Memory Buffer}
  {before accepted : List Byte} {array : Buffer} {size : Nat}

/-- An idle driver takes every array that can be read. -/
theorem write_starts (readable : Readable sizes memory array size) :
    Triple driven (watched sizes) (Resting sizes memory before accepted 0 none)
      (write (some array) size) fun answer port => answer = true ∧
        Rests sizes memory before (accepted ++ bytesOf memory array size) (size + 1) (some array)
          port := by
  apply triple_exists
  intro object
  apply triple_fact
  intro free
  have looks : Triple driven (watched sizes) (At (resting object memory before accepted))
      (access .object) fun looked port => looked = object ∧
        At (resting object memory before accepted) port :=
    access_quiet rfl (fun _ => stable_and (stable_fact _) (at_driven rfl)) object_reads
  have accepts (port : Port Buffer) (holds : At (resting object memory before accepted) port) :
      At (sending object noInterrupts memory before (accepted ++ bytesOf memory array size) array
        size 0) port := by
    have carried : port.out ++ port.shift.toList ++ port.data.toList ++ [] = accepted :=
      holds.carried
    rw [List.append_nil] at carried
    refine ⟨holds.object, holds.enabled, holds.memory, holds.left, ?_, holds.settled, False.elim⟩
    exact congrArg (· ++ bytesOf memory array size) carried
  change Triple _ _ _ (access .object >>= fun looked : UsartObject Buffer =>
    if looked.txBusyStatus then return false else starts array size) _
  apply triple_seq looks
  intro looked
  apply triple_fact
  intro same
  rw [same, if_neg (Bool.eq_false_iff.mp free)]
  exact triple_pre (starts_sends readable) accepts

inductive Moved : Port Buffer → Bool → Port Buffer → Prop where
  | fault (port : Port Buffer) : Moved port false { port with error := true }
  | wire (port next : Port Buffer) (moved : Hardware port next)
      (changes : next.shift ≠ port.shift) : Moved port true next
  | handled (port next : Port Buffer) (asked : port.requests)
      (ran : Reaches sercom (interruptHandler, port) (.done (), next)) : Moved port true next

section Progress

def Port.weight (port : Port Buffer) : Nat :=
  2 * port.data.toList.length + port.shift.toList.length

theorem weight_bounded (port : Port Buffer) : port.weight ≤ 3 := by
  have data := Option.length_toList_le (o := port.data)
  have shift := Option.length_toList_le (o := port.shift)
  rw [Port.weight]
  omega

theorem wire_lowers {port next : Port Buffer} (moved : Hardware port next)
    (changes : next.shift ≠ port.shift) : next.weight < port.weight := by
  cases moved with
  | load byte written idle =>
      unfold Port.weight
      rw [written, idle]
      exact Nat.lt_add_one 1
  | shifted byte loaded =>
      unfold Port.weight
      rw [loaded]
      exact Nat.lt_add_one _
  | fault => exact absurd rfl changes

/-- So many steps are left at most, four for every run of the handler. -/
def Within (sizes : Buffer → Nat) (memory : Memory Buffer) (before accepted : List Byte)
    (array : Buffer) (bound : Nat) (port : Port Buffer) : Prop :=
  ∃ runs, 4 * runs + port.weight ≤ bound ∧
    Rests sizes memory before accepted runs (some array) port

theorem within_moved (bound : Nat) (port : Port Buffer) (label : Bool) (next : Port Buffer)
    (within : Within sizes memory before accepted array bound port)
    (moved : Moved port label next) : [label].count true ≤ bound ∧
      Within sizes memory before accepted array (bound - [label].count true) next := by
  obtain ⟨runs, below, rests⟩ := within
  cases moved with
  | fault => exact ⟨Nat.zero_le _, runs, below, rests_stable _ _ rests (Hardware.fault port)⟩
  | wire _ moved changes =>
      have lower := wire_lowers moved changes
      change 1 ≤ bound ∧ _
      refine ⟨by omega, runs, ?_, rests_stable _ _ rests moved⟩
      change _ ≤ bound - 1
      omega
  | handled _ asked ran =>
      have small := weight_bounded next
      cases runs with
      | zero =>
          obtain ⟨_, _, size, index, ⟨inside, ends, _⟩, _⟩ := rests_requested asked rests
          omega
      | succ runs =>
          have still := secured_done
            (secured_reaches (handler_lowers runs (some array) port ⟨asked, rests⟩) ran)
          change 1 ≤ bound ∧ _
          refine ⟨by omega, runs, ?_, still⟩
          change _ ≤ bound - 1
          omega

/-- As long as something is left the hardware goes on. -/
theorem rests_moves {runs : Nat} {port : Port Buffer}
    (rests : Rests sizes memory before accepted runs (some array) port) :
    (port.Flushed ∧ port.out = accepted) ∨ ∃ next, Moved port true next := by
  cases shift : port.shift with
  | some byte =>
      refine .inr ⟨_, .wire port _ (.shifted port byte shift) ?_⟩
      rw [shift]
      exact nofun
  | none =>
      cases data : port.data with
      | some byte =>
          refine .inr ⟨_, .wire port _ (.load port byte data shift) ?_⟩
          rw [shift]
          exact nofun
      | none =>
          obtain ⟨busy, _, rests⟩ := rests
          cases busy with
          | none =>
              obtain ⟨object, free, holds⟩ := rests
              have free : port.object.txBusyStatus = false := holds.object ▸ free
              have carried : port.out ++ port.shift.toList ++ port.data.toList ++ [] = accepted :=
                holds.carried
              rw [shift, data] at carried
              refine .inl ⟨⟨?_, shift, data⟩, by simpa using carried⟩
              rw [Port.source, free]
              rfl
          | some other =>
              obtain ⟨_, _, _, holds⟩ := rests
              have enabled : port.enabled = dataRegisterEmpty := holds.enabled
              have asked : port.requests := by
                simp [Port.requests, enabled, dataRegisterEmpty, Port.flags, data]
              exact .inr ⟨_, .handled port _ asked (handler_serves port)⟩

end Progress

/-- A bounded number of steps delivers every accepted array, unless the rest of the
machine stands still. -/
theorem write_completes (sizes : Buffer → Nat) (array : Buffer) (size : Nat)
    (port begun last : Port Buffer) (writer : Writer Buffer)
    (represents : Represents sizes port writer) (free : writer.busy = none)
    (readable : Readable sizes writer.memory array size) (answer : Bool)
    (returned : Reaches driven (write (some array) size, port) (.done answer, begun))
    {labels : List Bool} (run : Run Moved begun labels last) :
    answer = true ∧ labels.count true ≤ 4 * size + 7 ∧
      ((last.Flushed ∧ last.out = writer.accepted ++ bytesOf writer.memory array size) ∨
        ∃ next, Moved last true next) := by
  obtain ⟨_, runs, rests⟩ := represents
  rw [free] at rests
  have idle : Resting sizes writer.memory writer.out writer.accepted 0 none port := rests
  obtain ⟨taken, rests⟩ := secured_done (secured_reaches (write_starts readable port idle) returned)
  have small := weight_bounded begun
  have within : Within sizes writer.memory writer.out
      (writer.accepted ++ bytesOf writer.memory array size) array (4 * size + 7) begun :=
    ⟨size + 1, by omega, rests⟩
  obtain ⟨few, _, _, rests⟩ := run_budget within_moved within run
  exact ⟨taken, few, rests_moves rests⟩

section Machine

theorem turn_moved (port next : Port Buffer) (turned : port.turn = some next) :
    ∃ label, Moved port label next := by
  rcases turn_interferes port next turned with moved | ⟨asked, ran⟩
  · cases moved with
    | load byte written idle =>
        have changes : some byte ≠ port.shift := by simp [idle]
        exact ⟨true, .wire port _ (.load port byte written idle) changes⟩
    | shifted byte loaded =>
        have changes : none ≠ port.shift := by simp [loaded]
        exact ⟨true, .wire port _ (.shifted port byte loaded) changes⟩
    | fault => exact ⟨false, .fault port⟩
  · exact ⟨true, .handled port next asked ran⟩

/-- With no turn left, neither the shift register nor the handler goes on. -/
theorem settled_stays {port : Port Buffer} (settled : port.turn = none) :
    ¬∃ next, Moved port true next := by
  rw [Port.turn] at settled
  by_cases asked : port.requests
  · rw [if_pos asked] at settled
    cases settled
  · rw [if_neg asked] at settled
    rintro ⟨next, moved⟩
    cases moved with
    | handled _ requested ran => exact asked requested
    | wire _ moved changes =>
        cases moved with
        | load byte written idle => simp [written, idle] at settled
        | shifted byte loaded => simp [loaded] at settled
        | fault => exact changes rfl

def twoBytes : Memory Unit := fun _ => cells [0x48, 0x69]

theorem twoBytes_readable : Readable (fun _ => 2) twoBytes () 2 :=
  ⟨Nat.le_refl 2, fun _ bound => cells_written bound⟩

theorem write_completes_two :
    let ran := (write (some ()) 2).simulate Port.serve (unusedPort twoBytes)
    let last := settle Port.turn 100 ran.2
    ran.1 = true ∧ ∃ labels, Run Moved ran.2 labels last ∧ labels.count true ≤ 4 * 2 + 7 ∧
      last.Flushed ∧ last.out = [0x48, 0x69] := by
  intro ran last
  obtain ⟨labels, run⟩ := settle_runs turn_moved 100 ran.2
  have returned : Reaches driven (write (some ()) 2, unusedPort twoBytes) (.done ran.1, ran.2) :=
    reaches_simulated (fun port call => ⟨port, .refl, serve_answers port call⟩) _ _
  obtain ⟨taken, few, delivered⟩ := write_completes (fun _ => 2) () 2 (unusedPort twoBytes) ran.2
    last ⟨twoBytes, [], [], none⟩ (unusedPort_represents twoBytes) rfl twoBytes_readable ran.1
    returned run
  have settled : last.turn.isNone := by decide +kernel
  obtain ⟨flushed, out⟩ :=
    delivered.resolve_right (settled_stays (Option.isNone_iff_eq_none.mp settled))
  exact ⟨taken, labels, run, few, flushed, out⟩

end Machine

end LoraNode.Usart
