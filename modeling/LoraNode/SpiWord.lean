import LoraNode.Foundation.Layer
import LoraNode.SpiDelivery

/-!
# One byte at a time (`SX1278_hw.c`)

`SX1278_hw_SPITransfer` waits until its byte is out and the reply in. To its
caller the slave answers a word in one step, and the pins move only between two
words. The loops are followed for so many rounds; `none` stands for a wait that
goes on after that.
-/

namespace LoraNode.SpiMaster

open LoraNode.Foundation LoraNode.Foundation.Bytes LoraNode.Foundation.Program
  LoraNode.Foundation.Interference LoraNode.Foundation.Preemption LoraNode.Foundation.Layer

/-- `while (!SERCOM1_SPI_WriteRead(&txByte, 1U, destination, 1U))` -/
def acquire (rounds : Nat) (txByte destination : Byte) : Nat → Driver Bool
  | 0 => return false
  | attempts + 1 => do
      let accepted ← writeRead rounds (some [txByte]) 1 (some [destination]) 1
      if accepted = some true then return true
      else if accepted = some false then
        if ← waitWhile isBusy rounds then acquire rounds txByte destination attempts
        else return false
      else return false

/-- `SX1278_hw_SPITransfer`; `rxByte` is NULL or what it points to, `discard` what the
local variable holds. -/
def spiTransfer (rounds : Nat) (discard txByte : Byte) (rxByte : Option Byte) :
    Driver (Option Byte) := do
  let destination := rxByte.getD discard
  if !(← waitWhile isBusy rounds) then return none
  else if !(← acquire rounds txByte destination rounds) then return none
  else if !(← waitWhile isBusy rounds) then return none
  else
    let byte ← access (.readRx 0)
    return some byte

inductive Transfer : Type → Type where
  | spiTransfer (txByte : Byte) (rxByte : Option Byte) : Transfer Byte

abbrev Line (Pin : Type → Type) (Reply : Type) : Type := Transfer Reply ⊕ Pin Reply

variable {Chip : Type*} {Pin : Type → Type}

def lineAnswers (slave : Slave Chip Pin) {Reply : Type} (chip : Chip) :
    Line Pin Reply → Reply → Chip → Prop
  | .inl (.spiTransfer txByte _), answer, next => slave.exchanges chip txByte answer next
  | .inr call, answer, next => slave.drives chip call answer next

def line (slave : Slave Chip Pin) : Setting (Line Pin) Chip where
  answers := lineAnswers slave
  interferes := slave.drifts

abbrev board (slave : Slave Chip Pin) : Setting (TaskCall Pin) (Port Chip) :=
  preempted (pins slave) (sercom slave) interruptHandler Port.requests

/-- Accesses are sound, and no word is on its way when a pin moves. -/
def steady (slave : Slave Chip Pin) : Guard (TaskCall Pin) (Port Chip)
  | _, .inl call, port => watched slave call port
  | _, .inr _, port => Idle port

def lineBody (rounds : Nat) (discard : Byte) {Reply : Type} :
    Line Pin Reply → Program (TaskCall Pin) (Option Reply)
  | .inl (.spiTransfer txByte rxByte) => (spiTransfer rounds discard txByte rxByte).lift Sum.inl
  | .inr call => do
      let answer ← perform (.inr call)
      return some answer

variable {slave : Slave Chip Pin} {start : Chip}

section Exchanged

theorem drifts_exchanged {words : List (Byte × Byte)} {chip : Chip}
    (exchanged : Exchanged slave start words chip) (none : words = []) :
    Relation.ReflTransGen slave.drifts start chip := by
  induction exchanged with
  | nothing => exact .refl
  | drift words chip next before moved induction => exact (induction none).tail moved
  | word words chip next byte reply before exchanged induction =>
      exact absurd none (List.append_ne_nil_of_right_ne_nil words (List.cons_ne_nil _ _))

/-- One word is one step of the slave. -/
theorem exchanged_taken {words : List (Byte × Byte)} {chip : Chip} {txByte reply : Byte}
    (rxByte : Option Byte) (exchanged : Exchanged slave start words chip)
    (one : words = [(txByte, reply)]) :
    Taken (line slave) start (.inl (.spiTransfer txByte rxByte)) reply chip := by
  induction exchanged with
  | nothing => cases one
  | drift words chip next before moved induction =>
      obtain ⟨first, second, earlier, answered, later⟩ := induction one
      exact ⟨first, second, earlier, answered, later.tail moved⟩
  | word words chip next byte answer before exchanged induction =>
      obtain ⟨none, same⟩ := List.append_eq_singleton_iff.mp one |>.resolve_right (by simp)
      cases same
      exact ⟨chip, next, drifts_exchanged before none, exchanged, .refl⟩

end Exchanged

section Transfer

def Engaged (slave : Slave Chip Pin) (port : Port Chip) : Prop :=
  Idle port ∨ ∃ (job : Job) (start : Chip) (bound : Nat), job.Advanced slave start bound port

theorem engaged_stable : Stable (driven slave) (Engaged slave) := by
  apply stable_or
  · intro port next idle moved
    exact (rested_driven port next ⟨idle, .refl⟩ moved).1
  · exact stable_exists fun job => stable_exists fun start => stable_exists fun bound =>
      advanced_driven job bound

theorem engaged_ready {port : Port Chip} (engaged : Engaged slave port) : Ready slave port := by
  rcases engaged with idle | ⟨job, start, bound, advanced⟩
  · exact fun requests => absurd requests (off_silent idle.enabled)
  · exact advanced_ready advanced

def Served (slave : Slave Chip Pin) (start : Chip) {Reply : Type} (call : Line Pin Reply)
    (answer : Reply) (port : Port Chip) : Prop :=
  Idle port ∧ Taken (line slave) start call answer port.chip

theorem served_stable {Reply : Type} (call : Line Pin Reply) (answer : Reply) :
    Stable (driven slave) (Served slave start call answer) := by
  intro port next holds moved
  obtain ⟨idle, before, after, earlier, answered, later⟩ := holds
  obtain ⟨idle, drifted⟩ := rested_driven port next ⟨idle, .refl⟩ moved
  exact ⟨idle, before, after, earlier, answered, later.trans drifted⟩

def request (txByte destination : Byte) : Request where
  transmit := some [txByte]
  txSize := 1
  receive := some [destination]
  rxSize := 1
  txFits := by
    rintro _ ⟨⟩
    exact Nat.le_refl 1
  rxFits := by
    rintro _ ⟨⟩
    exact Nat.le_refl 1
  valid := .inl ⟨Nat.one_pos, rfl⟩

variable (txByte destination : Byte)

theorem acquire_starts (rounds attempts : Nat) (enough : 2 < rounds) :
    Triple (driven slave) (watched slave) (Rested slave start)
      (acquire rounds txByte destination (attempts + 1))
      fun acquired port => acquired = true ∧
        (request txByte destination).job.Advanced slave start 4 port := by
  rw [acquire]
  apply triple_seq (writeRead_starts (request txByte destination) rounds enough)
  intro accepted
  apply triple_fact
  intro taken
  apply triple_ite
  · intro _
    exact triple_pure (stable_and (stable_fact _) (advanced_driven _ _)) fun _ holds => ⟨rfl, holds⟩
  · intro refused
    exact absurd taken refused

variable (rxByte : Option Byte)

/-- The reply is in the buffer once the transfer is over. -/
theorem ended_serves {port : Port Chip}
    (ended : (request txByte destination).job.Ended slave start port) :
    ∃ reply, port.object.rxBuffer = some [reply] ∧
      Served slave start (.inl (.spiTransfer txByte rxByte)) reply port := by
  obtain ⟨idle, words, exchanged, sent, stored⟩ := ended_delivers ended
  have sent : words.map Prod.fst = [txByte] := sent
  obtain ⟨pair, one, same⟩ := List.map_eq_singleton_iff.mp sent
  subst one
  obtain ⟨byte, reply⟩ := pair
  have same : byte = txByte := same
  subst same
  exact ⟨reply, stored, idle, exchanged_taken rxByte exchanged rfl⟩

theorem reply_reads :
    Triple (driven slave) (watched slave)
      ((request txByte destination).job.Ended slave start) (access (.readRx 0))
      (Served slave start (.inl (.spiTransfer txByte rxByte))) := by
  apply triple_perform (ended_driven _) (served_stable _)
  · intro port ended
    obtain ⟨reply, stored, _⟩ := ended_serves txByte destination rxByte ended
    refine ⟨?_, fun requests => absurd requests (ended_silent ended)⟩
    change 0 < (port.object.rxBuffer.getD []).length
    rw [stored]
    exact Nat.one_pos
  · intro port answer after ended answered
    obtain ⟨reply, stored, serves⟩ := ended_serves txByte destination rxByte ended
    obtain ⟨same, rfl⟩ := answered
    rw [stored] at same
    have same : answer = reply := same reply rfl
    rw [same]
    exact serves

theorem spiTransfer_serves (rounds : Nat) (discard : Byte) (enough : 2 < rounds) :
    Triple (driven slave) (watched slave) (Rested slave start)
      (spiTransfer rounds discard txByte rxByte)
      (Finished (Engaged slave) (Served slave start (.inl (.spiTransfer txByte rxByte)))) := by
  have gives {pre : Port Chip → Prop} (engaged : ∀ port, pre port → Engaged slave port) :
      Triple (driven slave) (watched slave) pre (pure none)
        (Finished (Engaged slave) (Served slave start (.inl (.spiTransfer txByte rxByte)))) :=
    triple_pure engaged_stable engaged
  have busy : Stable (driven slave)
      ((request txByte (rxByte.getD discard)).job.Advanced slave start 4) := advanced_driven _ _
  have rests : Triple (driven slave) (watched slave) (Rested slave start) isBusy
      fun answer port => Rested slave start port ∧ (answer = false → Rested slave start port) :=
    triple_mono isBusy_rests (fun _ holds => holds) fun _ _ holds => ⟨holds.2, fun _ => holds.2⟩
  rw [spiTransfer]
  apply triple_seq (triple_waitWhile rested_driven rested_driven rests rounds)
  intro inTime
  apply triple_ite fun _ => gives fun _ holds => .inl holds.1.1
  intro _
  obtain ⟨attempts, rfl⟩ : ∃ attempts, rounds = attempts + 1 := ⟨rounds - 1, by omega⟩
  apply triple_pre _ fun port holds => holds.1
  apply triple_seq (acquire_starts txByte (rxByte.getD discard) (attempts + 1) attempts enough)
  intro acquired
  apply triple_fact
  intro _
  apply triple_ite fun _ => gives fun _ holds => .inr ⟨_, _, _, holds⟩
  intro _
  apply triple_seq (triple_waitWhile busy (ended_driven _) isBusy_waits (attempts + 1))
  intro inTime
  apply triple_ite fun _ => gives fun _ holds => .inr ⟨_, _, _, holds.1⟩
  intro ends
  apply triple_pre _ fun port holds => holds.2 (by simpa using ends)
  apply triple_seq (reply_reads txByte (rxByte.getD discard) rxByte)
  intro byte
  exact triple_pure (served_stable _ byte) fun _ holds => holds

end Transfer

section Line

theorem pin_serves {Reply : Type} (call : Pin Reply) :
    Triple (board slave) (steady slave) (Rested slave start)
      (do
        let answer ← perform (.inr call)
        return some answer)
      (Finished (Engaged slave) (Served slave start (.inr call))) := by
  have rested : Stable (board slave) (Rested slave start) := rested_driven
  have stable (answer : Reply) :
      Stable (board slave) (Served slave start (.inr call) answer) := served_stable _ answer
  have driven : Triple (board slave) (steady slave) (Rested slave start) (perform (.inr call))
      (Served slave start (.inr call)) := by
    apply triple_perform rested stable
    · exact fun port holds => holds.1
    · intro port answer after holds answered
      obtain ⟨chip, answered, rfl⟩ := answered
      obtain ⟨idle, drifted⟩ := holds
      refine ⟨?_, port.chip, chip, drifted, answered, .refl⟩
      exact ⟨idle.free, idle.last, idle.enabled, idle.shift, idle.data, idle.bounded, idle.settled⟩
  apply triple_seq driven
  intro answer
  exact triple_pure (stable answer) fun _ holds => holds

def Shows (port : Port Chip) (chip : Chip) : Prop := Idle port ∧ port.chip = chip

/-- The driver does for its caller what the slave does for a word. -/
theorem line_realizes (slave : Slave Chip Pin) (rounds : Nat) (discard : Byte)
    (enough : 2 < rounds) :
    Realizes (line slave) unguarded (board slave) (steady slave) (lineBody rounds discard)
      (Engaged slave) Shows where
  waits := engaged_stable
  rests := by
    intro port next chip shown moved
    obtain ⟨idle, rfl⟩ := shown
    obtain ⟨idle, drifted⟩ := rested_driven port next ⟨idle, .refl⟩ moved
    exact ⟨next.chip, drifted, idle, rfl⟩
  takes := by
    intro Reply call port chip _ shown
    obtain ⟨idle, rfl⟩ := shown
    have serves : Secured (board slave) (steady slave) (lineBody rounds discard call)
        (Finished (Engaged slave) (Served slave port.chip call)) port := by
      cases call with
      | inr call => exact pin_serves call port ⟨idle, .refl⟩
      | inl call =>
          cases call with
          | spiTransfer txByte rxByte =>
              apply secured_along
              exact spiTransfer_serves txByte rxByte rounds discard enough port ⟨idle, .refl⟩
    apply secured_mono serves
    intro answer after finished
    cases answer with
    | none => exact finished
    | some value =>
        obtain ⟨idle, taken⟩ := finished
        exact ⟨after.chip, taken, idle, rfl⟩

end Line

end LoraNode.SpiMaster
