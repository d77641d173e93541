import LoraNode.Foundation.LabelledRun
import LoraNode.SpiMachine
import LoraNode.SpiRequest

/-!
# Every transfer is delivered

A request and the polls of its caller, in every interleaving with the handler,
the shift register and the slave. The words arrive once each and in order, and
their replies are in the buffer when the wait is over. After a bounded number of
steps it is over.
-/

namespace LoraNode.SpiMaster

open LoraNode.Foundation LoraNode.Foundation.Bytes LoraNode.Foundation.Program
  LoraNode.Foundation.Interference LoraNode.Foundation.Preemption LoraNode.Foundation.LabelledRun

variable {Chip : Type*} {Pin : Type → Type} {slave : Slave Chip Pin} {start : Chip} {job : Job}

/-- The slave got every word, and the receive buffer holds its replies. -/
structure Job.Delivered (job : Job) (slave : Slave Chip Pin) (start : Chip) (port : Port Chip) :
    Prop where
  idle : Idle port
  exchanged : ∃ words, Exchanged slave start words port.chip ∧ words.map Prod.fst = job.out ∧
    port.object.rxBuffer = job.receive.map fun memory =>
      (words.map Prod.snd).take job.rxSize ++ memory.drop job.rxSize

theorem ended_delivers {port : Port Chip} (ended : job.Ended slave start port) :
    job.Delivered slave start port := by
  obtain ⟨heard, full, holds⟩ := ended
  obtain ⟨words, wired, told⟩ := holds.traffic
  have complete := told.complete trivial
  obtain ⟨shift, data⟩ := wired.settled complete
  have sent : words.map Prod.fst = job.out := wired_complete wired complete
  have object := holds.object
  constructor
  · refine ⟨?_, ?_, holds.enabled, shift, data, wired.bounded, .inr complete⟩
    · rw [object]
      rfl
    · rw [object]
      rfl
  · refine ⟨words, wired.exchanged, sent, ?_⟩
    obtain ⟨more, replies⟩ := told.heard
    have replies : heard ++ more = words.map Prod.snd := replies
    have long : job.rxSize ≤ (heard ++ more).length := by
      rw [List.length_append]
      omega
    rw [object, ← replies]
    change job.stored heard = _
    rw [← job.stored_full full, Job.stored, Nat.min_eq_right long]

def transfer (request : Request) (rounds attempts : Nat) : Driver (Option Bool × Bool) := do
  let accepted ← writeRead rounds request.transmit request.txSize request.receive request.rxSize
  let inTime ← waitWhile isBusy attempts
  return (accepted, inTime)

def Job.Answered (job : Job) (slave : Slave Chip Pin) (start : Chip) (answer : Option Bool × Bool)
    (port : Port Chip) : Prop :=
  answer.1 = Option.some true ∧ (job.Advanced slave start (2 * job.out.length + 2) port ∧
    (answer.2 = true → job.Ended slave start port))

theorem transfer_ends (request : Request) (rounds attempts : Nat) (enough : 2 < rounds) :
    Triple (driven slave) (watched slave) (Rested slave start) (transfer request rounds attempts)
      (request.job.Answered slave start) := by
  have stable : Stable (driven slave)
      (request.job.Advanced slave start (2 * request.job.out.length + 2)) := advanced_driven _ _
  apply triple_seq (writeRead_starts request rounds enough)
  intro accepted
  apply triple_fact
  intro taken
  apply triple_seq (triple_waitWhile stable (ended_driven request.job) isBusy_waits attempts)
  intro inTime
  refine triple_pure (stable_and (stable_fact _) (stable_and stable
    (stable_imp (ended_driven request.job)))) ?_
  intro port holds
  exact ⟨taken, holds⟩

/-- Every access of every interleaving is sound, and a finished wait has delivered. -/
theorem transfer_delivers (slave : Slave Chip Pin) (request : Request) (rounds attempts : Nat)
    (enough : 2 < rounds) (port : Port Chip) (idle : Idle port)
    {reached : Configuration Access Access (Port Chip) (Option Bool × Bool)}
    (moves : Moves (sercom slave) (sercom slave) interruptHandler Port.requests
      ⟨transfer request rounds attempts, none, port⟩ reached) :
    reached.Shown sound sound fun answer after => answer.1 = some true ∧
      (answer.2 = true → request.job.Delivered slave port.chip after) := by
  have rested : Rested slave port.chip port := ⟨idle, .refl⟩
  have secured := transfer_ends request rounds attempts enough port rested
  have shown : reached.Shown (watched slave) sound (request.job.Answered slave port.chip) := by
    apply preempted_always _ _ ready_handled secured moves
    · exact fun _ state guarded => guarded.2
    · exact fun _ state ends => advanced_ready ends.2.1
  apply shown_mono shown
  · exact fun _ state guarded => guarded.1
  · intro answer after ends
    exact ⟨ends.1, fun inTime => ended_delivers (ends.2.2 inTime)⟩

section Loopback

def loopback : Slave Unit fun _ => Empty where
  exchanges _ byte reply _ := reply = byte
  drifts _ _ := False
  drives _ call _ _ := call.elim

def twoWords : Request where
  transmit := some [0x12, 0x34]
  txSize := 2
  receive := some [0, 0]
  rxSize := 2
  txFits := by decide
  rxFits := by decide
  valid := by decide

def unusedPort {Chip : Type*} (chip : Chip) : Port Chip where
  object := ⟨false, none, none, 0, 0, 0, 0, 0, false⟩
  enabled := noInterrupts
  data := none
  shift := none
  unread := []
  txc := false
  chip := chip

theorem unusedPort_idle {Chip : Type*} (chip : Chip) : Idle (unusedPort chip) :=
  ⟨rfl, rfl, rfl, rfl, rfl, Nat.zero_le 2, .inl ⟨rfl, rfl⟩⟩

def promptLoopback : Prompt loopback where
  exchange _ byte := (byte, ())
  drift _ := none
  drive _ call := nomatch call
  exchanges _ _ := rfl
  drifts _ _ moved := nomatch moved
  drives _ call := nomatch call

theorem transfer_delivers_loopback :
    let ran := (transfer twoWords 3 10).simulate (promptly Port.serve promptLoopback.turn 100)
      (unusedPort ())
    Moves (sercom loopback) (sercom loopback) interruptHandler Port.requests
      ⟨transfer twoWords 3 10, none, unusedPort ()⟩ ⟨.done ran.1, none, ran.2⟩ ∧
    ran.1 = (some true, true) ∧ ran.2.object.rxBuffer = some [0x12, 0x34] ∧
    twoWords.job.Delivered loopback () ran.2 := by
  intro ran
  have moves := driver_moves promptLoopback 100 (transfer twoWords 3 10) (unusedPort ())
  have ends : ran.1 = (some true, true) := by decide +kernel
  have shown := transfer_delivers loopback twoWords 3 10 (by decide) (unusedPort ())
    (unusedPort_idle ()) moves
  exact ⟨moves, ends, by decide +kernel, shown.2 (congrArg Prod.snd ends)⟩

end Loopback

/-- The shift register or the handler goes on with the transfer, or the slave moves on
its own. -/
inductive Moved (slave : Slave Chip Pin) : Port Chip → Bool → Port Chip → Prop where
  | drift (port : Port Chip) (chip : Chip) (moved : slave.drifts port.chip chip) :
      Moved slave port false { port with chip := chip }
  | wire (port next : Port Chip) (moved : Hardware slave port next)
      (changes : next.shift ≠ port.shift) : Moved slave port true next
  | handled (port next : Port Chip) (asked : port.requests)
      (ran : Reaches (sercom slave) (interruptHandler, port) (.done (), next)) :
      Moved slave port true next

section Progress

def Port.weight (port : Port Chip) : Nat :=
  2 * port.data.toList.length + port.shift.toList.length

theorem weight_bounded (port : Port Chip) : port.weight ≤ 3 := by
  have data := Option.length_toList_le (o := port.data)
  have shift := Option.length_toList_le (o := port.shift)
  rw [Port.weight]
  omega

theorem wire_lowers {port next : Port Chip} (moved : Hardware slave port next)
    (changes : next.shift ≠ port.shift) : next.weight < port.weight := by
  cases moved with
  | load byte written idle =>
      unfold Port.weight
      rw [written, idle]
      exact Nat.lt_add_one 1
  | shifted byte reply chip loaded exchanged =>
      unfold Port.weight
      rw [loaded]
      exact Nat.lt_add_one _
  | drift => exact absurd rfl changes

/-- So many steps are left at most, four for every run of the handler. -/
def Job.Within (job : Job) (slave : Slave Chip Pin) (start : Chip) (bound : Nat)
    (port : Port Chip) : Prop :=
  ∃ runs, 4 * runs + port.weight ≤ bound ∧ job.Advanced slave start runs port

theorem within_moved {bound : Nat} {port next : Port Chip} {label : Bool}
    (within : job.Within slave start bound port) (moved : Moved slave port label next) :
    [label].count true ≤ bound ∧ job.Within slave start (bound - [label].count true) next := by
  obtain ⟨runs, below, advanced⟩ := within
  cases moved with
  | drift chip moved =>
      have still := job.advanced_stable runs _ _ advanced (Hardware.drift port chip moved)
      exact ⟨Nat.zero_le _, runs, below, still⟩
  | wire _ moved changes =>
      have lower := wire_lowers moved changes
      have still := job.advanced_stable runs _ _ advanced moved
      change 1 ≤ bound ∧ _
      refine ⟨by omega, runs, ?_, still⟩
      change _ ≤ bound - 1
      omega
  | handled _ asked ran =>
      have small := weight_bounded next
      cases runs with
      | zero =>
          rcases advanced with ended | ⟨_, _, _, ⟨_, lower⟩, _⟩
          · exact absurd asked (ended_silent ended)
          · exact absurd lower (Nat.not_lt_zero _)
      | succ runs =>
          have still := secured_done
            (secured_reaches (handler_lowers runs port ⟨asked, advanced⟩) ran)
          change 1 ≤ bound ∧ _
          refine ⟨by omega, runs, ?_, still⟩
          change _ ≤ bound - 1
          omega

theorem run_within {bound : Nat} {begun last : Port Chip} {labels : List Bool}
    (within : job.Within slave start bound begun) (run : Run (Moved slave) begun labels last) :
    labels.count true ≤ bound ∧ job.Within slave start (bound - labels.count true) last :=
  run_budget (fun _ _ _ _ within moved => within_moved within moved) within run

theorem requests_dre {port : Port Chip} (enabled : port.enabled.dre = true)
    (empty : port.data = none) : port.requests := by
  simp [Port.requests, Port.flags, enabled, empty]

theorem requests_txc {port : Port Chip} (enabled : port.enabled.txc = true)
    (complete : port.txc = true) : port.requests := by
  simp [Port.requests, Port.flags, enabled, complete]

theorem requests_rxc {port : Port Chip} (enabled : port.enabled.rxc = true)
    (some : port.unread ≠ []) : port.requests := by
  simp [Port.requests, Port.flags, enabled, some]

/-- With every written word out, the handler is asked for. -/
theorem moving_requests {bound : Nat} {port : Port Chip}
    (moving : job.Moving slave start bound port) (shift : port.shift = none)
    (data : port.data = none) : port.requests := by
  obtain ⟨phase, count, heard, ⟨fits, _⟩, holds⟩ := moving
  obtain ⟨words, wired, told⟩ := holds.traffic
  have positive := job.out_positive
  have length := wired_length wired
  rw [shift, data] at length
  change words.length = (job.out.take count).length at length
  rw [List.length_take] at length
  have waits (replies : port.unread = (words.map Prod.snd).drop heard.length)
      (behind : heard.length < words.length) : port.unread ≠ [] := by
    rw [replies, Ne, List.drop_eq_nil_iff, List.length_map]
    omega
  have complete (whole : count = job.out.length) : port.txc = true := by
    apply wired.signals shift data
    change job.out.take count ≠ []
    rw [job.out_take whole]
    exact List.ne_nil_of_length_pos positive
  cases phase with
  | paced =>
      obtain ⟨next, inside⟩ := fits
      apply requests_rxc
      · rw [holds.enabled]
        rfl
      · exact waits (told.tracked rfl) (by omega)
  | streamed =>
      apply requests_dre
      · rw [holds.enabled]
        rfl
      · exact data
  | closing listening =>
      have whole : count = job.out.length := by
        cases listening with
        | true => exact fits.1
        | false => exact fits.1
      apply requests_txc
      · rw [holds.enabled]
        rfl
      · exact complete whole

/-- As long as the transfer is not over something can move. -/
theorem advanced_moves (total : ∀ chip byte, ∃ reply next, slave.exchanges chip byte reply next)
    {bound : Nat} {port : Port Chip} (advanced : job.Advanced slave start bound port) :
    job.Ended slave start port ∨ ∃ next, Moved slave port true next := by
  rcases advanced with ended | moving
  · exact .inl ended
  · right
    cases shift : port.shift with
    | some byte =>
        obtain ⟨reply, chip, exchanged⟩ := total port.chip byte
        refine ⟨_, .wire port _ (.shifted port byte reply chip shift exchanged) ?_⟩
        rw [shift]
        exact nofun
    | none =>
        cases data : port.data with
        | some byte =>
            refine ⟨_, .wire port _ (.load port byte data shift) ?_⟩
            rw [shift]
            exact nofun
        | none =>
            have asked := moving_requests moving shift data
            exact ⟨_, .handled port _ asked (handler_serves port)⟩

end Progress

/-- A bounded number of steps ends every accepted transfer, unless the rest of the
machine stands still. -/
theorem transfer_completes (slave : Slave Chip Pin)
    (total : ∀ chip byte, ∃ reply next, slave.exchanges chip byte reply next)
    (request : Request) (rounds : Nat) (enough : 2 < rounds) (port begun last : Port Chip)
    (idle : Idle port) (answer : Option Bool)
    (returned : Reaches (driven slave) (writeRead rounds request.transmit request.txSize
      request.receive request.rxSize, port) (.done answer, begun))
    {labels : List Bool} (run : Run (Moved slave) begun labels last) :
    labels.count true ≤ 8 * request.job.out.length + 11 ∧
      (request.job.Delivered slave port.chip last ∨ ∃ next, Moved slave last true next) := by
  have rested : Rested slave port.chip port := ⟨idle, .refl⟩
  have started := writeRead_starts request rounds enough port rested
  obtain ⟨_, advanced⟩ := secured_done (secured_reaches started returned)
  have small := weight_bounded begun
  have within : request.job.Within slave port.chip (8 * request.job.out.length + 11) begun :=
    ⟨_, by omega, advanced⟩
  obtain ⟨few, runs, _, still⟩ := run_within within run
  refine ⟨few, ?_⟩
  rcases advanced_moves total still with ended | moves
  · exact .inl (ended_delivers ended)
  · exact .inr moves

section Machine

variable (prompt : Prompt slave)

theorem turn_moved (port next : Port Chip) (turned : prompt.turn port = some next) :
    ∃ label, Moved slave port label next := by
  rcases turn_interferes prompt port next turned with moved | ⟨asked, ran⟩
  · cases moved with
    | load byte written idle =>
        have changes : some byte ≠ port.shift := by simp [idle]
        exact ⟨true, .wire port _ (.load port byte written idle) changes⟩
    | shifted byte reply chip loaded exchanged =>
        have changes : none ≠ port.shift := by simp [loaded]
        exact ⟨true, .wire port _ (.shifted port byte reply chip loaded exchanged) changes⟩
    | drift chip moved => exact ⟨false, .drift port chip moved⟩
  · exact ⟨true, .handled port next asked ran⟩

/-- With no turn left, neither the shift register nor the handler goes on. -/
theorem settled_stays {port : Port Chip} (settled : prompt.turn port = none) :
    ¬∃ next, Moved slave port true next := by
  rw [Prompt.turn] at settled
  by_cases asked : port.requests
  · rw [if_pos asked] at settled
    cases settled
  · rw [if_neg asked] at settled
    rintro ⟨next, moved⟩
    cases moved with
    | handled _ requested ran => exact asked requested
    | wire _ moved changes =>
        cases moved with
        | load byte written idle => simp [written, idle] at settled
        | shifted byte reply chip loaded exchanged => simp [loaded] at settled
        | drift chip moved => exact changes rfl

end Machine

theorem transfer_completes_loopback :
    let begun := ((writeRead 3 twoWords.transmit twoWords.txSize twoWords.receive
      twoWords.rxSize).simulate Port.serve (unusedPort ())).2
    let last := settle promptLoopback.turn 100 begun
    ∃ labels, Run (Moved loopback) begun labels last ∧
      labels.count true ≤ 8 * twoWords.job.out.length + 11 ∧
        twoWords.job.Delivered loopback () last := by
  intro begun last
  obtain ⟨labels, run⟩ := settle_runs (turn_moved promptLoopback) 100 begun
  have returned : Reaches (driven loopback) (writeRead 3 twoWords.transmit twoWords.txSize
      twoWords.receive twoWords.rxSize, unusedPort ()) (.done _, begun) :=
    reaches_simulated (fun port call => ⟨port, .refl, serve_answers port call⟩) _ _
  obtain ⟨few, delivered⟩ := transfer_completes loopback (fun _ byte => ⟨byte, (), rfl⟩) twoWords 3
    (by decide) (unusedPort ()) begun last (unusedPort_idle ()) _ returned run
  have settled : (promptLoopback.turn last).isNone := by decide +kernel
  refine ⟨labels, run, few, delivered.resolve_right ?_⟩
  exact settled_stays promptLoopback (Option.isNone_iff_eq_none.mp settled)

end LoraNode.SpiMaster
