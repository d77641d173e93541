import LoraNode.SpiTransfer

/-!
# The task side of a transfer

`SERCOM1_SPI_WriteRead` sets a transfer up while no interrupt is enabled, so the
handler cannot come in before it is complete. From then on `SERCOM1_SPI_IsBusy`
answers false only once every word is out and every reply is in the buffer.
-/

namespace LoraNode.SpiMaster

open LoraNode.Foundation LoraNode.Foundation.Bytes LoraNode.Foundation.Program
  LoraNode.Foundation.Interference LoraNode.Foundation.Preemption

variable {Chip : Type*} {Pin : Type → Type} {slave : Slave Chip Pin} {start : Chip}

/-- The driver called by the task: the handler comes in between two accesses. -/
abbrev driven (slave : Slave Chip Pin) : Setting Access (Port Chip) :=
  preempted (sercom slave) (sercom slave) interruptHandler Port.requests

def Ready (slave : Slave Chip Pin) (port : Port Chip) : Prop :=
  port.requests → ∃ (job : Job) (start : Chip) (bound : Nat), job.Advanced slave start bound port

def watched (slave : Slave Chip Pin) : Guard Access (Port Chip) :=
  fun call port => sound call port ∧ Ready slave port

theorem ready_handled : Triple (sercom slave) sound
    (fun port => port.requests ∧ Ready slave port) interruptHandler fun _ _ => True := by
  intro port holds
  obtain ⟨requests, ready⟩ := holds
  obtain ⟨job, start, bound, advanced⟩ := ready requests
  have longer := Job.advanced_mono (Nat.le_succ bound) advanced
  exact secured_mono (handler_lowers bound port ⟨requests, longer⟩) fun _ _ _ => trivial

section Quiet

def Silent {Reply : Type} : Access Reply → Prop
  | .setIntenset _ => False
  | _ => True

theorem off_silent {port : Port Chip} (off : port.enabled = noInterrupts) : ¬port.requests := by
  intro requests
  rcases requests_cases requests with set | set | set
  · rw [off] at set
    cases set.1
  · rw [off] at set
    cases set.1
  · rw [off] at set
    cases set.1

theorem off_kept {Result : Type} (program : Driver Result) (silent : program.Only Silent) :
    Triple (sercom slave) (fun _ port => ¬port.requests)
      (fun port => port.enabled = noInterrupts) program
      fun _ port => port.enabled = noInterrupts := by
  apply triple_only _ _ _ silent
  · intro port next off moved
    cases moved with
    | load => exact off
    | shifted => exact off
    | drift => exact off
  · exact fun _ port _ off => off_silent off
  · intro Reply call port answer after allowed off answered
    cases call with
    | object => rw [answered.2]; exact off
    | store change => rw [answered]; exact off
    | readTx index => rw [answered.2]; exact off
    | readRx index => rw [answered.2]; exact off
    | writeRx index value => rw [answered]; exact off
    | intenset => rw [answered.2]; exact off
    | setIntenset mask => exact allowed.elim
    | setIntenclr mask =>
        rw [answered]
        change port.enabled.disable mask = noInterrupts
        rw [off]
        rfl
    | intflag => rw [answered.2]; exact off
    | setIntflag mask => rw [answered]; exact off
    | readData => rw [answered.2]; exact off
    | writeData value => rw [answered]; exact off

/-- With every interrupt off the handler stays out. -/
theorem quiet_driven {Result : Type} {view : View} {program : Driver Result}
    {post : Result → Port Chip → Prop} (off : view.enabled = noInterrupts)
    (silent : program.Only Silent)
    (triple : Triple (sercom slave) sound (At slave start view) program post) :
    Triple (driven slave) (watched slave) (At slave start view) program post := by
  apply triple_calm
  intro port holds
  have kept : Secured (sercom slave) (fun _ after => ¬after.requests) program
      (fun _ after => after.enabled = noInterrupts) port :=
    off_kept program silent port (holds.enabled.trans off)
  have both := secured_and (triple port holds) kept
  apply secured_guarded (secured_mono both fun _ after ends => ⟨ends.1, off_silent ends.2⟩)
  intro Reply call after guarded
  exact ⟨⟨guarded.1, fun asked => absurd asked guarded.2⟩, guarded.2⟩

def quiet (object : SpiObject) (tracked : Prop) : View where
  object := object
  enabled := noInterrupts
  sent := []
  heard := []
  tracked := tracked
  unread := False
  empty := True
  complete := False

/-- Nothing has been written, so DATA is empty. -/
theorem at_quiet {view : View} {port : Port Chip} (holds : At slave start view port)
    (sent : view.sent = []) (heard : view.heard = []) (off : view.enabled = noInterrupts)
    {tracked : Prop} (tracks : tracked → view.tracked) :
    At slave start (quiet view.object tracked) port := by
  obtain ⟨words, wired, told⟩ := holds.traffic
  rw [sent] at wired
  refine ⟨holds.object, holds.enabled.trans off, words, wired, ?_⟩
  refine ⟨List.nil_prefix, fun _ => Nat.zero_le _, ?_, nofun, fun _ => ?_, nofun⟩
  · intro given
    have known := told.tracked (tracks given)
    rw [heard] at known
    exact known
  · exact (wired_empty wired (Nat.zero_le _)).2

def accepted (transmit receive : Option (List Byte)) (txSize rxSize : Nat) (object : SpiObject) :
    SpiObject where
  transferIsBusy := true
  txBuffer := transmit
  rxBuffer := receive
  txSize := if transmit.isSome then txSize else 0
  rxSize := if receive.isSome then rxSize else 0
  dummySize := 0
  rxCount := 0
  txCount := 0
  isLastByteTransferInProgress := object.isLastByteTransferInProgress

theorem accept_accepts (object : SpiObject) (transmit receive : Option (List Byte))
    (txSize rxSize : Nat) :
    Triple (sercom slave) sound (At slave start (quiet object False))
      (accept transmit receive txSize rxSize)
      fun _ => At slave start (quiet (accepted transmit receive txSize rxSize object) False) := by
  rw [accept]
  apply triple_seq (store_stores _)
  intro _
  apply triple_seq (store_stores _)
  intro _
  apply triple_seq (store_stores _)
  intro _
  apply triple_seq (store_stores _)
  intro _
  apply triple_seq (store_stores _)
  intro _
  apply triple_seq (store_stores _)
  intro _
  apply triple_seq (store_stores _)
  intro _
  exact store_stores _

def Waiting (slave : Slave Chip Pin) (start : Chip) (object : SpiObject) (most : Nat)
    (port : Port Chip) : Prop :=
  At slave start (quiet object False) port ∧ port.unread.length ≤ most

theorem quiet_empty {view : View} {port : Port Chip} (holds : At slave start view port)
    (sent : view.sent = []) : port.shift = none ∧ port.data = none ∧
      ∀ words, Wired slave start view.sent words port → words = [] := by
  obtain ⟨words, wired, told⟩ := holds.traffic
  rw [sent] at wired
  obtain ⟨shift, data⟩ := wired_empty wired (Nat.zero_le words.length)
  refine ⟨shift, data, ?_⟩
  intro others wired
  have length := wired_length wired
  rw [sent] at length
  change _ = 0 at length
  exact List.length_eq_zero_iff.mp (by omega)

theorem waiting_stable (object : SpiObject) (most : Nat) :
    Stable (sercom slave) (Waiting slave start object most) := by
  intro port next holds moved
  refine ⟨at_stable _ port next holds.1 moved, ?_⟩
  have bounded := holds.2
  cases moved with
  | load => exact bounded
  | shifted byte reply chip loaded exchanged =>
      rw [(quiet_empty holds.1 rfl).1] at loaded
      cases loaded
  | drift => exact bounded

theorem unread_stable (object : SpiObject) (most : Nat) :
    Stable (sercom slave) fun port =>
      Waiting slave start object most port ∧ port.unread ≠ [] := by
  apply stable_and (waiting_stable object most)
  intro port next some moved
  cases moved with
  | load => exact some
  | shifted byte reply chip loaded exchanged =>
      change (if port.unread.length < 2 then port.unread ++ [reply] else port.unread) ≠ []
      split_ifs
      · exact List.append_ne_nil_of_left_ne_nil some [reply]
      · exact some
  | drift => exact some

theorem data_flushes (object : SpiObject) (most : Nat) :
    Triple (sercom slave) sound
      (fun port => Waiting slave start object most port ∧ port.unread ≠ []) (access .readData)
      fun _ port => 0 < most ∧ Waiting slave start object (most - 1) port := by
  apply triple_perform (unread_stable object most)
  · exact fun _ => stable_and (stable_fact _) (waiting_stable object _)
  · exact fun port holds => holds.2
  · intro port _ after holds answered
    obtain ⟨⟨holds, bounded⟩, some⟩ := holds
    obtain ⟨_, rfl⟩ := answered
    have positive := List.length_pos_iff.mpr some
    have shorter : port.unread.tail.length ≤ most - 1 := by
      rw [List.length_tail]
      omega
    obtain ⟨words, wired, told⟩ := holds.traffic
    have fewer : port.unread.tail.length ≤ 2 := by
      have bounded := wired.bounded
      rw [List.length_tail]
      omega
    refine ⟨by omega, ⟨holds.object, holds.enabled, words, ?_, ?_⟩, shorter⟩
    · exact ⟨wired.exchanged, wired.order, wired.settled, wired.signals, fewer⟩
    · exact ⟨told.heard, nofun, nofun, nofun, told.empty, nofun⟩

/-- With the shift register empty, a receive buffer seen empty stays so. -/
theorem intflag_quiet (object : SpiObject) (most : Nat) :
    Triple (sercom slave) sound (Waiting slave start object most) (access .intflag)
      fun flags port => if flags.rxc then Waiting slave start object most port ∧ port.unread ≠ []
        else At slave start (quiet object True) port := by
  apply triple_perform (waiting_stable object most)
  · intro flags
    cases flags.rxc with
    | false => exact at_stable _
    | true => exact unread_stable object most
  · exact fun _ _ => trivial
  · intro port flags after holds answered
    obtain ⟨rfl, rfl⟩ := answered
    change if (!after.unread.isEmpty) = true then _ else _
    cases unread : after.unread with
    | cons first rest => exact ⟨holds, fun none => nomatch none⟩
    | nil =>
        obtain ⟨words, wired, told⟩ := holds.1.traffic
        have nothing := (quiet_empty holds.1 rfl).2.2 words wired
        refine ⟨holds.1.object, holds.1.enabled, words, wired, ?_⟩
        refine ⟨told.heard, fun _ => Nat.zero_le _, fun _ => ?_, nofun, told.empty, nofun⟩
        rw [nothing, unread]
        rfl

/-- The receive buffer is empty after as many rounds as it holds words. -/
theorem flush_empties (object : SpiObject) (most rounds : Nat) (enough : most < rounds) :
    Triple (sercom slave) sound (Waiting slave start object most) (flush rounds)
      fun inTime port => inTime = true ∧ At slave start (quiet object True) port := by
  induction rounds generalizing most with
  | zero => omega
  | succ rounds induction =>
      have looks : Triple (sercom slave) sound (Waiting slave start object most)
          (do
            let flags ← access .intflag
            if flags.rxc then
              let _ ← access .readData
              return true
            else return false)
          fun more port => if more then 0 < most ∧ Waiting slave start object (most - 1) port
            else At slave start (quiet object True) port := by
        apply triple_seq (intflag_quiet object most)
        intro flags
        cases set : flags.rxc with
        | false => exact triple_pure (at_stable _) fun _ holds => holds
        | true =>
            apply triple_seq (data_flushes object most)
            intro _
            exact triple_pure (stable_and (stable_fact _) (waiting_stable _ _))
              fun _ holds => holds
      apply triple_seq looks
      intro more
      cases more with
      | true =>
          apply triple_fact
          intro positive
          exact induction (most - 1) (by omega)
      | false =>
          exact triple_pure (stable_and (stable_fact _) (at_stable _))
            fun _ holds => ⟨rfl, holds⟩

theorem clearErrors_clears (object : SpiObject) :
    Triple (sercom slave) sound (At slave start (quiet object True)) clearErrors
      fun _ => At slave start (quiet object True) := by
  rw [clearErrors]
  apply triple_seq intflag_reads
  intro flags
  apply triple_fact
  intro _
  apply triple_perform (at_stable _) (fun _ => at_stable _) fun _ _ => trivial
  intro port _ after holds answered
  subst answered
  have still := at_quiet holds rfl rfl rfl (fun given : True => given)
  obtain ⟨words, wired, told⟩ := still.traffic
  refine ⟨still.object, still.enabled, words, ?_, ?_⟩
  · refine ⟨wired.exchanged, wired.order, ?_, fun _ _ some => absurd rfl some, wired.bounded⟩
    obtain ⟨shift, data, _⟩ := quiet_empty still rfl
    exact fun _ => ⟨shift, data⟩
  · exact ⟨told.heard, told.paced, told.tracked, nofun, told.empty, nofun⟩

end Quiet

/-- The arguments of `SERCOM1_SPI_WriteRead`, with the sizes that the buffers have. -/
structure Request where
  transmit : Option (List Byte)
  txSize : Nat
  receive : Option (List Byte)
  rxSize : Nat
  txFits : ∀ bytes ∈ transmit, txSize ≤ bytes.length
  rxFits : ∀ memory ∈ receive, rxSize ≤ memory.length
  valid : 0 < txSize ∧ transmit.isSome ∨ 0 < rxSize ∧ receive.isSome

/-- A size without a buffer counts as nothing. -/
def Request.job (request : Request) : Job where
  transmit := request.transmit
  receive := request.receive
  txSize := if request.transmit.isSome then request.txSize else 0
  rxSize := if request.receive.isSome then request.rxSize else 0
  txFits := by
    cases buffer : request.transmit with
    | none => exact Nat.le_refl _
    | some bytes => exact request.txFits bytes buffer
  rxFits := by
    cases buffer : request.receive with
    | none => exact Nat.le_refl _
    | some memory => exact request.rxFits memory buffer
  some := by
    rcases request.valid with ⟨positive, present⟩ | ⟨positive, present⟩
    · rw [if_pos present]
      exact .inl positive
    · rw [if_pos present]
      exact .inr positive

section Start

variable {job : Job}

theorem sizeDummies_sizes (object : SpiObject)
    (same : object = { job.object 0 0 0 [] false with dummySize := 0 }) :
    Triple (sercom slave) sound (At slave start (quiet object True)) (sizeDummies job.txSize)
      fun _ => At slave start (quiet (job.object 0 0 0 [] false) True) := by
  rw [sizeDummies]
  apply triple_seq object_reads
  intro read
  apply triple_fact
  intro known
  rw [known]
  change Triple _ _ _ (if object.rxSize > job.txSize then _ else _) _
  rw [same]
  apply triple_ite
  · intro more
    apply triple_seq object_reads
    intro again
    apply triple_fact
    intro known
    rw [known]
    apply triple_mono (store_stores _) fun _ holds => holds
    intro _ port holds
    have whole : job.rxSize - job.txSize - (0 - job.txSize) = job.rxSize - job.txSize := by omega
    rw [Job.object, whole]
    exact holds
  · intro less
    change ¬job.rxSize > job.txSize at less
    have none : job.rxSize - job.txSize - (0 - job.txSize) = 0 := by omega
    rw [Job.object, none]
    exact triple_pure (at_stable _) fun _ holds => holds

def Job.first (job : Job) : View :=
  { quiet (job.object 0 (min 1 job.txSize) 1 [] false) True with
    sent := job.out.take 1, empty := False }

theorem writeFirst_writes (object : SpiObject)
    (same : object = { job.object 0 0 0 [] false with dummySize := 0 }) :
    Triple (sercom slave) sound (At slave start (quiet object True)) writeFirst
      fun _ => At slave start job.first := by
  have positive := job.out_positive
  have length := job.out_length
  rw [writeFirst]
  apply triple_seq object_reads
  intro read
  apply triple_fact
  intro known
  have size : read.txSize = job.txSize := by
    rw [known]
    change object.txSize = _
    rw [same]
    rfl
  rw [size]
  apply triple_seq (sizeDummies_sizes object same)
  intro _
  apply triple_seq object_reads
  intro again
  apply triple_fact
  intro known
  rw [known]
  apply triple_ite
  · intro sends
    change 0 < job.txSize at sends
    have found : job.out[0]? = some job.out[0] := List.getElem?_eq_getElem positive
    have one : min 1 job.txSize = 1 := by omega
    apply triple_seq (buffer_reads ((job.out_transmit sends).trans found))
    intro byte
    apply triple_fact
    intro first
    rw [first]
    apply triple_seq (data_writes _ trivial fun _ => Nat.zero_le _)
    intro _
    apply triple_mono (store_stores _) fun _ holds => holds
    intro _ port holds
    apply at_weaken holds
    refine ⟨?_, rfl, ?_, List.prefix_rfl, fun given => ⟨given, rfl⟩, id, id, id⟩
    · change job.object 0 (min 1 job.txSize) 1 [] false =
        { job.object 0 0 0 [] false with txCount := 0 + 1 }
      have dummies : job.rxSize - job.txSize - (1 - job.txSize) =
          job.rxSize - job.txSize - (0 - job.txSize) := by omega
      rw [one, Job.object, Job.object, dummies]
    · change job.out.take 1 = [] ++ [job.out[0]]
      rw [List.take_one, List.head?_eq_getElem?, found]
      rfl
  · intro silent
    change ¬0 < job.txSize at silent
    have none : min 1 job.txSize = 0 := by omega
    apply triple_seq object_reads
    intro third
    apply triple_fact
    intro known
    rw [known]
    apply triple_ite
    · intro dummies
      have found : job.out[0]? = some dummyWord := job.out_dummy (by omega) positive
      apply triple_seq (data_writes _ trivial fun _ => Nat.zero_le _)
      intro _
      apply triple_mono (store_stores _) fun _ holds => holds
      intro _ port holds
      apply at_weaken holds
      refine ⟨?_, rfl, ?_, List.prefix_rfl, fun given => ⟨given, rfl⟩, id, id, id⟩
      · change job.object 0 (min 1 job.txSize) 1 [] false =
          { job.object 0 0 0 [] false with
            dummySize := job.rxSize - job.txSize - (0 - job.txSize) - 1 }
        have left : job.rxSize - job.txSize - (1 - job.txSize) =
            job.rxSize - job.txSize - (0 - job.txSize) - 1 := by omega
        rw [none, Job.object, Job.object, left]
      · change job.out.take 1 = [] ++ [dummyWord]
        rw [List.take_one, List.head?_eq_getElem?, found]
        rfl
    · intro nothing
      change ¬job.rxSize - job.txSize - (0 - job.txSize) > 0 at nothing
      omega

/-- Interrupts that are off stay off, so the handler keeps the view. -/
theorem at_driven {view : View} (off : view.enabled = noInterrupts) :
    Stable (driven slave) (At slave start view) := by
  have handled : Triple (sercom slave) sound
      (fun port => port.requests ∧ At slave start view port) interruptHandler
      fun _ => At slave start view := by
    intro port holds
    exact absurd holds.1 (off_silent (holds.2.enabled.trans off))
  exact stable_preempted (at_stable view) handled

theorem advanced_driven (job : Job) (bound : Nat) :
    Stable (driven slave) (job.Advanced slave start bound) := by
  have handled : Triple (sercom slave) sound
      (fun port => port.requests ∧ job.Advanced slave start bound port) interruptHandler
      fun _ => job.Advanced slave start bound := by
    intro port holds
    exact handler_lowers bound port ⟨holds.1, Job.advanced_mono (Nat.le_succ bound) holds.2⟩
  exact stable_preempted (job.advanced_stable bound) handled

theorem ended_driven (job : Job) : Stable (driven slave) (job.Ended slave start) := by
  have handled : Triple (sercom slave) sound
      (fun port => port.requests ∧ job.Ended slave start port) interruptHandler
      fun _ => job.Ended slave start := by
    intro port holds
    exact absurd holds.1 (ended_silent holds.2)
  have stable : Stable (sercom slave) (job.Ended slave start) :=
    stable_exists fun heard => stable_and (stable_fact _) (at_stable _)
  exact stable_preempted stable handled

end Start

structure Idle (port : Port Chip) : Prop where
  free : port.object.transferIsBusy = false
  last : port.object.isLastByteTransferInProgress = false
  enabled : port.enabled = noInterrupts
  shift : port.shift = none
  data : port.data = none
  bounded : port.unread.length ≤ 2
  settled : port.object.rxSize = 0 ∧ port.object.txSize = 0 ∨ port.txc = true

def Rested (slave : Slave Chip Pin) (start : Chip) (port : Port Chip) : Prop :=
  Idle port ∧ Relation.ReflTransGen slave.drifts start port.chip

section Rested

theorem exchanged_drifts {chip : Chip} (moved : Relation.ReflTransGen slave.drifts start chip) :
    Exchanged slave start [] chip := by
  induction moved with
  | refl => exact .nothing
  | tail _ step induction => exact .drift _ _ _ induction step

theorem rested_quiet {port : Port Chip} (rested : Rested slave start port) :
    Waiting slave start port.object 2 port := by
  obtain ⟨idle, moved⟩ := rested
  refine ⟨⟨rfl, idle.enabled, [], ?_, ?_⟩, idle.bounded⟩
  · refine ⟨exchanged_drifts moved, ?_, fun _ => ⟨idle.shift, idle.data⟩,
      fun _ _ some => absurd rfl some, idle.bounded⟩
    rw [idle.shift, idle.data]
    rfl
  · exact ⟨List.nil_prefix, nofun, nofun, nofun, fun _ => idle.data, nofun⟩

theorem rested_stable : Stable (sercom slave) (Rested slave start) := by
  intro port next holds moved
  obtain ⟨idle, drifted⟩ := holds
  cases moved with
  | load byte written _ =>
      rw [idle.data] at written
      cases written
  | shifted byte reply chip loaded _ =>
      rw [idle.shift] at loaded
      cases loaded
  | drift chip moved =>
      exact ⟨⟨idle.free, idle.last, idle.enabled, idle.shift, idle.data, idle.bounded,
        idle.settled⟩, drifted.tail moved⟩

theorem rested_driven : Stable (driven slave) (Rested slave start) := by
  have handled : Triple (sercom slave) sound
      (fun port => port.requests ∧ Rested slave start port) interruptHandler
      fun _ => Rested slave start := by
    intro port holds
    exact absurd holds.1 (off_silent holds.2.1.enabled)
  exact stable_preempted rested_stable handled

theorem rested_ready {port : Port Chip} (rested : Rested slave start port) : Ready slave port :=
  fun requests => absurd requests (off_silent rested.1.enabled)

end Rested

section WriteRead

theorem accept_silent (transmit receive : Option (List Byte)) (txSize rxSize : Nat) :
    (accept transmit receive txSize rxSize).Only Silent := by
  rw [accept]
  apply only_bind (only_perform trivial)
  intro _
  apply only_bind (only_perform trivial)
  intro _
  apply only_bind (only_perform trivial)
  intro _
  apply only_bind (only_perform trivial)
  intro _
  apply only_bind (only_perform trivial)
  intro _
  apply only_bind (only_perform trivial)
  intro _
  apply only_bind (only_perform trivial)
  intro _
  exact only_perform trivial

theorem flush_silent (rounds : Nat) : (flush rounds).Only Silent := by
  apply only_waitWhile
  apply only_bind (only_perform trivial)
  intro flags
  apply only_ite
  · exact only_bind (only_perform trivial) fun _ => only_pure true
  · exact only_pure false

theorem clearErrors_silent : clearErrors.Only Silent :=
  only_bind (only_perform trivial) fun _ => only_perform trivial

theorem sizeDummies_silent (txSz : Nat) : (sizeDummies txSz).Only Silent := by
  apply only_bind (only_perform trivial)
  intro object
  apply only_ite
  · exact only_bind (only_perform trivial) fun _ => only_perform trivial
  · exact only_pure ()

theorem writeFirst_silent : writeFirst.Only Silent := by
  apply only_bind (only_perform trivial)
  intro object
  apply only_bind (sizeDummies_silent _)
  intro _
  apply only_bind (only_perform trivial)
  intro object
  apply only_ite
  · apply only_bind (only_perform trivial)
    intro byte
    exact only_bind (only_perform trivial) fun _ => only_perform trivial
  · apply only_bind (only_perform trivial)
    intro object
    apply only_ite
    · exact only_bind (only_perform trivial) fun _ => only_perform trivial
    · exact only_pure ()

theorem accepted_object (request : Request) (object : SpiObject)
    (last : object.isLastByteTransferInProgress = false) :
    accepted request.transmit request.receive request.txSize request.rxSize object =
      { request.job.object 0 0 0 [] false with dummySize := 0 } := by
  rw [accepted, Job.object, Job.stored_nothing, last]
  rfl

/-- The first word is on its way, and the handler does the rest. -/
theorem interrupts_start (job : Job) (mask : Interrupts)
    (begins : mask = receiveComplete ∨ mask = dataRegisterEmpty ∧ job.rxSize = 0) :
    Triple (driven slave) (watched slave) (At slave start job.first) (access (.setIntenset mask))
      fun _ => job.Advanced slave start (2 * job.out.length + 2) := by
  have positive := job.out_positive
  apply triple_perform (at_driven rfl) fun _ => advanced_driven job _
  · intro port holds
    exact ⟨trivial, fun requests => absurd requests (off_silent holds.enabled)⟩
  · intro port _ after holds answered
    subst answered
    obtain ⟨words, wired, told⟩ := holds.traffic
    have enabled := holds.enabled
    have object :
        job.first.object = job.object (min 0 job.rxSize) (min 1 job.txSize) 1 [] false := by
      rw [Nat.zero_min]
      rfl
    have still : Wired slave start (job.out.take 1) words
        { port with enabled := port.enabled.enable mask } :=
      ⟨wired.exchanged, wired.order, wired.settled, wired.signals, wired.bounded⟩
    right
    rcases begins with rfl | ⟨rfl, none⟩
    · refine ⟨.paced, 1, [], ⟨⟨rfl, positive⟩, ?_⟩, holds.object.trans object, ?_, words, still, ?_⟩
      · change 2 * (job.out.length - 1) + 3 < 2 * job.out.length + 2
        omega
      · change port.enabled.enable receiveComplete = receiveComplete
        rw [enabled]
        rfl
      · exact ⟨told.heard, fun _ => told.paced trivial, fun _ => told.tracked trivial, nofun, nofun,
          nofun⟩
    · refine ⟨.streamed, 1, [], ⟨⟨none.symm, positive⟩, ?_⟩, holds.object.trans object, ?_, words,
        still, ?_⟩
      · change 2 * (job.out.length - 1) + 2 < 2 * job.out.length + 2
        omega
      · change port.enabled.enable dataRegisterEmpty = dataRegisterEmpty
        rw [enabled]
        rfl
      · exact ⟨told.heard, nofun, nofun, nofun, nofun, nofun⟩

theorem object_free :
    Triple (driven slave) (watched slave) (Rested slave start) (access .object)
      fun object port => object.transferIsBusy = false ∧ Rested slave start port := by
  apply triple_perform rested_driven
  · exact fun _ => stable_and (stable_fact _) rested_driven
  · exact fun port holds => ⟨trivial, rested_ready holds⟩
  · intro port object after holds answered
    obtain ⟨rfl, rfl⟩ := answered
    exact ⟨holds.1.free, holds⟩

theorem rested_at {port : Port Chip} (rested : Rested slave start port) :
    ∃ object, object.isLastByteTransferInProgress = false ∧
      At slave start (quiet object False) port :=
  ⟨port.object, rested.1.last, (rested_quiet rested).1⟩

/-- An idle driver accepts every valid request. -/
theorem writeRead_starts (request : Request) (rounds : Nat) (enough : 2 < rounds) :
    Triple (driven slave) (watched slave) (Rested slave start)
      (writeRead rounds request.transmit request.txSize request.receive request.rxSize)
      fun answer port => answer = some true ∧
        request.job.Advanced slave start (2 * request.job.out.length + 2) port := by
  rw [writeRead]
  apply triple_seq object_free
  intro object
  apply triple_fact
  intro free
  rw [free]
  apply triple_ite nofun
  intro _
  apply triple_ite
  · intro invalid
    exact absurd request.valid invalid
  intro _
  apply triple_pre _ fun port holds => rested_at holds
  apply triple_exists
  intro object
  apply triple_fact
  intro last
  apply triple_seq (quiet_driven rfl (accept_silent _ _ _ _) (accept_accepts object _ _ _ _))
  intro _
  have waits (port : Port Chip) (holds : At slave start (quiet (accepted request.transmit
      request.receive request.txSize request.rxSize object) False) port) :
      Waiting slave start (accepted request.transmit request.receive request.txSize
        request.rxSize object) 2 port := by
    obtain ⟨words, wired, told⟩ := holds.traffic
    exact ⟨holds, wired.bounded⟩
  apply triple_seq (quiet_driven rfl (flush_silent rounds)
    (triple_pre (flush_empties _ 2 rounds enough) waits))
  intro inTime
  apply triple_fact
  intro empties
  rw [empties]
  apply triple_ite nofun
  intro _
  apply triple_seq (quiet_driven rfl clearErrors_silent (clearErrors_clears _))
  intro _
  apply triple_seq (quiet_driven rfl writeFirst_silent
    (writeFirst_writes _ (accepted_object request object last)))
  intro _
  have starts (mask : Interrupts)
      (begins : mask = receiveComplete ∨ mask = dataRegisterEmpty ∧ request.job.rxSize = 0) :
      Triple (driven slave) (watched slave) (At slave start request.job.first)
        (do
          access (.setIntenset mask)
          return some true)
        fun answer port => answer = some true ∧
          request.job.Advanced slave start (2 * request.job.out.length + 2) port := by
    apply triple_seq (interrupts_start request.job mask begins)
    intro _
    refine triple_pure (stable_and (stable_fact _) (advanced_driven _ _)) ?_
    intro port holds
    exact ⟨rfl, holds⟩
  apply triple_ite
  · intro _
    exact starts receiveComplete (.inl rfl)
  · intro none
    have nothing : request.rxSize = 0 := Nat.eq_zero_of_not_pos none
    apply starts dataRegisterEmpty
    right
    refine ⟨rfl, ?_⟩
    change (if request.receive.isSome then request.rxSize else 0) = 0
    rw [nothing, ite_self]

end WriteRead

section IsBusy

variable {job : Job} {bound : Nat}

def Resting (slave : Slave Chip Pin) (start : Chip) (object : SpiObject)
    (port : Port Chip) : Prop :=
  Rested slave start port ∧ port.object = object

theorem resting_driven (object : SpiObject) :
    Stable (driven slave) (Resting slave start object) := by
  have stable : Stable (sercom slave) (Resting slave start object) := by
    intro port next holds moved
    refine ⟨rested_stable port next holds.1 moved, ?_⟩
    cases moved with
    | load => exact holds.2
    | shifted => exact holds.2
    | drift => exact holds.2
  have handled : Triple (sercom slave) sound
      (fun port => port.requests ∧ Resting slave start object port) interruptHandler
      fun _ => Resting slave start object := by
    intro port holds
    exact absurd holds.1 (off_silent holds.2.1.1.enabled)
  exact stable_preempted stable handled

theorem isBusy_rests :
    Triple (driven slave) (watched slave) (Rested slave start) isBusy
      fun busy port => busy = false ∧ Rested slave start port := by
  have stable : Stable (driven slave) fun port : Port Chip =>
      false = false ∧ Rested slave start port := stable_and (stable_fact _) rested_driven
  have reads (object : SpiObject) :
      Triple (driven slave) (watched slave) (Resting slave start object) (access .object)
        fun answer port => answer = object ∧ Resting slave start object port := by
    apply triple_perform (resting_driven object)
    · exact fun _ => stable_and (stable_fact _) (resting_driven object)
    · exact fun port holds => ⟨trivial, rested_ready holds.1⟩
    · intro port answer after holds answered
      obtain ⟨rfl, rfl⟩ := answered
      exact ⟨holds.2, holds⟩
  apply triple_pre _ fun port (holds : Rested slave start port) =>
    (⟨port.object, holds, rfl⟩ : ∃ object, Resting slave start object port)
  apply triple_exists
  intro object
  rw [isBusy]
  apply triple_seq (reads object)
  intro first
  apply triple_fact
  intro known
  apply triple_seq (reads object)
  intro second
  apply triple_fact
  intro again
  apply triple_seq (reads object)
  intro third
  apply triple_fact
  intro last
  rw [known, again, last]
  apply triple_ite
  · intro _
    exact triple_pure stable fun port holds => ⟨rfl, holds.1⟩
  · intro requested
    have flags : Triple (driven slave) (watched slave) (Resting slave start object)
        (access .intflag) fun flags port => flags.txc = true ∧ object.transferIsBusy = false ∧
          Rested slave start port := by
      apply triple_perform (resting_driven object)
      · exact fun _ => stable_and (stable_fact _) (stable_and (stable_fact _) rested_driven)
      · exact fun port holds => ⟨trivial, rested_ready holds.1⟩
      · intro port answer after holds answered
        obtain ⟨rfl, rfl⟩ := answered
        have settled := holds.1.1.settled
        have free := holds.1.1.free
        rw [holds.2] at settled free
        exact ⟨settled.resolve_left requested, free, holds.1⟩
    apply triple_seq flags
    intro flags
    apply triple_fact
    intro complete
    apply triple_fact
    intro free
    refine triple_pure (stable_and (stable_fact _) rested_driven) ?_
    intro port holds
    rw [complete, free]
    exact ⟨rfl, holds⟩

theorem advanced_ready {port : Port Chip} (advanced : job.Advanced slave start bound port) :
    Ready slave port := fun _ => ⟨job, start, bound, advanced⟩

/-- `transferIsBusy` is cleared at the end of the transfer, not before. -/
theorem advanced_object {port : Port Chip} (advanced : job.Advanced slave start bound port) :
    (port.object.txSize = job.txSize ∧ port.object.rxSize = job.rxSize) ∧
      (port.object.transferIsBusy = false → job.Ended slave start port) := by
  rcases advanced with ended | ⟨phase, count, heard, _, holds⟩
  · obtain ⟨heard, full, holds⟩ := ended
    rw [holds.object]
    exact ⟨⟨rfl, rfl⟩, fun _ => ⟨heard, full, holds⟩⟩
  · rw [holds.object]
    exact ⟨⟨rfl, rfl⟩, nofun⟩

/-- Not busy means that the transfer is over. -/
theorem isBusy_waits :
    Triple (driven slave) (watched slave) (job.Advanced slave start bound) isBusy
      fun busy port => job.Advanced slave start bound port ∧
        (busy = false → job.Ended slave start port) := by
  have stable : Stable (driven slave) (job.Advanced slave start bound) := advanced_driven _ _
  have still (busy : Bool) : Stable (driven slave) fun port =>
      job.Advanced slave start bound port ∧ (busy = false → job.Ended slave start port) :=
    stable_and stable (stable_imp (ended_driven job))
  have reads (known : Prop) :
      Triple (driven slave) (watched slave)
        (fun port => job.Advanced slave start bound port ∧ (known → job.Ended slave start port))
        (access .object) fun object port =>
          (object.txSize = job.txSize ∧ object.rxSize = job.rxSize) ∧
            (job.Advanced slave start bound port ∧
              (known ∨ object.transferIsBusy = false → job.Ended slave start port)) := by
    apply triple_perform (stable_and stable (stable_imp (ended_driven job)))
    · exact fun _ => stable_and (stable_fact _) (stable_and stable (stable_imp (ended_driven job)))
    · exact fun port holds => ⟨trivial, advanced_ready holds.1⟩
    · intro port object after holds answered
      obtain ⟨rfl, rfl⟩ := answered
      obtain ⟨sizes, ends⟩ := advanced_object holds.1
      exact ⟨sizes, holds.1, fun given => given.elim holds.2 ends⟩
  apply triple_pre _ fun port (holds : job.Advanced slave start bound port) =>
    (⟨holds, False.elim⟩ : _ ∧ (False → job.Ended slave start port))
  rw [isBusy]
  apply triple_seq (reads False)
  intro first
  apply triple_fact
  intro sent
  apply triple_seq (reads (False ∨ first.transferIsBusy = false))
  intro second
  apply triple_fact
  intro _
  apply triple_seq (reads ((False ∨ first.transferIsBusy = false) ∨ second.transferIsBusy = false))
  intro third
  apply triple_fact
  intro sizes
  apply triple_ite
  · intro nothing
    rw [sizes.2, sent.1] at nothing
    have some := job.some
    omega
  · intro _
    have flags : Triple (driven slave) (watched slave)
        (fun port => job.Advanced slave start bound port ∧
          ((((False ∨ first.transferIsBusy = false) ∨ second.transferIsBusy = false) ∨
            third.transferIsBusy = false) → job.Ended slave start port))
        (access .intflag) fun _ port => job.Advanced slave start bound port ∧
          (second.transferIsBusy = false → job.Ended slave start port) := by
      apply triple_perform (stable_and stable (stable_imp (ended_driven job)))
      · exact fun _ => stable_and stable (stable_imp (ended_driven job))
      · exact fun port holds => ⟨trivial, advanced_ready holds.1⟩
      · intro port _ after holds answered
        obtain ⟨_, rfl⟩ := answered
        exact ⟨holds.1, fun free => holds.2 (.inl (.inr free))⟩
    apply triple_seq flags
    intro flags
    refine triple_pure (still _) ?_
    intro port holds
    refine ⟨holds.1, fun idle => holds.2 ?_⟩
    rw [Bool.or_eq_false_iff] at idle
    exact idle.2

end IsBusy

end LoraNode.SpiMaster
