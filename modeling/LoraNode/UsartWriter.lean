import LoraNode.Foundation.Layer
import LoraNode.UsartHandler

/-!
# Writing without waiting

For its callers the UART accepts an array when no transfer is busy, and its bytes
leave in order while the caller does something else. The array of a busy transfer
must be left alone. The driver, its handler and the shift register do this.
-/

namespace LoraNode.Usart

open LoraNode.Foundation LoraNode.Foundation.Bytes LoraNode.Foundation.Program
  LoraNode.Foundation.Interference LoraNode.Foundation.Buffers LoraNode.Foundation.Preemption
  LoraNode.Foundation.Layer

inductive Request (Buffer : Type) : Type → Type where
  | write (buffer : Option Buffer) (size : Nat) : Request Buffer Bool
  | writeIsBusy : Request Buffer Bool
  | transmitComplete : Request Buffer Bool

inductive WriterCall (Buffer : Type) (Other : Type → Type) : Type → Type where
  | array {Reply : Type} (call : ArrayCall Buffer Reply) : WriterCall Buffer Other Reply
  | request {Reply : Type} (request : Request Buffer Reply) : WriterCall Buffer Other Reply
  | other {Reply : Type} (call : Other Reply) : WriterCall Buffer Other Reply

/-- The arrays, what was accepted, what of it has left, and the array in use. -/
structure Writer (Buffer : Type) where
  memory : Memory Buffer
  accepted : List Byte
  out : List Byte
  busy : Option Buffer

variable {Buffer : Type}

def Writer.Flushed (writer : Writer Buffer) : Prop :=
  writer.busy = none ∧ writer.out = writer.accepted

def Writer.accept (writer : Writer Buffer) (array : Buffer) (size : Nat) : Writer Buffer :=
  { writer with
    accepted := writer.accepted ++ bytesOf writer.memory array size
    busy := some array }

def requestAnswers {Reply : Type} (writer : Writer Buffer) :
    Request Buffer Reply → Reply → Writer Buffer → Prop
  | .write buffer size, answer, next =>
      match buffer, writer.busy with
      | some array, none => answer = true ∧ next = writer.accept array size
      | _, _ => answer = false ∧ next = writer
  | .writeIsBusy, answer, next => answer = writer.busy.isSome ∧ next = writer
  | .transmitComplete, answer, next =>
      (answer = true → writer.busy = none → writer.Flushed) ∧ next = writer

structure Drains (writer next : Writer Buffer) : Prop where
  memory : next.memory = writer.memory
  accepted : next.accepted = writer.accepted
  grows : writer.out <+: next.out
  within : next.out <+: next.accepted
  busy : next.busy = none ∨ next.busy = writer.busy

variable {Other : Type → Type}

section Answers

variable [DecidableEq Buffer]

def writerAnswers (sizes : Buffer → Nat) {Reply : Type} (writer : Writer Buffer) :
    WriterCall Buffer Other Reply → Reply → Writer Buffer → Prop
  | .array call, answer, next => ∃ memory,
      (arrays sizes).answers writer.memory call answer memory ∧
        next = { writer with memory := memory }
  | .request request, answer, next => requestAnswers writer request answer next
  | .other _, _, next => next = writer

def writing (sizes : Buffer → Nat) (Other : Type → Type) :
    Setting (WriterCall Buffer Other) (Writer Buffer) where
  answers := writerAnswers sizes
  interferes := Drains

end Answers

/-- The array of a busy transfer is not stored to. -/
def Apart {Reply : Type} : ArrayCall Buffer Reply → Option Buffer → Prop
  | .store array _ _, busy => busy ≠ some array
  | _, _ => True

/-- Array accesses are defined and apart from the transfer, a source is readable, and
the calls in `quiets` are made only once everything has left. -/
def permitted (sizes : Buffer → Nat) (quiets : (Reply : Type) → Other Reply → Prop) :
    Guard (WriterCall Buffer Other) (Writer Buffer)
  | _, .array call, writer => defined sizes call writer.memory ∧ Apart call writer.busy
  | _, .request (.write (some array) size), writer => Readable sizes writer.memory array size
  | _, .request _, _ => True
  | _, .other call, writer => quiets _ call → writer.Flushed

def Port.Flushed (port : Port Buffer) : Prop :=
  port.source = none ∧ port.shift = none ∧ port.data = none

def careful (sizes : Buffer → Nat) (quiets : (Reply : Type) → Other Reply → Prop) :
    Guard (TaskCall Buffer Other) (Port Buffer)
  | _, .array call, port => defined sizes call port.memory ∧ Apart call port.source
  | _, .access call, port => sound sizes call port
  | _, .other call, port => quiets _ call → port.Flushed

def driver {Reply : Type} : Request Buffer Reply → Driver Buffer Reply
  | .write buffer size => write buffer size
  | .writeIsBusy => writeIsBusy
  | .transmitComplete => transmitComplete

def writerBody {Reply : Type} :
    WriterCall Buffer Other Reply → Program (TaskCall Buffer Other) (Option Reply)
  | .array call => do
      let answer ← perform (.array call)
      return some answer
  | .request request => do
      let answer ← (driver request).lift .access
      return some answer
  | .other call => do
      let answer ← perform (.other call)
      return some answer

variable {sizes : Buffer → Nat}

section Driven

abbrev driven : Setting (Access Buffer) (Port Buffer) :=
  preempted sercom sercom interruptHandler Port.requests

def Ready (sizes : Buffer → Nat) (port : Port Buffer) : Prop :=
  port.requests → ∃ memory before accepted runs busy,
    Rests sizes memory before accepted runs busy port

theorem ready_handled : Triple sercom (sound sizes)
    (fun port => port.requests ∧ Ready sizes port) interruptHandler fun _ _ => True := by
  intro port holds
  obtain ⟨asked, ready⟩ := holds
  obtain ⟨memory, before, accepted, runs, busy, rests⟩ := ready asked
  exact secured_mono (handler_rests runs busy port ⟨asked, rests⟩) fun _ _ _ => trivial

def watched (sizes : Buffer → Nat) : Guard (Access Buffer) (Port Buffer) :=
  fun call port => sound sizes call port ∧ Ready sizes port

theorem at_driven {view : View Buffer} (off : view.enabled = noInterrupts) :
    Stable driven (At view) := by
  have handled : Triple sercom unguarded (fun port => port.requests ∧ At view port)
      interruptHandler fun _ => At view :=
    fun port holds => absurd holds.1 (off_silent (holds.2.enabled.trans off))
  exact stable_preempted (at_stable view) handled

theorem rests_driven {memory : Memory Buffer} {before accepted : List Byte} {runs : Nat}
    {busy : Option Buffer} : Stable driven (Rests sizes memory before accepted runs busy) :=
  stable_preempted rests_stable (handler_rests runs busy)

/-- An access with every interrupt off. -/
theorem access_quiet {Reply : Type} {view : View Buffer} {call : Access Buffer Reply}
    {post : Reply → Port Buffer → Prop} (off : view.enabled = noInterrupts)
    (stable : ∀ answer, Stable driven (post answer))
    (triple : Triple sercom (sound sizes) (At view) (access call) post) :
    Triple driven (watched sizes) (At view) (access call) post := by
  apply triple_perform (at_driven off) stable
  · intro port holds
    have asked : ¬port.requests := off_silent (holds.enabled.trans off)
    exact ⟨(triple port holds port .refl).1, fun requests => absurd requests asked⟩
  · intro port answer after holds answered
    exact secured_done ((triple port holds port .refl).2 answer after answered)

end Driven

section Write

variable {memory : Memory Buffer} {before accepted : List Byte} {array : Buffer} {size : Nat}
  {object : UsartObject Buffer}

/-- The loop of `write` hands over as many bytes as DATA takes. -/
theorem fill_sends (readable : Readable sizes memory array size) (left index : Nat)
    (rounds : index + left = size) :
    Triple driven (watched sizes)
      (At (sending object noInterrupts memory before accepted array size index))
      (fill (some array) index left) fun answer port => answer ≤ size ∧
        At (sending object noInterrupts memory before accepted array size answer) port := by
  have stable (answer : Nat) : Stable driven fun port => answer ≤ size ∧
      At (sending object noInterrupts memory before accepted array size answer) port :=
    stable_and (stable_fact _) (at_driven rfl)
  have flags (index : Nat) : Triple driven (watched sizes)
      (At (sending object noInterrupts memory before accepted array size index)) (access .intflag)
      fun flags => At ((sending object noInterrupts memory before accepted array size index).seen
        flags) := by
    apply access_quiet rfl fun _ => at_driven rfl
    exact triple_mono intflag_reads (fun _ holds => holds) fun _ _ holds => holds.2
  induction left generalizing index with
  | zero =>
      apply triple_seq (flags index)
      intro _
      exact triple_pure (stable index) fun _ holds =>
        ⟨Nat.le_of_eq rounds, at_weaken holds rfl False.elim⟩
  | succ left induction =>
      have inside : index < size := by omega
      obtain ⟨value, known⟩ := Option.isSome_iff_exists.mp (readable.2 index inside)
      apply triple_seq (flags index)
      intro flags
      apply triple_ite
      · intro seen
        have empty : ((sending object noInterrupts memory before accepted array size index).seen
          flags).empty := .inr seen
        apply triple_seq (access_quiet rfl (fun _ => stable_and (stable_fact _) (at_driven rfl))
          (source_reads (Nat.lt_of_lt_of_le inside readable.1) known))
        intro byte
        apply triple_fact
        rintro rfl
        apply triple_seq (access_quiet rfl (fun _ => at_driven rfl)
          (data_writes empty (bytesOf_drop inside known)))
        intro _
        exact induction (index + 1) (by omega)
      · intro _
        exact triple_pure (stable index) fun _ holds =>
          ⟨Nat.le_of_lt inside, at_weaken holds rfl False.elim⟩

/-- The interrupt is enabled once the transfer is set up. -/
theorem intenset_starts (readable : Readable sizes memory array size) {index : Nat}
    (within : index ≤ size) :
    Triple driven (watched sizes)
      (At (sending (transferring array size index) noInterrupts memory before accepted array size
        index))
      (access (.setIntenset dataRegisterEmpty))
      fun _ => Rests sizes memory before accepted (size + 1) (some array) := by
  apply triple_perform (at_driven rfl) fun _ => rests_driven
  · intro port holds
    exact ⟨trivial, fun asked => absurd asked (off_silent holds.enabled)⟩
  · intro port _ after holds answered
    have sets : Triple sercom (sound sizes)
        (At (sending (transferring array size index) noInterrupts memory before accepted array size
          index)) (access (.setIntenset dataRegisterEmpty))
        fun _ => At (moving memory before accepted array size index) :=
      intenset_sets dataRegisterEmpty
    have started := secured_done ((sets port holds port .refl).2 () after answered)
    exact ⟨some array, .inr rfl, size, index, ⟨within, by omega, readable⟩, started⟩

/-- What `write` does after it found no transfer busy. -/
def starts (array : Buffer) (size : Nat) : Driver Buffer Bool := do
  access (.store fun object => { object with txBuffer := some array })
  access (.store fun object => { object with txSize := size })
  access (.store fun object => { object with txBusyStatus := true })
  let object ← access .object
  let processedSize ← fill (some array) 0 object.txSize
  access (.store fun object => { object with txProcessedSize := processedSize })
  access (.setIntenset dataRegisterEmpty)
  return true

theorem starts_sends (readable : Readable sizes memory array size) :
    Triple driven (watched sizes)
      (At (sending object noInterrupts memory before accepted array size 0)) (starts array size)
      fun answer port => answer = true ∧
        Rests sizes memory before accepted (size + 1) (some array) port := by
  have stores {change : UsartObject Buffer → UsartObject Buffer} {object : UsartObject Buffer}
      {index : Nat} (next : UsartObject Buffer) (changed : change object = next) :
      Triple driven (watched sizes)
        (At (sending object noInterrupts memory before accepted array size index))
        (access (.store change))
        fun _ => At (sending next noInterrupts memory before accepted array size index) :=
    access_quiet rfl (fun _ => at_driven rfl) (object_stores next changed)
  apply triple_seq (stores _ rfl)
  intro _
  apply triple_seq (stores _ rfl)
  intro _
  apply triple_seq (stores _ rfl)
  intro _
  apply triple_seq (access_quiet rfl (fun _ => stable_and (stable_fact _) (at_driven rfl))
    object_reads)
  intro read
  apply triple_fact
  intro same
  have same : read.txSize = size := congrArg UsartObject.txSize same
  rw [same]
  apply triple_seq (fill_sends readable size 0 (Nat.zero_add size))
  intro processed
  apply triple_fact
  intro within
  apply triple_seq (stores (transferring array size processed) rfl)
  intro _
  apply triple_seq (intenset_starts readable within)
  intro _
  exact triple_pure (stable_and (stable_fact _) rests_driven) fun _ holds => ⟨rfl, holds⟩

end Write

section Represents

def Represents (sizes : Buffer → Nat) (port : Port Buffer) (writer : Writer Buffer) : Prop :=
  port.out = writer.out ∧
    ∃ runs, Resting sizes writer.memory writer.out writer.accepted runs writer.busy port

def Follows (sizes : Buffer → Nat) (writer : Writer Buffer) (port : Port Buffer) : Prop :=
  ∃ runs, Rests sizes writer.memory writer.out writer.accepted runs writer.busy port

variable {port : Port Buffer} {writer : Writer Buffer}

theorem follows_driven : Stable driven (Follows sizes writer) :=
  stable_exists fun _ => rests_driven

/-- Then it stands for a writer that has drained. -/
theorem follows_represents (follows : Follows sizes writer port) :
    ∃ next, Drains writer next ∧ Represents sizes port next := by
  obtain ⟨runs, busy, most, rests⟩ := follows
  have moved {view : View Buffer} (holds : At view port) :
      view.before <+: port.out ∧ port.out <+: view.accepted ∧
        At { view with before := port.out } port := by
    refine ⟨holds.left, ?_, holds.object, holds.enabled, holds.memory, List.prefix_rfl,
      holds.carried, holds.settled, holds.empty⟩
    rw [← holds.carried, List.append_assoc, List.append_assoc]
    exact List.prefix_append _ _
  cases busy with
  | none =>
      obtain ⟨object, free, holds⟩ := rests
      obtain ⟨grows, within, holds⟩ := moved holds
      exact ⟨⟨writer.memory, writer.accepted, port.out, none⟩,
        ⟨rfl, rfl, grows, within, .inl rfl⟩, rfl, runs, object, free, holds⟩
  | some array =>
      obtain ⟨size, index, readable, holds⟩ := rests
      obtain ⟨grows, within, holds⟩ := moved holds
      exact ⟨⟨writer.memory, writer.accepted, port.out, some array⟩,
        ⟨rfl, rfl, grows, within, most⟩, rfl, runs, size, index, readable, holds⟩

theorem represents_follows (represents : Represents sizes port writer) :
    Follows sizes writer port := by
  obtain ⟨_, runs, rests⟩ := represents
  exact ⟨runs, writer.busy, .inr rfl, rests⟩

theorem represents_ready (represents : Represents sizes port writer) : Ready sizes port := by
  obtain ⟨runs, rests⟩ := represents_follows represents
  exact fun _ => ⟨_, _, _, runs, _, rests⟩

theorem represents_at (represents : Represents sizes port writer) :
    ∃ object enabled rest,
      At ⟨object, enabled, writer.memory, writer.out, writer.accepted, rest, False⟩ port := by
  obtain ⟨_, runs, rests⟩ := represents
  cases busy : writer.busy with
  | none =>
      rw [busy] at rests
      obtain ⟨object, _, holds⟩ := rests
      exact ⟨object, _, _, holds⟩
  | some array =>
      rw [busy] at rests
      obtain ⟨size, index, _, holds⟩ := rests
      exact ⟨_, _, _, holds⟩

theorem represents_memory (represents : Represents sizes port writer) :
    port.memory = writer.memory := by
  obtain ⟨_, _, _, holds⟩ := represents_at represents
  exact holds.memory

theorem represents_settled (represents : Represents sizes port writer)
    (complete : port.txc = true) : port.shift = none ∧ port.data = none := by
  obtain ⟨_, _, _, holds⟩ := represents_at represents
  exact holds.settled complete

theorem represents_source (represents : Represents sizes port writer) :
    port.source = writer.busy ∧ port.object.txBusyStatus = writer.busy.isSome := by
  obtain ⟨_, runs, rests⟩ := represents
  rw [Port.source]
  cases busy : writer.busy with
  | none =>
      rw [busy] at rests
      obtain ⟨object, free, holds⟩ := rests
      have free : port.object.txBusyStatus = false := holds.object ▸ free
      rw [free]
      exact ⟨rfl, rfl⟩
  | some array =>
      rw [busy] at rests
      obtain ⟨_, _, _, holds⟩ := rests
      rw [holds.object]
      exact ⟨rfl, rfl⟩

def Port.pending (port : Port Buffer) : List Byte :=
  port.source.elim [] fun array =>
    (bytesOf port.memory array port.object.txSize).drop port.object.txProcessedSize

/-- Nothing that was accepted is lost, doubled or out of order. -/
theorem represents_pending (represents : Represents sizes port writer) :
    port.out ++ port.shift.toList ++ port.data.toList ++ port.pending = writer.accepted := by
  have source := (represents_source represents).1
  rw [Port.pending, source]
  obtain ⟨_, runs, rests⟩ := represents
  cases busy : writer.busy with
  | none =>
      rw [busy] at rests
      obtain ⟨_, _, holds⟩ := rests
      exact holds.carried
  | some array =>
      rw [busy] at rests
      obtain ⟨size, index, _, holds⟩ := rests
      rw [holds.object, holds.memory]
      exact holds.carried

/-- With nothing in the registers and no transfer busy, everything has left. -/
theorem represents_flushed (represents : Represents sizes port writer)
    (free : writer.busy = none) :
    writer.Flushed ↔ port.shift = none ∧ port.data = none := by
  obtain ⟨same, runs, rests⟩ := represents
  rw [free] at rests
  obtain ⟨object, _, holds⟩ := rests
  have carried : port.out ++ port.shift.toList ++ port.data.toList ++ [] = writer.accepted :=
    holds.carried
  rw [List.append_nil, List.append_assoc, same] at carried
  constructor
  · intro flushed
    rw [← flushed.2, List.append_right_eq_self, List.append_eq_nil_iff] at carried
    rw [Option.toList_eq_nil_iff, Option.toList_eq_nil_iff] at carried
    exact carried
  · intro empty
    rw [empty.1, empty.2] at carried
    refine ⟨free, ?_⟩
    rw [← carried]
    exact (List.append_nil _).symm

def unusedPort (memory : Memory Buffer) : Port Buffer where
  object := ⟨none, 0, 0, false⟩
  enabled := noInterrupts
  data := none
  shift := none
  txc := false
  error := false
  out := []
  memory := memory

theorem unusedPort_represents (memory : Memory Buffer) :
    Represents sizes (unusedPort memory) ⟨memory, [], [], none⟩ := by
  refine ⟨rfl, 0, ⟨none, 0, 0, false⟩, rfl, ?_⟩
  exact ⟨rfl, rfl, rfl, List.nil_prefix, rfl, fun _ => ⟨rfl, rfl⟩, False.elim⟩

end Represents

section Realizes

variable {quiets : (Reply : Type) → Other Reply → Prop}

def attended (sizes : Buffer → Nat) (quiets : (Reply : Type) → Other Reply → Prop) :
    Guard (TaskCall Buffer Other) (Port Buffer) :=
  fun call port => careful sizes quiets call port ∧ Ready sizes port

theorem drains_flushed {writer next : Writer Buffer} (drains : Drains writer next)
    (flushed : writer.Flushed) : next.Flushed := by
  obtain ⟨free, whole⟩ := flushed
  have grows := drains.grows
  have within := drains.within
  rw [whole, ← drains.accepted] at grows
  constructor
  · rcases drains.busy with none | same
    · exact none
    · exact same.trans free
  · exact within.eq_of_length_le grows.length_le

variable [DecidableEq Buffer]

abbrev board (sizes : Buffer → Nat) (Other : Type → Type) :
    Setting (TaskCall Buffer Other) (Port Buffer) :=
  preempted (tasks sizes Other) sercom interruptHandler Port.requests

def Served (sizes : Buffer → Nat) (Other : Type → Type) (writer : Writer Buffer) {Reply : Type}
    (call : WriterCall Buffer Other Reply) (answer : Reply) (port : Port Buffer) : Prop :=
  ∃ next, Taken (writing sizes Other) writer call answer next ∧
    Follows sizes next port

theorem served_stable {Reply : Type} (writer : Writer Buffer)
    (call : WriterCall Buffer Other Reply) (answer : Reply) :
    Stable (board sizes Other) (Served sizes Other writer call answer) :=
  stable_exists fun _ => stable_and (stable_fact _) follows_driven

theorem represents_served {Reply : Type} {writer start next : Writer Buffer} {port : Port Buffer}
    {call : WriterCall Buffer Other Reply} {answer : Reply} (drained : Drains writer start)
    (answered : writerAnswers sizes start call answer next)
    (follows : Follows sizes next port) :
    Served sizes Other writer call answer port :=
  ⟨next, ⟨start, next, .single drained, answered, .refl⟩, follows⟩

/-- A call that is one access. -/
theorem access_serves {Inner Reply : Type} {writer : Writer Buffer}
    {call : WriterCall Buffer Other Reply} {inner : TaskCall Buffer Other Inner}
    {value : Inner → Reply}
    (guarded : ∀ port middle, Drains writer middle → Represents sizes port middle →
      careful sizes quiets inner port)
    (answered : ∀ port middle answer after, Drains writer middle →
      Represents sizes port middle → taskAnswers sizes port inner answer after →
      ∃ next, writerAnswers sizes middle call (value answer) next ∧
        Follows sizes next after) :
    Triple (board sizes Other) (attended sizes quiets)
      (Follows sizes writer) (perform inner)
      fun answer => Served sizes Other writer call (value answer) := by
  have stable : Stable (board sizes Other)
      (Follows sizes writer) := follows_driven
  apply triple_perform stable fun answer => served_stable writer call (value answer)
  · intro port follows
    obtain ⟨middle, drained, represents⟩ := follows_represents follows
    exact ⟨guarded port middle drained represents, represents_ready represents⟩
  · intro port answer after follows moved
    obtain ⟨middle, drained, represents⟩ := follows_represents follows
    obtain ⟨next, taken, follows⟩ := answered port middle answer after drained represents moved
    exact represents_served drained taken follows

/-- The array of the transfer is as it was. -/
theorem apart_kept {Reply : Type} {call : ArrayCall Buffer Reply} {answer : Reply}
    {memory after : Memory Buffer} {array : Buffer} (apart : Apart call (some array))
    (inside : defined sizes call memory)
    (answered : (arrays sizes).answers memory call answer after) : after array = memory array := by
  cases call with
  | load buffer index => exact congrFun answered.1 array
  | store buffer index value =>
      have stored : after = memory.store buffer index value := answered inside
      have other : array ≠ buffer := fun same => apart (congrArg some same)
      rw [stored, Memory.store, Function.update_of_ne other]
  | lend buffer length => exact congrFun answered array

theorem array_serves {Reply : Type} {writer : Writer Buffer} (call : ArrayCall Buffer Reply)
    (allowed : permitted sizes quiets (.array call) writer) :
    Triple (board sizes Other) (attended sizes quiets)
      (Follows sizes writer) (perform (.array call))
      (Served sizes Other writer (.array call)) := by
  obtain ⟨inside, apart⟩ := allowed
  have free {busy : Option Buffer} (most : busy = none ∨ busy = writer.busy) :
      Apart call busy := by
    rcases most with rfl | rfl
    · cases call with
      | store => exact nofun
      | load => trivial
      | lend => trivial
    · exact apart
  apply access_serves
  · intro port middle drained represents
    change defined sizes call port.memory ∧ Apart call port.source
    rw [represents_memory represents, drained.memory, (represents_source represents).1]
    exact ⟨inside, free drained.busy⟩
  · intro port middle answer after drained represents moved
    obtain ⟨memory, answered, rfl⟩ := moved
    rw [represents_memory represents] at answered
    refine ⟨{ middle with memory := memory }, ⟨memory, answered, rfl⟩, ?_⟩
    have within : defined sizes call middle.memory := drained.memory ▸ inside
    have apart := free drained.busy
    obtain ⟨_, runs, rests⟩ := represents
    refine ⟨runs, middle.busy, .inr rfl, ?_⟩
    change Resting sizes memory middle.out middle.accepted runs middle.busy _
    cases busy : middle.busy with
    | none =>
        rw [busy] at rests
        obtain ⟨object, idle, holds⟩ := rests
        exact ⟨object, idle, holds.object, holds.enabled, rfl, holds.left, holds.carried,
          holds.settled, holds.empty⟩
    | some array =>
        rw [busy] at rests apart
        obtain ⟨size, index, ⟨bound, ends, readable⟩, holds⟩ := rests
        have kept := apart_kept apart within answered
        refine ⟨size, index, ⟨bound, ends, readable_same kept readable⟩, holds.object,
          holds.enabled, rfl, holds.left, ?_, holds.settled, holds.empty⟩
        change _ ++ (bytesOf memory array size).drop index = _
        rw [bytesOf_same kept]
        exact holds.carried

theorem other_serves {Reply : Type} {writer : Writer Buffer} (call : Other Reply)
    (allowed : permitted sizes quiets (.other call) writer) :
    Triple (board sizes Other) (attended sizes quiets)
      (Follows sizes writer) (perform (.other call))
      (Served sizes Other writer (.other call)) := by
  apply access_serves
  · intro port middle drained represents quiet
    have flushed := drains_flushed drained (allowed quiet)
    have empty := (represents_flushed represents flushed.1).mp flushed
    exact ⟨(represents_source represents).1.trans flushed.1, empty⟩
  · intro port middle answer after drained represents moved
    obtain rfl := moved
    exact ⟨middle, rfl, represents_follows represents⟩

variable {writer : Writer Buffer}

theorem writeIsBusy_serves :
    Triple (board sizes Other) (attended sizes quiets)
      (Follows sizes writer)
      (writeIsBusy.lift .access) (Served sizes Other writer (.request .writeIsBusy)) := by
  have reads : Triple (board sizes Other) (attended sizes quiets)
      (Follows sizes writer)
      (perform (.access .object)) fun object =>
        Served sizes Other writer (.request .writeIsBusy) object.txBusyStatus := by
    apply access_serves
    · exact fun _ _ _ _ => trivial
    · intro port middle answer after drained represents moved
      obtain ⟨rfl, rfl⟩ := moved
      refine ⟨middle, ⟨(represents_source represents).2, rfl⟩, represents_follows represents⟩
  apply triple_seq reads
  intro object
  exact triple_pure (served_stable writer _ _) fun _ holds => holds

theorem transmitComplete_serves :
    Triple (board sizes Other) (attended sizes quiets)
      (Follows sizes writer)
      (transmitComplete.lift .access) (Served sizes Other writer (.request .transmitComplete)) := by
  have reads : Triple (board sizes Other) (attended sizes quiets)
      (Follows sizes writer)
      (perform (.access .intflag)) fun flags =>
        Served sizes Other writer (.request .transmitComplete) flags.txc := by
    apply access_serves
    · exact fun _ _ _ _ => trivial
    · intro port middle answer after drained represents moved
      obtain ⟨rfl, rfl⟩ := moved
      refine ⟨middle, ⟨?_, rfl⟩, represents_follows represents⟩
      intro complete free
      exact (represents_flushed represents free).mpr (represents_settled represents complete)
  apply triple_seq reads
  intro flags
  exact triple_pure (served_stable writer _ _) fun _ holds => holds

/-- What `write` knows once it has looked whether a transfer is busy. -/
def Looked (sizes : Buffer → Nat) (Other : Type → Type) (writer : Writer Buffer) (array : Buffer)
    (size : Nat) (looked : UsartObject Buffer) (port : Port Buffer) : Prop :=
  (looked.txBusyStatus = true ∧
    Served sizes Other writer (.request (.write (some array) size)) false port) ∨
  looked.txBusyStatus = false ∧ ∃ start object, (Drains writer start ∧ start.busy = none) ∧
    At (sending object noInterrupts start.memory start.out
      (start.accepted ++ bytesOf start.memory array size) array size 0) port

theorem looked_stable (array : Buffer) (size : Nat) (looked : UsartObject Buffer) :
    Stable (board sizes Other) (Looked sizes Other writer array size looked) := by
  apply stable_or
  · exact stable_and (stable_fact _) (served_stable writer _ _)
  · exact stable_and (stable_fact _) (stable_exists fun start => stable_exists fun object =>
      stable_and (stable_fact _) (at_driven rfl))

theorem object_looks (array : Buffer) (size : Nat) :
    Triple (board sizes Other) (attended sizes quiets)
      (Follows sizes writer)
      (perform (.access .object)) (Looked sizes Other writer array size) := by
  have stable : Stable (board sizes Other)
      (Follows sizes writer) := follows_driven
  apply triple_perform stable fun looked => looked_stable array size looked
  · intro port follows
    obtain ⟨middle, drained, represents⟩ := follows_represents follows
    exact ⟨trivial, represents_ready represents⟩
  · intro port looked after follows moved
    obtain ⟨rfl, rfl⟩ := moved
    obtain ⟨middle, drained, represents⟩ := follows_represents follows
    have same := (represents_source represents).2
    cases busy : middle.busy with
    | some other =>
        left
        rw [busy] at same
        have answered : writerAnswers sizes middle
            (.request (.write (some array) size) : WriterCall Buffer Other Bool) false middle := by
          simp only [writerAnswers, requestAnswers, busy, and_self]
        exact ⟨same, represents_served drained answered (represents_follows represents)⟩
    | none =>
        right
        rw [busy] at same
        obtain ⟨left, runs, rests⟩ := represents
        rw [busy] at rests
        obtain ⟨object, _, holds⟩ := rests
        refine ⟨same, middle, object, ⟨drained, busy⟩, holds.object, holds.enabled, holds.memory,
          holds.left, ?_, holds.settled, False.elim⟩
        have carried : after.out ++ after.shift.toList ++ after.data.toList ++ [] =
            middle.accepted := holds.carried
        rw [List.append_nil] at carried
        exact congrArg (· ++ bytesOf middle.memory array size) carried

theorem write_serves (array : Buffer) (size : Nat)
    (readable : Readable sizes writer.memory array size) :
    Triple (board sizes Other) (attended sizes quiets)
      (Follows sizes writer)
      ((write (some array) size).lift .access)
      (Served sizes Other writer (.request (.write (some array) size))) := by
  have sends (object : UsartObject Buffer) (start : Writer Buffer)
      (readable : Readable sizes start.memory array size) :
      Triple (board sizes Other) (attended sizes quiets)
        (At (sending object noInterrupts start.memory start.out
          (start.accepted ++ bytesOf start.memory array size) array size 0))
        ((starts array size).lift .access)
        fun answer port => answer = true ∧ Follows sizes (start.accept array size) port := by
    intro port holds
    apply secured_along
    apply secured_mono (starts_sends readable port holds)
    exact fun _ _ ends => ⟨ends.1, size + 1, ends.2⟩
  change Triple _ _ _ (perform (.access .object) >>= fun looked : UsartObject Buffer =>
    Program.lift TaskCall.access
      (if looked.txBusyStatus then return false else starts array size)) _
  apply triple_seq (object_looks array size)
  intro looked port holds
  rcases holds with ⟨busy, serves⟩ | ⟨free, start, object, ⟨drained, idle⟩, holds⟩
  · rw [if_pos busy]
    exact fun later disturbed => stable_disturbed (served_stable writer _ _) serves disturbed
  · rw [if_neg (Bool.eq_false_iff.mp free)]
    have readable : Readable sizes start.memory array size := drained.memory ▸ readable
    apply secured_mono (sends object start readable port holds)
    intro answer after ends
    obtain ⟨rfl, follows⟩ := ends
    have answered : writerAnswers sizes start
        (.request (.write (some array) size) : WriterCall Buffer Other Bool) true
        (start.accept array size) := by
      simp only [writerAnswers, requestAnswers, idle, and_self]
    exact represents_served drained answered follows

theorem write_null (size : Nat) :
    Triple (board sizes Other) (attended sizes quiets)
      (Follows sizes writer)
      ((write none size).lift .access)
      (Served sizes Other writer (.request (.write none size))) := by
  refine triple_pure (served_stable writer _ _) ?_
  intro port follows
  have answered : writerAnswers sizes writer
      (.request (.write none size) : WriterCall Buffer Other Bool) false writer := ⟨rfl, rfl⟩
  have same : Taken (writing sizes Other) writer (.request (.write none size)) false writer :=
    ⟨writer, writer, .refl, answered, .refl⟩
  exact ⟨writer, same, follows⟩

theorem request_serves {Reply : Type} (request : Request Buffer Reply)
    (allowed : permitted sizes quiets (.request request) writer) :
    Triple (board sizes Other) (attended sizes quiets)
      (Follows sizes writer)
      ((driver request).lift .access) (Served sizes Other writer (.request request)) := by
  cases request with
  | write buffer size =>
      cases buffer with
      | none => exact write_null size
      | some array => exact write_serves array size allowed
  | writeIsBusy => exact writeIsBusy_serves
  | transmitComplete => exact transmitComplete_serves

theorem body_serves {Reply : Type} (call : WriterCall Buffer Other Reply)
    (allowed : permitted sizes quiets call writer) :
    Triple (board sizes Other) (attended sizes quiets)
      (Follows sizes writer) (writerBody call)
      (Finished (fun _ => False) (Served sizes Other writer call)) := by
  have returns (answer : Reply) : Triple (board sizes Other) (attended sizes quiets)
      (Served sizes Other writer call answer) (pure (some answer))
      (Finished (fun _ => False) (Served sizes Other writer call)) :=
    triple_pure (served_stable writer call answer) fun _ holds => holds
  cases call with
  | array call => exact triple_seq (array_serves call allowed) returns
  | request request => exact triple_seq (request_serves request allowed) returns
  | other call => exact triple_seq (other_serves call allowed) returns

/-- The UART on the board does for its callers what the writer does. -/
theorem writer_realizes (sizes : Buffer → Nat) (quiets : (Reply : Type) → Other Reply → Prop) :
    Realizes (writing sizes Other) (permitted sizes quiets) (board sizes Other)
      (attended sizes quiets) writerBody (fun _ => False) (Represents sizes) where
  waits := stable_fact False
  rests := by
    intro port next writer represents moved
    have follows := follows_driven port next (represents_follows represents) moved
    obtain ⟨last, drained, represents⟩ := follows_represents follows
    exact ⟨last, .single drained, represents⟩
  takes := by
    intro Reply call port writer allowed represents
    apply secured_mono (body_serves call allowed port (represents_follows represents))
    intro answer after finished
    cases answer with
    | none => exact finished
    | some value =>
        obtain ⟨next, taken, follows⟩ := finished
        obtain ⟨last, drained, represents⟩ := follows_represents follows
        exact ⟨last, taken_later taken (.single drained), represents⟩

end Realizes

end LoraNode.Usart
