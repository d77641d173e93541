import LoraNode.Usart

/-!
# The handler of a transmission

A transmission takes its bytes from an array that nobody changes. What has left on
TX, the two registers behind it and the rest of the array are together what was
accepted, between any two accesses of the handler.
-/

namespace LoraNode.Usart

open LoraNode.Foundation LoraNode.Foundation.Bytes LoraNode.Foundation.Program
  LoraNode.Foundation.Interference LoraNode.Foundation.Buffers

variable {Buffer : Type}

structure View (Buffer : Type) where
  object : UsartObject Buffer
  enabled : Interrupts
  memory : Memory Buffer
  /-- Has left on TX for certain. -/
  before : List Byte
  accepted : List Byte
  /-- Was accepted and is not yet in DATA. -/
  rest : List Byte
  /-- DATA was seen empty. -/
  empty : Prop

structure At (view : View Buffer) (port : Port Buffer) : Prop where
  object : port.object = view.object
  enabled : port.enabled = view.enabled
  memory : port.memory = view.memory
  left : view.before <+: port.out
  carried : port.out ++ port.shift.toList ++ port.data.toList ++ view.rest = view.accepted
  settled : port.txc = true → port.shift = none ∧ port.data = none
  empty : view.empty → port.data = none

theorem at_stable (view : View Buffer) : Stable sercom (At view) := by
  intro port next holds moved
  cases moved with
  | load byte written idle =>
      have busy : ¬port.txc = true := by
        intro complete
        rw [(holds.settled complete).2] at written
        exact nomatch written
      refine ⟨holds.object, holds.enabled, holds.memory, holds.left, ?_, ?_, fun _ => rfl⟩
      · have carried := holds.carried
        rw [idle, written] at carried
        simpa using carried
      · exact fun complete => absurd complete busy
  | shifted byte loaded =>
      have carried := holds.carried
      rw [loaded] at carried
      refine ⟨holds.object, holds.enabled, holds.memory, ?_, ?_, ?_, holds.empty⟩
      · exact holds.left.trans (List.prefix_append _ _)
      · simpa using carried
      · intro complete
        refine ⟨rfl, ?_⟩
        rcases Bool.or_eq_true_iff.mp complete with before | emptied
        · exact (holds.settled before).2
        · exact Option.isNone_iff_eq_none.mp emptied
  | fault =>
      exact ⟨holds.object, holds.enabled, holds.memory, holds.left, holds.carried, holds.settled,
        holds.empty⟩

section Accesses

variable {sizes : Buffer → Nat} {view : View Buffer}

theorem object_reads :
    Triple sercom (sound sizes) (At view) (access .object) fun answer port =>
      answer = view.object ∧ At view port := by
  apply triple_perform (at_stable view) fun _ => stable_and (stable_fact _) (at_stable view)
  · exact fun _ _ => trivial
  · intro port answer after holds answered
    obtain ⟨rfl, rfl⟩ := answered
    exact ⟨holds.object, holds⟩

theorem intenset_reads :
    Triple sercom (sound sizes) (At view) (access .intenset) fun answer port =>
      answer = view.enabled ∧ At view port := by
  apply triple_perform (at_stable view) fun _ => stable_and (stable_fact _) (at_stable view)
  · exact fun _ _ => trivial
  · intro port answer after holds answered
    obtain ⟨rfl, rfl⟩ := answered
    exact ⟨holds.enabled, holds⟩

def View.seen (view : View Buffer) (flags : Interrupts) : View Buffer :=
  { view with empty := view.empty ∨ flags.dre = true }

theorem intflag_reads :
    Triple sercom (sound sizes) (At view) (access .intflag) fun flags port =>
      (view.empty → flags.dre = true) ∧ At (view.seen flags) port := by
  apply triple_perform (at_stable view) fun flags =>
    stable_and (stable_fact _) (at_stable (view.seen flags))
  · exact fun _ _ => trivial
  · intro port answer after holds answered
    obtain ⟨rfl, rfl⟩ := answered
    refine ⟨fun empty => Option.isNone_iff_eq_none.mpr (holds.empty empty), ?_⟩
    refine ⟨holds.object, holds.enabled, holds.memory, holds.left, holds.carried, holds.settled, ?_⟩
    rintro (empty | seen)
    · exact holds.empty empty
    · exact Option.isNone_iff_eq_none.mp seen

def View.stored (view : View Buffer) (object : UsartObject Buffer) : View Buffer :=
  { view with object := object }

theorem object_stores {change : UsartObject Buffer → UsartObject Buffer}
    (object : UsartObject Buffer) (changed : change view.object = object) :
    Triple sercom (sound sizes) (At view) (access (.store change)) fun _ =>
      At (view.stored object) := by
  apply triple_perform (at_stable view) fun _ => at_stable _
  · exact fun _ _ => trivial
  · intro port answer after holds answered
    obtain rfl := answered
    exact ⟨(congrArg change holds.object).trans changed, holds.enabled, holds.memory, holds.left,
      holds.carried, holds.settled, holds.empty⟩

theorem intenset_sets (mask : Interrupts) :
    Triple sercom (sound sizes) (At view) (access (.setIntenset mask)) fun _ =>
      At { view with enabled := view.enabled.enable mask } := by
  apply triple_perform (at_stable view) fun _ => at_stable _
  · exact fun _ _ => trivial
  · intro port answer after holds answered
    obtain rfl := answered
    exact ⟨holds.object, congrArg (Interrupts.enable · mask) holds.enabled, holds.memory,
      holds.left, holds.carried, holds.settled, holds.empty⟩

theorem intenclr_clears (mask : Interrupts) :
    Triple sercom (sound sizes) (At view) (access (.setIntenclr mask)) fun _ =>
      At { view with enabled := view.enabled.disable mask } := by
  apply triple_perform (at_stable view) fun _ => at_stable _
  · exact fun _ _ => trivial
  · intro port answer after holds answered
    obtain rfl := answered
    exact ⟨holds.object, congrArg (Interrupts.disable · mask) holds.enabled, holds.memory,
      holds.left, holds.carried, holds.settled, holds.empty⟩

theorem source_reads {array : Buffer} {index : Nat} {value : Byte} (inside : index < sizes array)
    (known : view.memory array index = some value) :
    Triple sercom (sound sizes) (At view) (access (.readTx (some array) index)) fun answer port =>
      answer = value ∧ At view port := by
  apply triple_perform (at_stable view) fun _ => stable_and (stable_fact _) (at_stable view)
  · intro port holds
    refine ⟨array, rfl, inside, ?_⟩
    rw [holds.memory, known]
    rfl
  · intro port answer after holds answered
    obtain ⟨found, rfl⟩ := answered
    refine ⟨found value ?_, holds⟩
    rw [Option.bind_some, holds.memory]
    exact known

def View.wrote (view : View Buffer) (rest : List Byte) : View Buffer :=
  { view with rest := rest, empty := False }

theorem data_writes {byte : Byte} {rest : List Byte} (empty : view.empty)
    (next : view.rest = byte :: rest) :
    Triple sercom (sound sizes) (At view) (access (.writeData byte)) fun _ =>
      At (view.wrote rest) := by
  apply triple_perform (at_stable view) fun _ => at_stable _
  · exact fun port holds => holds.empty empty
  · intro port answer after holds answered
    obtain rfl := answered
    have carried := holds.carried
    rw [holds.empty empty, next] at carried
    refine ⟨holds.object, holds.enabled, holds.memory, holds.left, ?_, nofun, False.elim⟩
    simpa [Port.written, View.wrote] using carried

end Accesses

/-- Less may be known of DATA. -/
theorem at_weaken {view last : View Buffer} {port : Port Buffer} (holds : At view port)
    (same : last = { view with empty := last.empty }) (weaker : last.empty → view.empty) :
    At last port := by
  rw [same]
  exact ⟨holds.object, holds.enabled, holds.memory, holds.left, holds.carried, holds.settled,
    fun given => holds.empty (weaker given)⟩

section Source

def bytesOf (memory : Memory Buffer) (array : Buffer) (size : Nat) : List Byte :=
  (List.range size).map fun index => (memory array index).getD 0

def Readable (sizes : Buffer → Nat) (memory : Memory Buffer) (array : Buffer) (size : Nat) : Prop :=
  size ≤ sizes array ∧ ∀ index < size, (memory array index).isSome

variable {sizes : Buffer → Nat} {memory : Memory Buffer} {array : Buffer} {size : Nat}

@[simp] theorem bytesOf_length : (bytesOf memory array size).length = size := by
  simp [bytesOf]

theorem bytesOf_drop {index : Nat} {value : Byte} (inside : index < size)
    (known : memory array index = some value) :
    (bytesOf memory array size).drop index =
      value :: (bytesOf memory array size).drop (index + 1) := by
  have bound : index < (bytesOf memory array size).length := by
    rw [bytesOf_length]
    exact inside
  rw [List.drop_eq_getElem_cons bound]
  simp [bytesOf, known]

/-- The bytes of an array depend on nothing else. -/
theorem bytesOf_same {other : Memory Buffer} (same : other array = memory array) :
    bytesOf other array size = bytesOf memory array size := by
  simp only [bytesOf, same]

theorem readable_same {other : Memory Buffer} (same : other array = memory array)
    (readable : Readable sizes memory array size) : Readable sizes other array size := by
  rw [Readable, same]
  exact readable

end Source

section Transfer

variable {sizes : Buffer → Nat} {memory : Memory Buffer} {before accepted : List Byte}

def sending (object : UsartObject Buffer) (enabled : Interrupts) (memory : Memory Buffer)
    (before accepted : List Byte) (array : Buffer) (size index : Nat) : View Buffer where
  object := object
  enabled := enabled
  memory := memory
  before := before
  accepted := accepted
  rest := (bytesOf memory array size).drop index
  empty := False

def resting (object : UsartObject Buffer) (memory : Memory Buffer)
    (before accepted : List Byte) : View Buffer where
  object := object
  enabled := noInterrupts
  memory := memory
  before := before
  accepted := accepted
  rest := []
  empty := False

variable {object : UsartObject Buffer} {enabled : Interrupts} {array : Buffer} {size : Nat}

/-- The next byte goes from the array to DATA. -/
theorem source_writes {Result : Type} {index : Nat} {post : Result → Port Buffer → Prop}
    (readable : Readable sizes memory array size) (inside : index < size) {flags : Interrupts}
    (seen : flags.dre = true) {next : Driver Buffer Result}
    (later : Triple sercom (sound sizes)
      (At (sending object enabled memory before accepted array size (index + 1))) next post) :
    Triple sercom (sound sizes)
      (At ((sending object enabled memory before accepted array size index).seen flags))
      (do
        let byte ← access (.readTx (some array) index)
        access (.writeData byte)
        next) post := by
  obtain ⟨value, known⟩ := Option.isSome_iff_exists.mp (readable.2 index inside)
  apply triple_seq (source_reads (Nat.lt_of_lt_of_le inside readable.1) known)
  intro byte
  apply triple_fact
  rintro rfl
  have empty :
      ((sending object enabled memory before accepted array size index).seen flags).empty :=
    .inr seen
  apply triple_seq (data_writes empty (bytesOf_drop inside known))
  exact fun _ => later

/-- With DATA empty at least one byte is sent, if there is one. -/
structure Advances (size index : Nat) (flags : Interrupts) (processed : Nat) : Prop where
  within : processed ≤ size
  kept : index ≤ processed
  further : flags.dre = true → index < size → index < processed

/-- The loop of the handler goes on from the byte it has come to. -/
theorem refill_sends (readable : Readable sizes memory array size)
    (source : object.txBuffer = some array) (sized : object.txSize = size) (left index : Nat)
    (rounds : left = size - index) (within : index ≤ size) (flags : Interrupts) :
    Triple sercom (sound sizes)
      (At ((sending object enabled memory before accepted array size index).seen flags))
      (refill index flags.dre (decide (index < size)) left)
      fun answer port => Advances size index flags answer ∧
        At (sending object enabled memory before accepted array size answer) port := by
  have stable {index : Nat} {flags : Interrupts} (answer : Nat) : Stable sercom fun port =>
      Advances size index flags answer ∧
        At (sending object enabled memory before accepted array size answer) port :=
    stable_and (stable_fact _) (at_stable _)
  induction left generalizing index flags with
  | zero =>
      refine triple_pure (stable index) fun _ holds => ⟨⟨within, Nat.le_refl index, ?_⟩, ?_⟩
      · exact fun _ inside => absurd inside (by omega)
      · exact at_weaken holds rfl False.elim
  | succ left induction =>
      have inside : index < size := by omega
      rw [refill]
      apply triple_ite
      · intro goes
        have seen : flags.dre = true := (Bool.and_eq_true_iff.mp goes).1
        apply triple_seq object_reads
        intro read
        apply triple_fact
        intro same
        have same : read.txBuffer = some array := same ▸ source
        rw [same]
        apply source_writes readable inside seen
        apply triple_seq object_reads
        intro read
        apply triple_fact
        intro same
        have same : read.txSize = size := same ▸ sized
        rw [same]
        apply triple_seq intflag_reads
        intro again
        apply triple_fact
        intro _
        apply triple_mono (induction (index + 1) (by omega) inside again) fun _ holds => holds
        intro answer port holds
        obtain ⟨advances, holds⟩ := holds
        have kept := advances.kept
        exact ⟨⟨advances.within, by omega, fun _ _ => kept⟩, holds⟩
      · intro stops
        refine triple_pure (stable index) fun _ holds => ⟨⟨within, Nat.le_refl index, ?_⟩, ?_⟩
        · intro seen _
          rw [seen, decide_eq_true inside] at stops
          exact absurd rfl stops
        · exact at_weaken holds rfl False.elim

end Transfer

def transferring (array : Buffer) (size index : Nat) : UsartObject Buffer :=
  ⟨some array, size, index, true⟩

def moving (memory : Memory Buffer) (before accepted : List Byte) (array : Buffer)
    (size index : Nat) : View Buffer :=
  sending (transferring array size index) dataRegisterEmpty memory before accepted array size index

/-- Between two runs of the handler: idle, or on the way with a transfer from `busy`, which
so many runs end. -/
def Resting (sizes : Buffer → Nat) (memory : Memory Buffer) (before accepted : List Byte)
    (runs : Nat) (busy : Option Buffer) (port : Port Buffer) : Prop :=
  match busy with
  | none => ∃ object, object.txBusyStatus = false ∧ At (resting object memory before accepted) port
  | some array => ∃ size index, (index ≤ size ∧ size < index + runs ∧
      Readable sizes memory array size) ∧ At (moving memory before accepted array size index) port

def Rests (sizes : Buffer → Nat) (memory : Memory Buffer) (before accepted : List Byte)
    (runs : Nat) (most : Option Buffer) (port : Port Buffer) : Prop :=
  ∃ busy, (busy = none ∨ busy = most) ∧ Resting sizes memory before accepted runs busy port

section Rests

variable {sizes : Buffer → Nat} {memory : Memory Buffer} {before accepted : List Byte}
  {runs : Nat} {busy : Option Buffer} {port : Port Buffer}

theorem resting_stable : Stable sercom (Resting sizes memory before accepted runs busy) := by
  cases busy with
  | none => exact stable_exists fun _ => stable_and (stable_fact _) (at_stable _)
  | some array =>
      exact stable_exists fun _ => stable_exists fun _ => stable_and (stable_fact _) (at_stable _)

theorem rests_stable : Stable sercom (Rests sizes memory before accepted runs busy) :=
  stable_exists fun _ => stable_and (stable_fact _) resting_stable

theorem rests_mono {more : Nat} (fewer : runs ≤ more)
    (rests : Rests sizes memory before accepted runs busy port) :
    Rests sizes memory before accepted more busy port := by
  obtain ⟨found, most, rests⟩ := rests
  refine ⟨found, most, ?_⟩
  cases found with
  | none => exact rests
  | some array =>
      obtain ⟨size, index, ⟨within, ends, readable⟩, holds⟩ := rests
      exact ⟨size, index, ⟨within, by omega, readable⟩, holds⟩

/-- Without an interrupt enabled nothing is requested. -/
theorem off_silent (off : port.enabled = noInterrupts) : ¬port.requests := by
  rw [Port.requests, off]
  simp [noInterrupts]

theorem idle_silent (rests : Resting sizes memory before accepted runs none port) :
    ¬port.requests := by
  obtain ⟨object, _, holds⟩ := rests
  exact off_silent holds.enabled

theorem rests_requested (asked : port.requests)
    (rests : Rests sizes memory before accepted runs busy port) :
    ∃ array, busy = some array ∧
      Resting sizes memory before accepted runs (some array) port := by
  obtain ⟨found, most, rests⟩ := rests
  cases found with
  | none => exact absurd asked (idle_silent rests)
  | some array =>
      rcases most with none | same
      · exact nomatch none
      · exact ⟨array, same.symm, rests⟩

end Rests

section Handler

variable {sizes : Buffer → Nat} {memory : Memory Buffer} {before accepted : List Byte}
  {array : Buffer} {size index runs : Nat}

theorem endTransfer_rests (readable : Readable sizes memory array size) (within : index ≤ size)
    (ends : index < size → size < index + runs) :
    Triple sercom (sound sizes) (At (moving memory before accepted array size index))
      (endTransfer index) fun _ => Rests sizes memory before accepted runs (some array) := by
  rw [endTransfer]
  apply triple_seq object_reads
  intro read
  apply triple_fact
  intro same
  have same : read.txSize = size := congrArg UsartObject.txSize same
  rw [same]
  apply triple_ite
  · intro ended
    have nothing : (bytesOf memory array size).drop index = [] := by
      rw [List.drop_eq_nil_iff, bytesOf_length]
      exact ended
    apply triple_seq (object_stores ⟨some array, size, index, false⟩ rfl)
    intro _
    apply triple_seq (object_stores ⟨some array, 0, index, false⟩ rfl)
    intro _
    apply triple_mono (intenclr_clears dataRegisterEmpty) fun _ holds => holds
    intro _ port holds
    refine ⟨none, .inl rfl, ⟨some array, 0, index, false⟩, rfl, holds.object, holds.enabled,
      holds.memory, holds.left, ?_, holds.settled, False.elim⟩
    have carried : port.out ++ port.shift.toList ++ port.data.toList ++
        (bytesOf memory array size).drop index = accepted := holds.carried
    rw [nothing] at carried
    exact carried
  · intro goes
    refine triple_pure rests_stable ?_
    exact fun port holds =>
      ⟨some array, .inr rfl, size, index, ⟨within, ends (by omega), readable⟩, holds⟩

def entered (memory : Memory Buffer) (before accepted : List Byte) (array : Buffer)
    (size index : Nat) : View Buffer :=
  { moving memory before accepted array size index with empty := True }

theorem isrTxHandler_rests (readable : Readable sizes memory array size) (within : index ≤ size)
    (ends : size < index + (runs + 1)) :
    Triple sercom (sound sizes) (At (entered memory before accepted array size index))
      isrTxHandler fun _ => Rests sizes memory before accepted runs (some array) := by
  have reads : Triple sercom (sound sizes) (At (entered memory before accepted array size index))
      (access .object) fun answer port => answer = transferring array size index ∧
        At (entered memory before accepted array size index) port := object_reads
  have busy : (transferring array size index).txBusyStatus = true := rfl
  rw [isrTxHandler]
  apply triple_seq reads
  intro read
  apply triple_fact
  rintro rfl
  rw [if_pos busy]
  apply triple_seq reads
  intro read
  apply triple_fact
  rintro rfl
  apply triple_seq reads
  intro read
  apply triple_fact
  rintro rfl
  apply triple_seq intflag_reads
  intro flags
  apply triple_fact
  intro seen
  have sends : Triple sercom (sound sizes)
      (At ((moving memory before accepted array size index).seen flags))
      (refill index flags.dre (decide (index < size)) (size - index)) fun processed port =>
        Advances size index flags processed ∧
          At (sending (transferring array size index) dataRegisterEmpty memory before accepted array
            size processed) port :=
    refill_sends readable rfl rfl (size - index) index rfl within flags
  have known (port : Port Buffer)
      (holds : At ((entered memory before accepted array size index).seen flags) port) :
      At ((moving memory before accepted array size index).seen flags) port :=
    at_weaken holds rfl fun _ => .inl trivial
  apply triple_seq (triple_pre sends known)
  intro processed
  apply triple_fact
  intro advances
  have kept := advances.kept
  apply triple_seq (object_stores (transferring array size processed) rfl)
  intro _
  apply endTransfer_rests readable advances.within
  intro more
  have further := advances.further (seen trivial) (by omega)
  omega

/-- A run of the handler goes on with the transfer or ends it. -/
theorem handler_lowers (runs : Nat) (most : Option Buffer) :
    Triple sercom (sound sizes)
      (fun port => port.requests ∧ Rests sizes memory before accepted (runs + 1) most port)
      interruptHandler fun _ => Rests sizes memory before accepted runs most := by
  intro port holds
  obtain ⟨asked, rests⟩ := holds
  obtain ⟨array, rfl, size, index, ⟨within, ends, readable⟩, holds⟩ := rests_requested asked rests
  have empty : port.data = none := by
    have off : port.enabled = dataRegisterEmpty := holds.enabled
    rw [Port.requests, off] at asked
    simpa [dataRegisterEmpty, Port.flags] using asked
  have runs : Triple sercom (sound sizes) (At (entered memory before accepted array size index))
      interruptHandler fun _ => Rests sizes memory before accepted runs (some array) := by
    have armed : ¬dataRegisterEmpty = noInterrupts := by decide
    rw [interruptHandler]
    apply triple_seq intenset_reads
    intro enabled
    apply triple_fact
    rintro rfl
    rw [if_neg (show ¬(entered memory before accepted array size index).enabled = _ from armed)]
    apply triple_seq intflag_reads
    intro flags
    apply triple_fact
    intro _
    apply triple_seq intenset_reads
    intro enabled
    apply triple_fact
    intro same
    have silent : ¬(enabled.error && flags.error) = true := by
      rw [same]
      exact Bool.false_ne_true
    simp only [if_neg silent]
    apply triple_seq intflag_reads
    intro flags
    apply triple_fact
    intro seen
    apply triple_seq intenset_reads
    intro enabled
    apply triple_fact
    intro same
    have open' : (enabled.dre && flags.dre) = true := by
      rw [same, seen (.inl trivial)]
      rfl
    rw [if_pos open']
    apply triple_pre (isrTxHandler_rests readable within ends)
    exact fun _ holds => at_weaken holds rfl fun _ => .inl (.inl trivial)
  exact runs port ⟨holds.object, holds.enabled, holds.memory, holds.left, holds.carried,
    holds.settled, fun _ => empty⟩

theorem handler_rests (runs : Nat) (most : Option Buffer) :
    Triple sercom (sound sizes)
      (fun port => port.requests ∧ Rests sizes memory before accepted runs most port)
      interruptHandler fun _ => Rests sizes memory before accepted runs most := by
  intro port holds
  cases runs with
  | zero =>
      obtain ⟨array, _, size, index, ⟨within, ends, _⟩, _⟩ := rests_requested holds.1 holds.2
      omega
  | succ runs =>
      apply secured_mono (handler_lowers runs most port holds)
      exact fun _ _ rests => rests_mono (Nat.le_succ runs) rests

end Handler

end LoraNode.Usart
