import LoraNode.SpiExchange

/-!
# The handler of a transfer

Between two runs of `SERCOM1_SPI_InterruptHandler` a transfer is in one of three
phases: a word is sent for every reply, words are sent whenever DATA is empty, or
the last word is on its way. Every run of the handler keeps the phases and lowers
a rank, or it ends the transfer.
-/

namespace LoraNode.SpiMaster

open LoraNode.Foundation LoraNode.Foundation.Bytes LoraNode.Foundation.Program
  LoraNode.Foundation.Interference

structure Job where
  transmit : Option (List Byte)
  receive : Option (List Byte)
  txSize : Nat
  rxSize : Nat
  txFits : txSize ≤ (transmit.getD []).length
  rxFits : rxSize ≤ (receive.getD []).length
  some : 0 < txSize ∨ 0 < rxSize

namespace Job

variable (job : Job)

def out : List Byte :=
  (job.transmit.getD []).take job.txSize ++ List.replicate (job.rxSize - job.txSize) dummyWord

def stored (heard : List Byte) : Option (List Byte) :=
  job.receive.map fun memory =>
    heard.take job.rxSize ++ memory.drop (min heard.length job.rxSize)

/-- `sercom1SPIObj` once `count` words have been written. -/
def object (rxCount txCount count : Nat) (heard : List Byte) (last : Bool) : SpiObject where
  transferIsBusy := true
  txBuffer := job.transmit
  rxBuffer := job.stored heard
  txSize := job.txSize
  rxSize := job.rxSize
  dummySize := (job.rxSize - job.txSize) - (count - job.txSize)
  rxCount := rxCount
  txCount := txCount
  isLastByteTransferInProgress := last

inductive Phase where
  | paced
  | streamed
  | closing (listening : Bool)

def Phase.enabled : Phase → Interrupts
  | .paced => receiveComplete
  | .streamed => dataRegisterEmpty
  | .closing listening => ⟨false, true, listening⟩

def Phase.last : Phase → Bool
  | .paced => false
  | .streamed => false
  | .closing _ => true

/-- RXC is enabled, so no reply is missed. -/
def Phase.listens : Phase → Bool
  | .paced => true
  | .streamed => false
  | .closing listening => listening

def Fits (count : Nat) (heard : List Byte) : Phase → Prop
  | .paced => count = heard.length + 1 ∧ count ≤ job.out.length
  | .streamed => heard.length = job.rxSize ∧ count ≤ job.out.length
  | .closing true => count = job.out.length ∧ heard.length ≤ count ∧ count ≤ heard.length + 1
  | .closing false => count = job.out.length ∧ heard.length = job.rxSize

def rank (count : Nat) (heard : List Byte) : Phase → Nat
  | .paced => 2 * (job.out.length - count) + 3
  | .streamed => 2 * (job.out.length - count) + 2
  | .closing true => job.out.length - heard.length + 1
  | .closing false => 1

def rest (phase : Phase) (count : Nat) (heard : List Byte) : View where
  object := job.object (min heard.length job.rxSize) (min count job.txSize) count heard phase.last
  enabled := phase.enabled
  sent := job.out.take count
  heard := heard
  tracked := phase.listens = true
  unread := False
  empty := False
  complete := False

def ending (heard : List Byte) : View where
  object := { job.object job.rxSize job.txSize job.out.length heard false with
    transferIsBusy := false }
  enabled := noInterrupts
  sent := job.out
  heard := heard
  tracked := False
  unread := False
  empty := False
  complete := True

theorem out_length : job.out.length = job.txSize + (job.rxSize - job.txSize) := by
  rw [out, List.length_append, List.length_take, List.length_replicate,
    Nat.min_eq_left job.txFits]

theorem out_transmit {index : Nat} (inside : index < job.txSize) :
    (job.transmit.getD [])[index]? = job.out[index]? := by
  have bound := job.txFits
  have first : index < ((job.transmit.getD []).take job.txSize).length := by
    rw [List.length_take]
    omega
  rw [out, List.getElem?_append_left first, List.getElem?_take, if_pos inside]

theorem out_dummy {index : Nat} (outside : job.txSize ≤ index) (inside : index < job.out.length) :
    job.out[index]? = Option.some dummyWord := by
  have length := job.out_length
  have size : ((job.transmit.getD []).take job.txSize).length = job.txSize := by
    rw [List.length_take, Nat.min_eq_left job.txFits]
  rw [out, List.getElem?_append_right (by rw [size]; exact outside), size,
    List.getElem?_replicate, if_pos (by omega)]

theorem out_positive : 0 < job.out.length := by
  have length := job.out_length
  rcases job.some with sends | receives <;> omega

theorem out_snoc {count : Nat} {byte : Byte} (next : job.out[count]? = Option.some byte) :
    job.out.take count ++ [byte] = job.out.take (count + 1) := by
  rw [List.take_add_one, next]
  rfl

/-- A reply stored at its place extends what the buffer holds. -/
theorem stored_next {heard : List Byte} (reply : Byte) (room : heard.length < job.rxSize) :
    (job.stored heard).map (fun memory => memory.set heard.length reply) =
      job.stored (heard ++ [reply]) := by
  have bound := job.rxFits
  rw [stored, stored, Option.map_map]
  cases receive : job.receive with
  | none => rfl
  | some memory =>
      rw [receive, Option.getD_some] at bound
      have before : heard.take job.rxSize = heard := List.take_of_length_le (Nat.le_of_lt room)
      have after : (heard ++ [reply]).take job.rxSize = heard ++ [reply] := by
        apply List.take_of_length_le
        rw [List.length_append]
        exact room
      have size : min (heard ++ [reply]).length job.rxSize = heard.length + 1 := by
        rw [List.length_append, List.length_singleton]
        omega
      have left : memory.drop heard.length =
          memory[heard.length] :: memory.drop (heard.length + 1) :=
        List.drop_eq_getElem_cons (by omega)
      simp only [Option.map_some, Function.comp_apply]
      rw [before, after, size, Nat.min_eq_left (Nat.le_of_lt room),
        List.set_append_right _ _ (Nat.le_refl _), Nat.sub_self, left, List.append_assoc]
      rfl

theorem stored_nothing : job.stored [] = job.receive := by
  rw [stored]
  cases job.receive with
  | none => rfl
  | some memory =>
      rw [List.take_nil, List.length_nil, Nat.zero_min, Option.map_some, List.drop_zero,
        List.nil_append]

theorem stored_full {heard more : List Byte} (full : job.rxSize ≤ heard.length) :
    job.stored (heard ++ more) = job.stored heard := by
  have longer : job.rxSize ≤ (heard ++ more).length := by
    rw [List.length_append]
    omega
  rw [stored, stored, List.take_append_of_le_length full, Nat.min_eq_right full,
    Nat.min_eq_right longer]

theorem stored_take {heard : List Byte} (full : job.rxSize ≤ heard.length) :
    job.stored (heard.take job.rxSize) = job.stored heard := by
  have size : (heard.take job.rxSize).length = job.rxSize := by
    rw [List.length_take, Nat.min_eq_left full]
  rw [← job.stored_full (Nat.le_of_eq size.symm), List.take_append_drop]

theorem stored_length (heard : List Byte) :
    ((job.stored heard).getD []).length = (job.receive.getD []).length := by
  have bound := job.rxFits
  rw [stored]
  cases receive : job.receive with
  | none => rfl
  | some memory =>
      rw [receive] at bound
      simp only [Option.getD_some] at bound
      simp only [Option.map_some, Option.getD_some, List.length_append, List.length_take,
        List.length_drop]
      omega

end Job

variable {Chip : Type*} {Pin : Type → Type} {slave : Slave Chip Pin} {start : Chip}

section Receive

variable {view : View} {job : Job}

/-- What a look for a reply may add to `heard`. -/
structure Hears (view : View) (heard : List Byte) : Prop where
  grows : heard = view.heard ∨ view.tracked ∧ ∃ reply, heard = view.heard ++ [reply]
  reads : view.unread → view.tracked → heard.length = view.heard.length + 1

def View.received (view : View) (object : SpiObject) (heard : List Byte) : View :=
  { view with object := object, heard := heard, unread := False }

theorem received_weaker {view last : View} {heard : List Byte} {object : SpiObject}
    (flags : Interrupts) (objects : last.object = object)
    (rest : last = { view.observe flags with
      object := last.object, heard := heard, unread := last.unread }) :
    (view.received object heard).Weaker last := by
  rw [rest]
  refine ⟨objects.symm, rfl, rfl, List.prefix_rfl, fun given => ⟨given, rfl⟩, False.elim, ?_, ?_⟩
  · exact Or.inl
  · exact Or.inl

/-- A read of DATA adds its word to a tracked view and nothing to another. -/
theorem hears_word {heard : List Byte} {word : Byte}
    (hears : heard = view.heard ++ [word] ∧ view.tracked ∨ heard = view.heard ∧ ¬view.tracked) :
    Hears view heard := by
  constructor
  · rcases hears with ⟨extended, tracked⟩ | ⟨same, _⟩
    · exact .inr ⟨tracked, word, extended⟩
    · exact .inl same
  · intro _ tracked
    rcases hears with ⟨extended, _⟩ | ⟨_, untracked⟩
    · rw [extended, List.length_append]
      rfl
    · exact absurd tracked untracked

/-- Without RXC there is no word that has to be heard. -/
theorem hears_nothing {port : Port Chip} (clear : ¬port.flags.rxc = true)
    (holds : At slave start view port) : Hears view view.heard := by
  refine ⟨.inl rfl, ?_⟩
  intro unread _
  obtain ⟨words, _, told⟩ := holds.traffic
  have waiting := told.unread unread
  change ¬(!port.unread.isEmpty) = true at clear
  cases contents : port.unread with
  | nil => exact absurd contents waiting
  | cons first rest =>
      rw [contents] at clear
      exact absurd rfl clear

section Branches

variable {rxCount txCount count : Nat} {last : Bool} {flags : Interrupts} {heard : List Byte}
  {port : Port Chip} (object : view.object = job.object rxCount txCount count view.heard last)

include object

/-- The word is the next that there is room for. -/
theorem received_stored {word : Byte} (place : rxCount = view.heard.length)
    (room : view.heard.length < job.rxSize) (extended : heard = view.heard ++ [word])
    (holds : At slave start (((view.observe flags).hear heard).fill rxCount word) port) :
    At slave start (view.received (job.object rxCount txCount count heard last) heard) port := by
  apply at_weaken holds
  apply received_weaker flags
  · have next := job.stored_next word room
    rw [← extended, ← place] at next
    change { view.object with
      rxBuffer := view.object.rxBuffer.map fun memory : List Byte => memory.set rxCount word } = _
    rw [object, Job.object, Job.object, ← next]
  · rfl

/-- There is no room left, and the word is dropped. -/
theorem received_discarded (full : job.rxSize ≤ view.heard.length) (hears : Hears view heard)
    (holds : At slave start ((view.observe flags).hear heard) port) :
    At slave start (view.received (job.object rxCount txCount count heard last) heard) port := by
  have same : job.stored heard = job.stored view.heard := by
    rcases hears.grows with same | ⟨_, reply, extended⟩
    · rw [same]
    · rw [extended]
      exact job.stored_full full
  apply at_weaken holds
  apply received_weaker flags
  · change view.object = _
    rw [object, Job.object, Job.object, same]
  · rfl

theorem received_inside (place : rxCount = view.heard.length)
    (room : view.heard.length < job.rxSize) :
    rxCount < (((view.observe flags).hear heard).object.rxBuffer.getD []).length := by
  have fits := job.rxFits
  change rxCount < (view.object.rxBuffer.getD []).length
  rw [object]
  change rxCount < ((job.stored view.heard).getD []).length
  rw [job.stored_length]
  omega

end Branches

theorem receiveWord_hears (rxCount txCount count : Nat) (last : Bool)
    (object : view.object = job.object rxCount txCount count view.heard last)
    (counts : rxCount = min view.heard.length job.rxSize)
    (silent : view.tracked ∨ view.heard.length = job.rxSize) :
    Triple (sercom slave) sound (At slave start view) (receiveWord rxCount)
      fun answer port => ∃ heard, Hears view heard ∧ answer = min heard.length job.rxSize ∧
        At slave start (view.received (job.object rxCount txCount count heard last) heard)
          port := by
  have stable (answer : Nat) : Stable (sercom slave) fun port => ∃ heard,
      Hears view heard ∧ answer = min heard.length job.rxSize ∧
        At slave start (view.received (job.object rxCount txCount count heard last) heard) port :=
    stable_exists fun heard => stable_and (stable_fact _) (stable_and (stable_fact _) (at_stable _))
  rw [receiveWord]
  apply triple_seq intflag_reads
  intro flags
  apply triple_fact
  intro seen
  obtain ⟨moment, held, rfl⟩ := seen
  apply triple_ite
  · intro set
    apply triple_seq (data_reads (Or.inr set))
    intro word
    apply triple_exists
    intro heard
    apply triple_fact
    intro hears
    apply triple_seq object_reads
    intro read
    apply triple_fact
    intro same
    have size : read.rxSize = job.rxSize := by
      rw [same]
      change view.object.rxSize = _
      rw [object]
      rfl
    apply triple_ite
    · intro room
      rw [size] at room
      have short : view.heard.length < job.rxSize := by omega
      have extended : heard = view.heard ++ [word] := by
        rcases hears with ⟨extended, _⟩ | ⟨_, untracked⟩
        · exact extended
        · rcases silent with tracked | full
          · exact absurd tracked untracked
          · omega
      have place : rxCount = view.heard.length := by omega
      apply triple_seq (buffer_writes word (received_inside object place short))
      intro _
      refine triple_pure (stable _) ?_
      intro port holds
      refine ⟨heard, hears_word hears, ?_, received_stored object place short extended holds⟩
      rw [extended, List.length_append, List.length_singleton]
      omega
    · intro full
      rw [size] at full
      have long : job.rxSize ≤ view.heard.length := by omega
      refine triple_pure (stable _) ?_
      intro port holds
      have kept : Hears view heard := hears_word hears
      refine ⟨heard, kept, ?_, received_discarded object long kept holds⟩
      rcases kept.grows with same | ⟨_, reply, extended⟩
      · rw [same]
        exact counts
      · rw [extended, List.length_append, List.length_singleton]
        omega
  · intro clear
    refine triple_pure (stable _) ?_
    intro port holds
    refine ⟨view.heard, hears_nothing clear held, counts, ?_⟩
    apply at_weaken holds
    exact received_weaker moment.flags object rfl

end Receive

section Transmit

variable {view : View} {job : Job} {heard : List Byte}

theorem disable_off {enabled : Interrupts} (off : enabled.dre = false) :
    enabled.disable dataRegisterEmpty = enabled := by
  obtain ⟨dre, txc, rxc⟩ := enabled
  change dre = false at off
  rw [off]
  cases txc <;> cases rxc <;> rfl

def Job.next (job : Job) (count : Nat) : Nat := min (count + 1) job.out.length

def View.advanced (view : View) (object : SpiObject) (sent : List Byte) : View :=
  { view with object := object, sent := sent, empty := False, complete := False }

section Branches

variable {rxCount txCount count : Nat} {last : Bool} {port : Port Chip}
  (object : view.object = job.object rxCount txCount count heard last)
  (sent : view.sent = job.out.take count)

include object sent

/-- A byte of `txBuffer` leaves the dummies as many as they were. -/
theorem advanced_byte (inside : count < job.txSize) {byte : Byte}
    (found : job.out[count]? = some byte) (holds : At slave start (view.send byte) port) :
    At slave start (view.advanced (job.object rxCount txCount (count + 1) heard last)
      (job.out.take (count + 1))) port := by
  apply at_weaken holds
  refine ⟨?_, rfl, ?_, List.prefix_rfl, fun given => ⟨given, rfl⟩, id, id, id⟩
  · change job.object rxCount txCount (count + 1) heard last = view.object
    have dummies : job.rxSize - job.txSize - (count + 1 - job.txSize) =
        job.rxSize - job.txSize - (count - job.txSize) := by omega
    rw [object, Job.object, Job.object, dummies]
  · change _ = view.sent ++ [byte]
    rw [sent, job.out_snoc found]
    rfl

/-- A dummy is one less that is left. -/
theorem advanced_dummy (outside : job.txSize ≤ count)
    (found : job.out[count]? = some dummyWord)
    (holds : At slave start ((view.send dummyWord).store fun object =>
      { object with dummySize := object.dummySize - 1 }) port) :
    At slave start (view.advanced (job.object rxCount txCount (count + 1) heard last)
      (job.out.take (count + 1))) port := by
  apply at_weaken holds
  refine ⟨?_, rfl, ?_, List.prefix_rfl, fun given => ⟨given, rfl⟩, id, id, id⟩
  · change job.object rxCount txCount (count + 1) heard last =
      { view.object with dummySize := view.object.dummySize - 1 }
    have left : job.rxSize - job.txSize - (count + 1 - job.txSize) =
        job.rxSize - job.txSize - (count - job.txSize) - 1 := by omega
    rw [object, Job.object, Job.object, left]
  · change _ = view.sent ++ [dummyWord]
    rw [sent, job.out_snoc found]
    rfl

/-- Nothing is written once every word is. -/
theorem advanced_nothing (holds : At slave start view port) :
    At slave start (view.advanced (job.object rxCount txCount count heard last)
      (job.out.take count)) port := by
  apply at_weaken holds
  exact ⟨object.symm, rfl, sent.symm, List.prefix_rfl, fun given => ⟨given, rfl⟩, id, False.elim,
    False.elim⟩

end Branches

theorem next_inside {count : Nat} (inside : count < job.out.length) :
    job.next count = count + 1 := by
  rw [Job.next]
  omega

/-- DATA takes the next word when the last one has been heard. -/
theorem word_writes {count : Nat} (sent : view.sent = job.out.take count) (empty : view.empty)
    (paced : count < job.out.length → view.tracked → count ≤ view.heard.length)
    (inside : count < job.out.length) (byte : Byte) :
    Triple (sercom slave) sound (At slave start view) (access (.writeData byte))
      fun _ port => At slave start (view.send byte) port := by
  apply data_writes byte empty
  intro tracked
  have size : view.sent.length = count := by
    rw [sent, List.length_take]
    omega
  rw [size]
  exact paced inside tracked

theorem writeNext_writes (view : View) (rxCount txCount count : Nat) (last : Bool)
    (object : view.object = job.object rxCount txCount count heard last)
    (sent : view.sent = job.out.take count) (within : count ≤ job.out.length) (empty : view.empty)
    (paced : count < job.out.length → view.tracked → count ≤ view.heard.length) :
    Triple (sercom slave) sound (At slave start view) (writeNext (min count job.txSize))
      fun answer port => answer = min (job.next count) job.txSize ∧
        At slave start (view.advanced (job.object rxCount txCount (job.next count) heard last)
          (job.out.take (job.next count))) port := by
  have length := job.out_length
  have stable (answer : Nat) : Stable (sercom slave) fun port =>
      answer = min (job.next count) job.txSize ∧
        At slave start (view.advanced (job.object rxCount txCount (job.next count) heard last)
          (job.out.take (job.next count))) port := stable_and (stable_fact _) (at_stable _)
  rw [writeNext]
  apply triple_seq object_reads
  intro read
  apply triple_fact
  intro same
  rw [same, object]
  apply triple_ite
  · intro low
    change min count job.txSize < job.txSize at low
    have inside : count < job.out.length := by omega
    have found : job.out[count]? = some job.out[count] := List.getElem?_eq_getElem inside
    have place : min count job.txSize = count := by omega
    have holds : (view.object.txBuffer.getD [])[min count job.txSize]? = some job.out[count] := by
      rw [object, place]
      exact (job.out_transmit (by omega)).trans found
    apply triple_seq (buffer_reads holds)
    intro byte
    apply triple_fact
    intro same
    subst same
    apply triple_seq (word_writes sent empty paced inside _)
    intro _
    refine triple_pure (stable _) ?_
    intro port holds
    rw [next_inside inside, place]
    exact ⟨by omega, advanced_byte object sent (by omega) found holds⟩
  · intro high
    change ¬min count job.txSize < job.txSize at high
    have sends : min count job.txSize = job.txSize := by omega
    apply triple_seq object_reads
    intro again
    apply triple_fact
    intro same
    rw [same, object]
    apply triple_ite
    · intro dummies
      change job.rxSize - job.txSize - (count - job.txSize) > 0 at dummies
      have inside : count < job.out.length := by omega
      have found : job.out[count]? = some dummyWord := job.out_dummy (by omega) inside
      apply triple_seq (word_writes sent empty paced inside dummyWord)
      intro _
      apply triple_seq (store_stores _)
      intro _
      refine triple_pure (stable _) ?_
      intro port holds
      rw [next_inside inside, sends]
      exact ⟨by omega, advanced_dummy object sent (by omega) found holds⟩
    · intro none
      change ¬job.rxSize - job.txSize - (count - job.txSize) > 0 at none
      have all : job.next count = count := by
        rw [Job.next]
        omega
      refine triple_pure (stable _) ?_
      intro port holds
      rw [all]
      exact ⟨rfl, advanced_nothing object sent holds⟩

def View.chosen (view : View) (job : Job) (rxCount count : Nat) : View :=
  if count = job.out.length then
    view.store fun object => { object with isLastByteTransferInProgress := true }
  else if rxCount = job.rxSize then (view.enable dataRegisterEmpty).disable receiveComplete
  else view

theorem chooseInterrupt_chooses (view : View) (rxCount txCount rxStored txStored count : Nat)
    (last : Bool) (object : view.object = job.object rxStored txStored count heard last)
    (counts : txCount = min count job.txSize) (within : count ≤ job.out.length) :
    Triple (sercom slave) sound (At slave start view)
      (chooseInterrupt rxCount txCount job.txSize)
      fun _ port => At slave start (view.chosen job rxCount count) port := by
  have length := job.out_length
  rw [chooseInterrupt, counts]
  apply triple_seq object_reads
  intro read
  apply triple_fact
  intro same
  rw [same, object]
  apply triple_ite
  · intro all
    obtain ⟨dummies, sends⟩ := all
    change job.rxSize - job.txSize - (count - job.txSize) = 0 at dummies
    have whole : count = job.out.length := by omega
    rw [View.chosen, if_pos whole]
    exact store_stores _
  · intro some
    have part : count ≠ job.out.length := by
      intro whole
      apply some
      constructor
      · change job.rxSize - job.txSize - (count - job.txSize) = 0
        omega
      · omega
    rw [View.chosen, if_neg part]
    apply triple_seq object_reads
    intro again
    apply triple_fact
    intro same
    rw [same, object]
    apply triple_ite
    · intro full
      change rxCount = job.rxSize at full
      rw [if_pos full]
      apply triple_seq (intenset_sets dataRegisterEmpty)
      intro _
      exact intenclr_clears receiveComplete
    · intro more
      change rxCount ≠ job.rxSize at more
      rw [if_neg more]
      exact triple_pure (at_stable view) fun _ holds => holds

/-- DATA is empty at the flag, so a word that is left is written. -/
theorem transmitWord_writes (rxCount rxStored txStored count : Nat) (last : Bool)
    (object : view.object = job.object rxStored txStored count heard last)
    (sent : view.sent = job.out.take count) (within : count ≤ job.out.length)
    (paced : count < job.out.length → view.tracked → count ≤ view.heard.length)
    (free : ∀ port, At slave start view port → port.data = none) :
    Triple (sercom slave) sound (At slave start view)
      (transmitWord rxCount (min count job.txSize) job.txSize)
      fun answer port => answer = min (job.next count) job.txSize ∧ ∃ flags,
        At slave start ((((view.observe flags).disable dataRegisterEmpty).advanced
          (job.object rxStored txStored (job.next count) heard last)
          (job.out.take (job.next count))).chosen job rxCount (job.next count)) port := by
  have within' : job.next count ≤ job.out.length := Nat.min_le_right _ _
  rw [transmitWord]
  apply triple_seq intflag_reads
  intro flags
  apply triple_fact
  intro seen
  obtain ⟨moment, held, rfl⟩ := seen
  have set : moment.flags.dre = true := by
    have empty := free moment held
    change moment.data.isNone = true
    rw [empty]
    rfl
  apply triple_ite
  · intro _
    apply triple_seq (intenclr_clears dataRegisterEmpty)
    intro _
    apply triple_seq (writeNext_writes ((view.observe moment.flags).disable dataRegisterEmpty)
      rxStored txStored count last object sent within (Or.inr set) paced)
    intro answer
    apply triple_fact
    intro same
    subst same
    apply triple_seq (chooseInterrupt_chooses _ rxCount _ rxStored txStored _ last rfl rfl within')
    intro _
    refine triple_pure ?_ ?_
    · exact stable_and (stable_fact _) (stable_exists fun flags => at_stable _)
    · exact fun port holds => ⟨rfl, moment.flags, holds⟩
  · intro clear
    exact absurd set clear

theorem writeNext_rests (view : View) (rxCount txCount : Nat) (last : Bool)
    (object : view.object = job.object rxCount txCount job.out.length heard last) :
    Triple (sercom slave) sound (At slave start view) (writeNext job.txSize)
      fun answer port => answer = job.txSize ∧ At slave start view port := by
  have length := job.out_length
  rw [writeNext]
  apply triple_seq object_reads
  intro read
  apply triple_fact
  intro same
  rw [same, object]
  apply triple_ite
  · intro low
    exact absurd low (Nat.lt_irrefl _)
  · intro _
    apply triple_seq object_reads
    intro again
    apply triple_fact
    intro same
    rw [same, object]
    apply triple_ite
    · intro dummies
      change job.rxSize - job.txSize - (job.out.length - job.txSize) > 0 at dummies
      omega
    · intro _
      refine triple_pure (stable_and (stable_fact _) (at_stable view)) ?_
      exact fun port holds => ⟨rfl, holds⟩

/-- Nothing is left to send: whatever DRE shows, the view stays. -/
theorem transmitWord_rests (view : View) (rxCount rxStored txStored : Nat)
    (object : view.object = job.object rxStored txStored job.out.length heard true)
    (off : view.enabled.dre = false) :
    Triple (sercom slave) sound (At slave start view)
      (transmitWord rxCount (min job.out.length job.txSize) job.txSize)
      fun answer port => answer = job.txSize ∧ At slave start view port := by
  have length := job.out_length
  have sends : min job.out.length job.txSize = job.txSize := by omega
  have stable (answer : Nat) : Stable (sercom slave) fun port => answer = job.txSize ∧
      At slave start view port := stable_and (stable_fact _) (at_stable _)
  rw [transmitWord, sends]
  apply triple_seq intflag_reads
  intro flags
  apply triple_fact
  intro _
  apply triple_ite
  · intro set
    apply triple_seq (intenclr_clears dataRegisterEmpty)
    intro _
    apply triple_seq (writeNext_rests ((view.observe flags).disable dataRegisterEmpty)
      rxStored txStored true object)
    intro answer
    apply triple_fact
    intro same
    rw [same]
    apply triple_seq (chooseInterrupt_chooses ((view.observe flags).disable dataRegisterEmpty)
      rxCount job.txSize rxStored txStored job.out.length true object sends.symm (Nat.le_refl _))
    intro _
    refine triple_pure (stable _) ?_
    intro port holds
    refine ⟨rfl, at_weaken holds ?_⟩
    rw [View.chosen, if_pos rfl]
    refine ⟨?_, ?_, rfl, List.prefix_rfl, fun given => ⟨given, rfl⟩, Or.inl, Or.inl, Or.inl⟩
    · change view.object = { view.object with isLastByteTransferInProgress := true }
      rw [object]
      rfl
    · exact (disable_off off).symm
  · intro _
    refine triple_pure (stable _) ?_
    intro port holds
    refine ⟨rfl, at_weaken holds ?_⟩
    exact ⟨rfl, rfl, rfl, List.prefix_rfl, fun given => ⟨given, rfl⟩, Or.inl, Or.inl, Or.inl⟩

end Transmit

section Settle

variable {view : View} {job : Job}

theorem finish_open (rxCount : Nat) (going : view.object.isLastByteTransferInProgress = false) :
    Triple (sercom slave) sound (At slave start view) (finish rxCount)
      fun _ port => At slave start view.plain port := by
  rw [finish]
  apply triple_seq intflag_reads
  intro flags
  apply triple_fact
  intro _
  apply triple_seq object_reads
  intro read
  apply triple_fact
  intro same
  rw [same]
  apply triple_ite
  · intro ending
    have last : view.object.isLastByteTransferInProgress = true := ending.2
    rw [going] at last
    cases last
  · intro _
    refine triple_pure (at_stable _) ?_
    intro port holds
    apply at_weaken holds
    exact ⟨rfl, rfl, rfl, List.prefix_rfl, fun given => ⟨given, rfl⟩, False.elim, False.elim,
      False.elim⟩

theorem awaitLast_open (going : view.object.isLastByteTransferInProgress = false) :
    Triple (sercom slave) sound (At slave start view) awaitLast
      fun _ port => At slave start view port := by
  rw [awaitLast]
  apply triple_seq object_reads
  intro read
  apply triple_fact
  intro same
  rw [same, going]
  exact triple_pure (at_stable view) fun _ holds => holds

theorem awaitLast_last (last : view.object.isLastByteTransferInProgress = true) :
    Triple (sercom slave) sound (At slave start view) awaitLast
      fun _ port => At slave start (view.enable transmitComplete) port := by
  rw [awaitLast]
  apply triple_seq object_reads
  intro read
  apply triple_fact
  intro same
  rw [same, last]
  exact intenset_sets transmitComplete

/-- The transfer ends here if TXC is seen and every reply is in. -/
theorem finish_last (view : View) (txCount : Nat) (heard : List Byte)
    (object : view.object =
      job.object (min heard.length job.rxSize) txCount job.out.length heard true)
    (counts : txCount = job.txSize) (sent : view.sent = job.out) (known : view.heard = heard) :
    Triple (sercom slave) sound (At slave start view) (finish (min heard.length job.rxSize))
      fun _ port =>
        (job.rxSize ≤ heard.length ∧ At slave start (job.ending heard) port) ∨
          ¬(view.complete ∧ job.rxSize ≤ heard.length) ∧ At slave start view.plain port := by
  have stable : Stable (sercom slave) fun port =>
      (job.rxSize ≤ heard.length ∧ At slave start (job.ending heard) port) ∨
        ¬(view.complete ∧ job.rxSize ≤ heard.length) ∧ At slave start view.plain port :=
    stable_or (stable_and (stable_fact _) (at_stable _))
      (stable_and (stable_fact _) (at_stable _))
  rw [finish]
  apply triple_seq intflag_reads
  intro flags
  apply triple_fact
  intro seen
  obtain ⟨moment, held, rfl⟩ := seen
  apply triple_seq object_reads
  intro read
  apply triple_fact
  intro same
  have last : read.isLastByteTransferInProgress = true := by
    rw [same]
    change view.object.isLastByteTransferInProgress = true
    rw [object]
    rfl
  have size : (view.observe moment.flags).object.rxSize = job.rxSize := by
    change view.object.rxSize = job.rxSize
    rw [object]
    rfl
  have goes : (view.plain).Weaker (view.observe moment.flags) :=
    ⟨rfl, rfl, rfl, List.prefix_rfl, fun given => ⟨given, rfl⟩, False.elim, False.elim,
      False.elim⟩
  apply triple_ite
  · intro ending
    apply triple_seq object_reads
    intro again
    apply triple_fact
    intro same
    rw [same, size]
    apply triple_ite
    · intro full
      apply triple_seq (store_stores _)
      intro _
      apply triple_seq (intenclr_clears allInterrupts)
      intro _
      apply triple_mono (store_stores _) fun _ holds => holds
      intro _ port holds
      refine .inl ⟨by omega, at_weaken holds ?_⟩
      refine ⟨?_, ?_, sent.symm, ?_, False.elim, False.elim, False.elim, ?_⟩
      · change _ = { { view.object with transferIsBusy := false } with
          isLastByteTransferInProgress := false }
        rw [object, counts, full]
        rfl
      · change noInterrupts = view.enabled.disable allInterrupts
        obtain ⟨dre, txc, rxc⟩ := view.enabled
        cases dre <;> cases txc <;> cases rxc <;> rfl
      · rw [← known]
        exact List.prefix_rfl
      · exact fun _ => .inr ending.1
    · intro short
      refine triple_pure stable ?_
      intro port holds
      refine .inr ⟨?_, at_weaken holds goes⟩
      intro given
      omega
  · intro early
    refine triple_pure stable ?_
    intro port holds
    refine .inr ⟨?_, at_weaken holds goes⟩
    intro given
    obtain ⟨words, _, told⟩ := held.traffic
    have set : moment.flags.txc = true := told.complete given.1
    exact early ⟨set, last⟩

end Settle

end LoraNode.SpiMaster
