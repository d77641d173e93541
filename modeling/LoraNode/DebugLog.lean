import LoraNode.FrameLogging
import LoraNode.UsartWriter

/-!
# Lines on the UART

`DEBUG_LOG_Printf` formats into its static array while no transfer reads from it,
and hands the array over. Whatever the rest of the line does, the bytes that are
accepted are the text, or nothing.
-/

namespace LoraNode.FrameLog

open LoraNode.Foundation LoraNode.Foundation.Bytes LoraNode.Foundation.Program
  LoraNode.Foundation.Interference LoraNode.Foundation.Buffers LoraNode.Foundation.Text
  LoraNode.FrameLine LoraNode.Usart

/-- `vsnprintf` of a format that stands for this text. -/
def formatText (text : List Byte) : Logger Nat := do
  storeAll .transfer 0 (text.take (debugLogCapacity - 1) ++ [0])
  return text.length

/-- `DEBUG_LOG_Printf`, with what it calls to format. -/
def logging (format : Logger Nat) : Program LogCall LogReturn := do
  let attempts ← waitForWriter debugLogWaitAttempts
  if attempts = 0 then return .stillBusy
  else
    let length ← format.lift Sum.inl
    if length ≤ 0 ∨ debugLogCapacity ≤ length then return .dropped
    else if !(← perform (Sum.inr (.write length))) then return .refused
    else
      let attempts ← waitForWriter attempts
      if attempts = 0 then return .stalled else return .sent

theorem debugLogPrintf_logging : debugLogPrintf = logging (formatString debugLogCapacity) := rfl

def LogReturn.accepts : LogReturn → Bool
  | .stalled => true
  | .sent => true
  | _ => false

variable {Other : Type → Type}

def toWriter {Reply : Type} : LogCall Reply → WriterCall LogBuffer Other Reply
  | .inl call => .array call
  | .inr .writeIsBusy => .request .writeIsBusy
  | .inr (.write length) => .request (.write (some .transfer) length)

section Apart

abbrev Leaves {Reply : Type} (call : ArrayCall LogBuffer Reply) : Prop :=
  Apart call (some LogBuffer.transfer)

theorem load_leaves (buffer : LogBuffer) (index : Nat) : (load buffer index).Only Leaves :=
  only_perform trivial

theorem store_leaves {buffer : LogBuffer} (other : buffer ≠ .transfer) (index : Nat)
    (value : Byte) : (store buffer index value).Only Leaves := by
  apply only_perform
  intro same
  exact other (Option.some.inj same).symm

theorem storeAll_leaves {buffer : LogBuffer} (other : buffer ≠ .transfer) (bytes : List Byte)
    (offset : Nat) : (storeAll buffer offset bytes).Only Leaves := by
  induction bytes generalizing offset with
  | nil => exact only_pure ()
  | cons byte rest induction =>
      exact only_bind (store_leaves other offset byte) fun _ => induction (offset + 1)

theorem reverseDigits_leaves (value : BitVec 32) (count : Nat) :
    (reverseDigits value count).Only Leaves := by
  rw [reverseDigits]
  apply only_bind (store_leaves (by decide) _ _)
  intro _
  split_ifs with more
  · exact reverseDigits_leaves (value / 10) (count + 1)
  · exact only_pure _
termination_by value.toNat
decreasing_by
  rw [Ne, ← BitVec.toNat_inj, quotient_toNat] at more
  rw [quotient_toNat]
  simp at more
  omega

theorem appendReversed_leaves (destination count : Nat) :
    (appendReversed destination count).Only Leaves := by
  induction count generalizing destination with
  | zero => exact only_pure _
  | succ count induction =>
      apply only_bind (load_leaves _ _)
      intro digit
      apply only_bind (store_leaves (by decide) _ _)
      exact fun _ => induction (destination + 1)

theorem appendHexByte_leaves (destination : Nat) (value : Byte) :
    (appendHexByte destination value).Only Leaves := by
  apply only_bind (load_leaves _ _)
  intro high
  apply only_bind (store_leaves (by decide) _ _)
  intro _
  apply only_bind (load_leaves _ _)
  intro low
  exact only_bind (store_leaves (by decide) _ _) fun _ => only_pure _

theorem appendFrame_leaves (frameLength cursor index : Nat) :
    (appendFrame frameLength cursor index).Only Leaves := by
  rw [appendFrame]
  by_cases inside : index < frameLength
  · rw [if_pos inside]
    apply only_bind (load_leaves _ _)
    intro byte
    apply only_bind (appendHexByte_leaves _ _)
    intro cursor
    apply only_ite
    · apply only_bind (store_leaves (by decide) _ _)
      exact fun _ => appendFrame_leaves frameLength (cursor + 1) (index + 1)
    · exact appendFrame_leaves frameLength cursor (index + 1)
  · rw [if_neg inside]
    exact only_pure _
termination_by frameLength - index

theorem appendText_leaves (cursor : Nat) (text : List Byte) :
    (appendText cursor text).Only Leaves :=
  only_bind (storeAll_leaves (by decide) _ _) fun _ => only_pure _

/-- The line is built in the caller's own arrays. -/
theorem formatFrame_leaves (direction : List Byte) (frameLength : Nat) :
    (formatFrame direction frameLength).Only Leaves := by
  apply only_bind (appendText_leaves _ _)
  intro cursor
  apply only_bind (appendText_leaves _ _)
  intro cursor
  apply only_bind (appendText_leaves _ _)
  intro cursor
  apply only_bind
  · apply only_bind (reverseDigits_leaves _ _)
    exact fun count => appendReversed_leaves cursor count
  intro cursor
  apply only_bind (appendText_leaves _ _)
  intro cursor
  apply only_bind (appendFrame_leaves _ _ _)
  exact fun cursor => storeAll_leaves (by decide) _ _

end Apart

section Writing

variable {sizes larger : LogBuffer → Nat} {quiets : (Reply : Type) → Other Reply → Prop}
  {accepted text : List Byte} {most : Option LogBuffer} {memory after : Memory LogBuffer}

/-- The arrays are known this far, this was accepted, and only `most` may be in use. -/
structure Knows (accepted : List Byte) (most : Option LogBuffer) (memory : Memory LogBuffer)
    (writer : Writer LogBuffer) : Prop where
  known : Known memory writer.memory
  accepted : writer.accepted = accepted
  busy : writer.busy = none ∨ writer.busy = most

theorem knows_stable : Stable (writing sizes Other) (Knows accepted most memory) := by
  intro writer next holds drained
  refine ⟨drained.memory ▸ holds.known, drained.accepted.trans holds.accepted, ?_⟩
  rcases drained.busy with none | same
  · exact .inl none
  · exact same ▸ holds.busy

theorem knows_mono {writer : Writer LogBuffer} {less : Memory LogBuffer}
    (holds : Knows accepted none memory writer) (known : Known less memory) :
    Knows accepted most less writer :=
  ⟨known_trans known holds.known, holds.accepted, .inl (holds.busy.elim id id)⟩

/-- Where the arrays of a program are apart from the transfer it does what it does
on its own. -/
theorem secured_writes {Result : Type} {program : Logger Result} {result : Result}
    (room : ∀ buffer, sizes buffer ≤ larger buffer)
    (apart : program.Only fun call => Apart call most) {writer : Writer LogBuffer}
    (holds : Knows accepted most memory writer)
    (secured : Secured (arrays sizes) (defined sizes) program
      (fun found state => found = result ∧ state = after) memory) :
    Secured (writing larger Other) (permitted larger quiets) (program.lift .array)
      (fun found writer => found = result ∧ Knows accepted most after writer) writer := by
  induction program generalizing memory writer with
  | done value =>
      intro later disturbed
      obtain ⟨rfl, rfl⟩ := secured memory .refl
      exact ⟨rfl, stable_disturbed knows_stable holds disturbed⟩
  | ask call next induction =>
      intro later disturbed
      have still := stable_disturbed knows_stable holds disturbed
      obtain ⟨inside, answers⟩ := secured memory .refl
      constructor
      · refine ⟨known_defined room still.known inside, ?_⟩
        rcases still.busy with none | same
        · rw [none]
          cases call with
          | store => exact nofun
          | load => trivial
          | lend => trivial
        · rw [same]
          exact apart.1
      · intro answer last answered
        obtain ⟨stored, answered, rfl⟩ := answered
        obtain ⟨before, taken, known⟩ := known_answers room still.known inside answered
        apply induction answer (apart.2 answer) _ (answers answer before taken)
        exact ⟨known, still.accepted, still.busy⟩

theorem computes_writes {Result : Type} {program : Logger Result} {result : Result}
    (room : ∀ buffer, sizes buffer ≤ larger buffer)
    (apart : program.Only fun call => Apart call most)
    (computes : Computes sizes memory program result after) :
    Triple (writing larger Other) (permitted larger quiets) (Knows accepted most memory)
      (program.lift .array) fun found writer => found = result ∧ Knows accepted most after writer :=
  fun _ holds => secured_writes room apart holds (computes memory rfl)

theorem apart_free {Result : Type} (program : Logger Result) :
    program.Only fun call => Apart call none := by
  induction program with
  | done result => trivial
  | ask call next induction =>
      refine ⟨?_, induction⟩
      cases call with
      | store => exact nofun
      | load => trivial
      | lend => trivial

/-- A wait that ends in time ends with no transfer busy. -/
theorem waitForWriter_frees (attempts : Nat) :
    Triple (writing larger Other) (permitted larger quiets) (Knows accepted most memory)
      ((waitForWriter attempts).lift toWriter) fun left writer =>
        Knows accepted most memory writer ∧ (left ≠ 0 → Knows accepted none memory writer) := by
  have stable (left : Nat) : Stable (writing larger Other) fun writer =>
      Knows accepted most memory writer ∧ (left ≠ 0 → Knows accepted none memory writer) :=
    stable_and knows_stable (stable_imp knows_stable)
  induction attempts with
  | zero => exact triple_pure (stable 0) fun _ holds => ⟨holds, fun some => absurd rfl some⟩
  | succ attempts induction =>
      have polls : Triple (writing larger Other) (permitted larger quiets)
          (Knows accepted most memory) (perform (.request .writeIsBusy)) fun busy writer =>
            Knows accepted most memory writer ∧
              (busy = false → Knows accepted none memory writer) := by
        apply triple_perform knows_stable fun busy =>
          stable_and knows_stable (stable_imp knows_stable)
        · exact fun _ _ => trivial
        · intro writer busy next holds answered
          obtain ⟨rfl, rfl⟩ := answered
          refine ⟨holds, fun free => ⟨holds.known, holds.accepted, .inl ?_⟩⟩
          exact Option.isNone_iff_eq_none.mp (by simpa using free)
      apply triple_seq polls
      intro busy
      cases busy with
      | true => exact triple_mono induction (fun _ holds => holds.1) fun _ _ holds => holds
      | false => exact triple_pure (stable _) fun _ holds => ⟨holds.1, fun _ => holds.2 rfl⟩

/-- The bytes of the array are accepted. -/
theorem write_accepts (inside : text.length ≤ larger .transfer)
    (shown : ∀ index < text.length, memory .transfer index = text[index]?) :
    Triple (writing larger Other) (permitted larger quiets) (Knows accepted none memory)
      (perform (.request (.write (some .transfer) text.length))) fun answer writer =>
        answer = true ∧ Knows (accepted ++ text) (some .transfer) memory writer := by
  have found (writer : Writer LogBuffer) (holds : Knows accepted none memory writer) (index : Nat)
      (bound : index < text.length) : writer.memory .transfer index = some text[index] := by
    apply holds.known
    rw [shown index bound, List.getElem?_eq_getElem bound]
  apply triple_perform knows_stable fun _ => stable_and (stable_fact _) knows_stable
  · intro writer holds
    refine ⟨inside, fun index bound => ?_⟩
    rw [found writer holds index bound]
    rfl
  · intro writer answer next holds answered
    have free : writer.busy = none := holds.busy.elim id id
    have whole : bytesOf writer.memory .transfer text.length = text := by
      apply List.ext_getElem bytesOf_length
      intro index _ bound
      simp [bytesOf, found writer holds index bound]
    have answered : answer = true ∧ next = writer.accept .transfer text.length := by
      simpa [writing, writerAnswers, requestAnswers, free] using answered
    obtain ⟨rfl, rfl⟩ := answered
    refine ⟨rfl, holds.known, ?_, .inr rfl⟩
    rw [Writer.accept, whole, holds.accepted]

/-- The line is accepted as a whole, or nothing of it. -/
theorem logging_writes {format : Logger Nat} {least : Memory LogBuffer}
    (room : ∀ buffer, sizes buffer ≤ larger buffer) (inside : debugLogCapacity ≤ larger .transfer)
    (computes : Computes sizes memory format text.length after)
    (shown : text.length < debugLogCapacity →
      ∀ index < text.length, after .transfer index = text[index]?)
    (before : Known least memory) (kept : Known least after) :
    Triple (writing larger Other) (permitted larger quiets)
      (Knows accepted (some .transfer) memory) ((logging format).lift toWriter)
      fun returned writer =>
        Knows (accepted ++ if returned.accepts then text else []) (some .transfer) least
          writer := by
  have returns {busy : Option LogBuffer} {known : Memory LogBuffer} {returned : LogReturn}
      (weaker : Known least known) (within : busy = none ∨ busy = some .transfer)
      (nothing : returned.accepts = false) :
      Triple (writing larger Other) (permitted larger quiets) (Knows accepted busy known)
        (pure returned) fun returned writer =>
          Knows (accepted ++ if returned.accepts then text else []) (some .transfer) least
            writer := by
    refine triple_pure knows_stable ?_
    intro writer holds
    rw [nothing]
    refine ⟨known_trans weaker holds.known, holds.accepted.trans (List.append_nil _).symm, ?_⟩
    rcases within with rfl | rfl
    · exact .inl (holds.busy.elim id id)
    · exact holds.busy
  have ended {returned : LogReturn} (whole : returned.accepts = true) :
      Triple (writing larger Other) (permitted larger quiets)
        (Knows (accepted ++ text) (some .transfer) after) (pure returned) fun returned writer =>
          Knows (accepted ++ if returned.accepts then text else []) (some .transfer) least
            writer := by
    refine triple_pure knows_stable ?_
    intro writer holds
    rw [whole]
    exact ⟨known_trans kept holds.known, holds.accepted, holds.busy⟩
  rw [logging, lift_bind]
  apply triple_seq (waitForWriter_frees debugLogWaitAttempts)
  intro attempts
  split_ifs with timeout
  · exact triple_pre (returns before (.inr rfl) rfl) fun _ holds => holds.1
  · apply triple_pre _ fun _ holds => holds.2 timeout
    rw [lift_bind, lift_lift]
    apply triple_seq (computes_writes room (apart_free format) computes)
    intro length
    apply triple_fact
    intro same
    rw [same]
    split_ifs with unfit
    · exact returns kept (.inl rfl) rfl
    · have short : text.length < debugLogCapacity := by omega
      rw [lift_bind]
      apply triple_seq (write_accepts (Nat.le_trans (Nat.le_of_lt short) inside) (shown short))
      intro written
      apply triple_fact
      intro same
      rw [same, if_neg (by decide), lift_bind]
      apply triple_seq (waitForWriter_frees attempts)
      intro left
      apply triple_pre _ fun _ holds => holds.1
      split_ifs
      · exact ended rfl
      · exact ended rfl

end Writing

section Lines

variable {quiets : (Reply : Type) → Other Reply → Prop} {accepted : List Byte}

def logSizes : LogBuffer → Nat := loggerSizes debugLogCapacity 64

def literals : Memory LogBuffer := loggerMemory [] [] [] []

theorem literals_known (frame reversed line transfer : List Byte) :
    Known literals (loggerMemory frame reversed line transfer) := by
  intro buffer index value found
  cases buffer with
  | hexDigits => exact found
  | frame => exact nomatch found
  | reversed => exact nomatch found
  | line => exact nomatch found
  | transfer => exact nomatch found

theorem logSizes_room {frameLength : Nat} (fits : frameLength ≤ 64) (buffer : LogBuffer) :
    loggerSizes debugLogCapacity frameLength buffer ≤ logSizes buffer := by
  cases buffer with
  | frame => exact fits
  | _ => exact Nat.le_refl _

theorem holding_frame {frame reversed line transfer : List Byte} (bytes : List Byte) :
    (loggerMemory frame reversed line transfer).holding .frame bytes =
      loggerMemory bytes reversed line transfer := by
  funext buffer
  cases buffer <;> rfl

theorem formatText_computes (text : List Byte) :
    Computes logSizes literals (formatText text) text.length
      (loggerMemory [] [] [] (text.take (debugLogCapacity - 1) ++ [0])) := by
  have size : (text.take (debugLogCapacity - 1) ++ [0]).length ≤ debugLogCapacity := by
    rw [List.length_append, List.length_take, List.length_singleton]
    have capacity : 0 < debugLogCapacity := by decide
    omega
  have stores : Computes logSizes ((loggerMemory [] [] [] []).holding .transfer [])
      (storeAll .transfer 0 (text.take (debugLogCapacity - 1) ++ [0])) () _ :=
    computes_storeAll _ rfl (by rw [List.length_nil, Nat.zero_add]; exact size)
  rw [holding_transfer, holding_transfer, List.nil_append] at stores
  exact computes_bind stores (computes_pure _)

/-- `DEBUG_LOG` of a format that stands for this text. -/
def logText (text : List Byte) : Program (WriterCall LogBuffer Other) LogReturn :=
  (logging (formatText text)).lift toWriter

theorem logText_writes (text : List Byte) :
    Triple (writing logSizes Other) (permitted logSizes quiets)
      (Knows accepted (some .transfer) literals) (logText text) fun returned writer =>
        Knows (accepted ++ if returned.accepts then text else []) (some .transfer) literals
          writer := by
  apply logging_writes (fun _ => Nat.le_refl _) (Nat.le_refl _) (formatText_computes text)
  · intro short index bound
    have whole : text.take (debugLogCapacity - 1) = text := List.take_of_length_le (by omega)
    rw [whole]
    exact List.getElem?_append_left bound
  · exact fun _ _ _ found => found
  · exact literals_known _ _ _ _

def logFrame (direction frame : List Byte) : Program (WriterCall LogBuffer Other) LogReturn := do
  (storeAll .frame 0 frame).lift .array
  (printFrame direction frame.length).lift toWriter

theorem logFrame_writes (direction frame : List Byte) (string : 0 ∉ direction)
    (short : direction.length ≤ 2) (fits : frame.length ≤ 64) :
    Triple (writing logSizes Other) (permitted logSizes quiets)
      (Knows accepted (some .transfer) literals) (logFrame direction frame) fun returned writer =>
        Knows (accepted ++ if returned.accepts then frameLine direction frame else [])
          (some .transfer) literals writer := by
  have size : (frameLine direction frame).length + 1 < debugLogCapacity :=
    frame_line_short frame short fits
  have fills : Computes (loggerSizes debugLogCapacity frame.length)
      ((loggerMemory [] [] [] []).holding .frame []) (storeAll .frame 0 frame) () _ :=
    computes_storeAll frame rfl (Nat.le_of_eq (Nat.zero_add _))
  rw [holding_frame, holding_frame, List.nil_append] at fills
  apply triple_seq (computes_writes (logSizes_room fits) (storeAll_leaves (by decide) _ _) fills)
  intro _
  apply triple_pre _ fun _ holds => holds.2
  rw [printFrame, lift_bind, lift_lift]
  apply triple_seq (computes_writes (logSizes_room fits) (formatFrame_leaves _ _)
    (formatFrame_computes direction frame (by omega) (Nat.le_of_lt size)))
  intro _
  apply triple_pre _ fun _ holds => holds.2
  rw [debugLogPrintf_logging]
  apply logging_writes (logSizes_room fits) (Nat.le_refl _)
    (formatString_computes (frame_line_string frame string) (Nat.le_of_lt size))
  · exact fun _ index bound => List.getElem?_append_left bound
  · exact literals_known _ _ _ _
  · exact literals_known _ _ _ _

end Lines

end LoraNode.FrameLog
