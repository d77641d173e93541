import Mathlib.Logic.Function.Basic
import LoraNode.Foundation.Bytes
import LoraNode.Foundation.Interference

/-!
# Programs on byte arrays

An array has a size, and a cell holds nothing until it is written. A program
loads, stores and lends, one call at a time. `defined` asks of every call that it
stays inside its array and finds a byte where it reads one. `Computes` follows a
program that is defined throughout to its result.
-/

namespace LoraNode.Foundation.Buffers

open LoraNode.Foundation.Bytes LoraNode.Foundation.Program LoraNode.Foundation.Interference

variable {Buffer : Type}

inductive ArrayCall (Buffer : Type) : Type → Type where
  | load (buffer : Buffer) (index : Nat) : ArrayCall Buffer Byte
  | store (buffer : Buffer) (index : Nat) (value : Byte) : ArrayCall Buffer Unit
  /-- The first bytes are handed to a function that reads so many. -/
  | lend (buffer : Buffer) (length : Nat) : ArrayCall Buffer Unit

abbrev ArrayProgram (Buffer : Type) := Program (ArrayCall Buffer)

def load (buffer : Buffer) (index : Nat) : ArrayProgram Buffer Byte :=
  perform (.load buffer index)

def store (buffer : Buffer) (index : Nat) (value : Byte) : ArrayProgram Buffer Unit :=
  perform (.store buffer index value)

def lend (buffer : Buffer) (length : Nat) : ArrayProgram Buffer Unit :=
  perform (.lend buffer length)

/-- `memcpy(dest + offset, source + start, count)` -/
def copy (dest : Buffer) (offset : Nat) (source : Buffer) (start : Nat) :
    Nat → ArrayProgram Buffer Unit
  | 0 => return ()
  | count + 1 => do
      copy dest offset source start count
      let byte ← load source (start + count)
      store dest (offset + count) byte

/-- `memcpy` from a constant. -/
def storeAll (dest : Buffer) (offset : Nat) : List Byte → ArrayProgram Buffer Unit
  | [] => return ()
  | byte :: rest => do
      store dest offset byte
      storeAll dest (offset + 1) rest

abbrev Memory (Buffer : Type) := Buffer → Nat → Option Byte

def cells (bytes : List Byte) (index : Nat) : Option Byte := bytes[index]?

variable [DecidableEq Buffer]

def Memory.store (memory : Memory Buffer) (buffer : Buffer) (index : Nat) (value : Byte) :
    Memory Buffer :=
  Function.update memory buffer (Function.update (memory buffer) index (some value))

/-- The same memory with these bytes at the start of an array and nothing after. -/
def Memory.holding (memory : Memory Buffer) (buffer : Buffer) (bytes : List Byte) :
    Memory Buffer :=
  Function.update memory buffer (cells bytes)

/-- A cell that holds nothing is read as anything; nothing is known after a store
outside the array. -/
def arrays (sizes : Buffer → Nat) : Setting (ArrayCall Buffer) (Memory Buffer) where
  answers memory call answer next :=
    match call, answer with
    | .load buffer index, answer =>
        next = memory ∧ ∀ value, memory buffer index = some value → answer = value
    | .store buffer index value, _ =>
        index < sizes buffer → next = memory.store buffer index value
    | .lend _ _, _ => next = memory
  interferes _ _ := False

/-- What was never written is read as 0. -/
def Memory.serve {Reply : Type} (memory : Memory Buffer) :
    ArrayCall Buffer Reply → Reply × Memory Buffer
  | .load buffer index => ((memory buffer index).getD 0, memory)
  | .store buffer index value => ((), memory.store buffer index value)
  | .lend _ _ => ((), memory)

theorem memory_serves (sizes : Buffer → Nat) {Reply : Type} (memory : Memory Buffer)
    (call : ArrayCall Buffer Reply) :
    (arrays sizes).answers memory call (memory.serve call).1 (memory.serve call).2 := by
  cases call with
  | load buffer index => exact ⟨rfl, found_served⟩
  | store buffer index value => exact fun _ => rfl
  | lend buffer length => rfl

omit [DecidableEq Buffer] in
/-- Inside the array, and every byte that is read has been written. -/
def defined (sizes : Buffer → Nat) : Guard (ArrayCall Buffer) (Memory Buffer)
  | _, .load buffer index, memory => index < sizes buffer ∧ (memory buffer index).isSome
  | _, .store buffer index _, _ => index < sizes buffer
  | _, .lend buffer length, memory =>
      length ≤ sizes buffer ∧ ∀ index < length, (memory buffer index).isSome

/-- From this memory the program is defined throughout, and this is its result. -/
def Computes {Result : Type} (sizes : Buffer → Nat) (memory : Memory Buffer)
    (program : ArrayProgram Buffer Result) (result : Result) (after : Memory Buffer) : Prop :=
  Triple (arrays sizes) (defined sizes) (fun state => state = memory) program
    fun found state => found = result ∧ state = after

section Rules

variable {First Second : Type} {sizes : Buffer → Nat} {memory middle after : Memory Buffer}

theorem arrays_stable (assertion : Memory Buffer → Prop) : Stable (arrays sizes) assertion :=
  fun _ _ _ moved => moved.elim

theorem computes_pure (result : First) : Computes sizes memory (pure result) result memory :=
  triple_pure (arrays_stable _) fun _ same => ⟨rfl, same⟩

theorem computes_bind {program : ArrayProgram Buffer First}
    {next : First → ArrayProgram Buffer Second} {value : First} {result : Second}
    (first : Computes sizes memory program value middle)
    (second : Computes sizes middle (next value) result after) :
    Computes sizes memory (program >>= next) result after := by
  apply triple_seq first
  intro found
  apply triple_fact
  intro same
  subst same
  exact second

theorem computes_pos {condition : Prop} [Decidable condition]
    {first second : ArrayProgram Buffer First} {result : First} (holds : condition)
    (computes : Computes sizes memory first result after) :
    Computes sizes memory (if condition then first else second) result after := by
  rw [if_pos holds]
  exact computes

theorem computes_neg {condition : Prop} [Decidable condition]
    {first second : ArrayProgram Buffer First} {result : First} (fails : ¬condition)
    (computes : Computes sizes memory second result after) :
    Computes sizes memory (if condition then first else second) result after := by
  rw [if_neg fails]
  exact computes

theorem computes_load {buffer : Buffer} {index : Nat} {value : Byte}
    (inside : index < sizes buffer) (known : memory buffer index = some value) :
    Computes sizes memory (load buffer index) value memory := by
  apply triple_perform (arrays_stable _) fun _ => arrays_stable _
  · intro state same
    subst same
    exact ⟨inside, Option.isSome_iff_exists.mpr ⟨value, known⟩⟩
  · intro state answer next same answered
    subst same
    exact ⟨answered.2 value known, answered.1⟩

theorem computes_store {buffer : Buffer} {index : Nat} (value : Byte)
    (inside : index < sizes buffer) :
    Computes sizes memory (store buffer index value) () (memory.store buffer index value) := by
  apply triple_perform (arrays_stable _) fun _ => arrays_stable _
  · exact fun _ _ => inside
  · intro state answer next same answered
    subst same
    exact ⟨rfl, answered inside⟩

theorem computes_lend {buffer : Buffer} {length : Nat} (inside : length ≤ sizes buffer)
    (written : ∀ index < length, (memory buffer index).isSome) :
    Computes sizes memory (lend buffer length) () memory := by
  apply triple_perform (arrays_stable _) fun _ => arrays_stable _
  · intro state same
    subst same
    exact ⟨inside, written⟩
  · intro state answer next same answered
    exact ⟨rfl, answered.trans same⟩

/-- Every access of a computation is defined, and what is known of its result holds
when it returns. -/
theorem computes_always {program : ArrayProgram Buffer First} {result : First}
    {post : First → Memory Buffer → Prop}
    (computes : Computes sizes memory program result after) (holds : post result after) :
    Always (arrays sizes) (defined sizes) (fun state => state = memory) program post := by
  apply triple_always
  apply triple_mono computes fun _ same => same
  intro found state returned
  obtain ⟨same, ended⟩ := returned
  subst same ended
  exact holds

end Rules

section Cells

omit [DecidableEq Buffer]

theorem cells_some {bytes : List Byte} {index : Nat} (bound : index < bytes.length) :
    cells bytes index = some (bytes.getD index 0) := by
  rw [cells, List.getElem?_eq_getElem bound, List.getD_eq_getElem _ _ bound]

theorem cells_written {bytes : List Byte} {index : Nat} (bound : index < bytes.length) :
    (cells bytes index).isSome := by
  rw [cells_some bound]
  rfl

/-- A store right after what is written. -/
theorem cells_push (written : List Byte) (value : Byte) :
    Function.update (cells written) written.length (some value) = cells (written ++ [value]) := by
  funext index
  by_cases here : index = written.length
  · subst here
    simp [cells]
  · rw [Function.update_of_ne here]
    by_cases before : index < written.length
    · rw [cells, cells, List.getElem?_append_left before]
    · have beyond : written.length + 1 ≤ index := by omega
      rw [cells, cells, List.getElem?_eq_none (by omega),
        List.getElem?_eq_none (by simpa using beyond)]

def copied (old source : Nat → Option Byte) (offset start count index : Nat) : Option Byte :=
  if offset ≤ index ∧ index < offset + count then source (start + (index - offset)) else old index

theorem copied_none (old source : Nat → Option Byte) (offset start : Nat) :
    copied old source offset start 0 = old := by
  funext index
  rw [copied, if_neg (by omega)]

theorem copied_next (old source : Nat → Option Byte) (offset start count : Nat) :
    Function.update (copied old source offset start count) (offset + count)
      (source (start + count)) = copied old source offset start (count + 1) := by
  funext index
  by_cases here : index = offset + count
  · subst here
    have place : offset + count - offset = count := by omega
    rw [Function.update_self, copied, if_pos (by omega), place]
  · rw [Function.update_of_ne here, copied, copied]
    by_cases inside : offset ≤ index ∧ index < offset + count
    · rw [if_pos inside, if_pos (by omega)]
    · rw [if_neg inside, if_neg (by omega)]

/-- A copy right after what is written. -/
theorem copied_append (written source : List Byte) (start count : Nat)
    (room : start + count ≤ source.length) :
    copied (cells written) (cells source) written.length start count =
      cells (written ++ (source.drop start).take count) := by
  funext index
  rw [copied, cells, cells, cells]
  have size : ((source.drop start).take count).length = count := by
    rw [List.length_take, List.length_drop]
    omega
  by_cases before : index < written.length
  · rw [if_neg (by omega), List.getElem?_append_left before]
  · rw [List.getElem?_append_right (by omega)]
    by_cases inside : index < written.length + count
    · rw [if_pos (by omega), List.getElem?_take_of_lt (by omega), List.getElem?_drop]
    · rw [if_neg (by omega), List.getElem?_eq_none (by omega), List.getElem?_eq_none (by omega)]

/-- A copy into an array that is written throughout. -/
theorem copied_into (dest source : List Byte) (offset start count : Nat)
    (room : offset + count ≤ dest.length) (available : start + count ≤ source.length) :
    copied (cells dest) (cells source) offset start count =
      cells (copyInto dest offset (source.drop start) count) := by
  funext index
  by_cases bound : index < dest.length
  · rw [cells, copyInto_getElem dest _ offset count index bound, copied]
    by_cases inside : offset ≤ index ∧ index < offset + count
    · have within : index - offset < (source.drop start).length := by
        rw [List.length_drop]
        omega
      rw [if_pos inside, if_pos inside, ← cells_some within, cells, cells, List.getElem?_drop]
    · rw [if_neg inside, if_neg inside, cells, List.getElem?_eq_getElem bound]
  · have beyond : (copyInto dest offset (source.drop start) count).length ≤ index := by
      rw [copyInto_length]
      omega
    rw [copied, if_neg (by omega), cells, cells, List.getElem?_eq_none (by omega),
      List.getElem?_eq_none beyond]

end Cells

section Holding

variable {sizes : Buffer → Nat} {memory : Memory Buffer}

@[simp] theorem holding_same (memory : Memory Buffer) (buffer : Buffer) (bytes : List Byte) :
    memory.holding buffer bytes buffer = cells bytes := Function.update_self _ _ _

@[simp] theorem holding_other (memory : Memory Buffer) {buffer other : Buffer}
    (apart : other ≠ buffer) (bytes : List Byte) :
    memory.holding buffer bytes other = memory other := Function.update_of_ne apart _ _

@[simp] theorem holding_again (memory : Memory Buffer) (buffer : Buffer)
    (first second : List Byte) :
    (memory.holding buffer first).holding buffer second = memory.holding buffer second :=
  Function.update_idem _ _ _

theorem holding_itself {buffer : Buffer} {bytes : List Byte} (same : memory buffer = cells bytes) :
    memory.holding buffer bytes = memory := by
  rw [Memory.holding, ← same, Function.update_eq_self]

theorem update_store (memory : Memory Buffer) (buffer : Buffer) (old : Nat → Option Byte)
    (index : Nat) (value : Byte) :
    Memory.store (Function.update memory buffer old) buffer index value =
      Function.update memory buffer (Function.update old index (some value)) := by
  rw [Memory.store, Function.update_self, Function.update_idem]

/-- The next byte of an array that is written from its start. -/
theorem computes_push {buffer : Buffer} {written : List Byte} {index : Nat} (value : Byte)
    (place : index = written.length) (room : written.length < sizes buffer) :
    Computes sizes (memory.holding buffer written) (store buffer index value) ()
      (memory.holding buffer (written ++ [value])) := by
  subst place
  have stored : (memory.holding buffer written).store buffer written.length value =
      memory.holding buffer (written ++ [value]) := by
    rw [Memory.holding, update_store, cells_push]
    rfl
  rw [← stored]
  exact computes_store value room

theorem computes_copy {dest source : Buffer} {offset start : Nat} (count : Nat)
    (apart : source ≠ dest) (room : offset + count ≤ sizes dest)
    (inside : start + count ≤ sizes source)
    (known : ∀ index < count, (memory source (start + index)).isSome) :
    Computes sizes memory (copy dest offset source start count) ()
      (Function.update memory dest
        (copied (memory dest) (memory source) offset start count)) := by
  induction count with
  | zero =>
      rw [copied_none, Function.update_eq_self]
      exact computes_pure ()
  | succ count induction =>
      obtain ⟨value, found⟩ := Option.isSome_iff_exists.mp (known count (by omega))
      apply computes_bind (induction (by omega) (by omega) fun index bound =>
        known index (by omega))
      apply computes_bind
      · apply computes_load (by omega)
        rw [Function.update_of_ne apart]
        exact found
      · rw [← copied_next, found]
        rw [← update_store]
        exact computes_store value (by omega)

/-- A copy right after what is written. -/
theorem computes_copy_append {dest source : Buffer} {written bytes : List Byte}
    {offset start count : Nat} (apart : source ≠ dest) (place : offset = written.length)
    (room : written.length + count ≤ sizes dest) (known : memory source = cells bytes)
    (available : start + count ≤ bytes.length) (inside : bytes.length ≤ sizes source) :
    Computes sizes (memory.holding dest written) (copy dest offset source start count) ()
      (memory.holding dest (written ++ (bytes.drop start).take count)) := by
  subst place
  have still : memory.holding dest written source = cells bytes :=
    (holding_other memory apart written).trans known
  have readable : ∀ index < count, (memory.holding dest written source (start + index)).isSome := by
    intro index bound
    rw [still]
    exact cells_written (by omega)
  have copies : Computes sizes (memory.holding dest written)
      (copy dest written.length source start count) () _ :=
    computes_copy count apart room (by omega) readable
  rw [still, holding_same, copied_append written bytes start count available, Memory.holding,
    Function.update_idem] at copies
  exact copies

/-- A copy to the start of an array that is written throughout. -/
theorem computes_copy_into {dest source : Buffer} {old bytes : List Byte} {start count : Nat}
    (apart : source ≠ dest) (full : memory dest = cells old) (room : count ≤ old.length)
    (size : old.length ≤ sizes dest) (known : memory source = cells bytes)
    (available : start + count ≤ bytes.length) (inside : bytes.length ≤ sizes source) :
    Computes sizes memory (copy dest 0 source start count) ()
      (memory.holding dest (copyInto old 0 (bytes.drop start) count)) := by
  have written : ∀ index < count, (memory source (start + index)).isSome := by
    intro index bound
    rw [known]
    exact cells_written (by omega)
  have copies : Computes sizes memory (copy dest 0 source start count) () _ :=
    computes_copy count apart (by omega) (by omega) written
  rw [full, known, copied_into old bytes 0 start count (by omega) available] at copies
  exact copies

theorem computes_storeAll {dest : Buffer} {written : List Byte} {offset : Nat} (bytes : List Byte)
    (place : offset = written.length) (room : written.length + bytes.length ≤ sizes dest) :
    Computes sizes (memory.holding dest written) (storeAll dest offset bytes) ()
      (memory.holding dest (written ++ bytes)) := by
  induction bytes generalizing written offset with
  | nil =>
      rw [List.append_nil]
      exact computes_pure ()
  | cons byte rest induction =>
      rw [List.length_cons] at room
      apply computes_bind (computes_push byte place (by omega))
      have next : offset + 1 = (written ++ [byte]).length := by
        rw [List.length_append, place]
        rfl
      have stored := induction next (by rw [← next]; omega)
      rw [List.append_assoc] at stored
      exact stored

end Holding

section Known

def Known (memory more : Memory Buffer) : Prop :=
  ∀ buffer index value, memory buffer index = some value → more buffer index = some value

variable {memory more : Memory Buffer}

omit [DecidableEq Buffer] in
theorem known_trans {most : Memory Buffer} (first : Known memory more) (second : Known more most) :
    Known memory most :=
  fun buffer index value found => second buffer index value (first buffer index value found)

theorem known_store (known : Known memory more) (buffer : Buffer) (index : Nat) (value : Byte) :
    Known (memory.store buffer index value) (more.store buffer index value) := by
  intro other place found
  rw [Memory.store, Memory.store]
  by_cases same : other = buffer
  · subst same
    rw [Function.update_self, Function.update_self]
    by_cases here : place = index
    · subst here
      rw [Function.update_self, Function.update_self]
      exact fun given => given
    · rw [Function.update_of_ne here, Function.update_of_ne here]
      exact known other place found
  · rw [Function.update_of_ne same, Function.update_of_ne same]
    exact known other place found

omit [DecidableEq Buffer] in
theorem known_defined {Reply : Type} {sizes larger : Buffer → Nat} {call : ArrayCall Buffer Reply}
    (room : ∀ buffer, sizes buffer ≤ larger buffer) (known : Known memory more)
    (inside : defined sizes call memory) : defined larger call more := by
  have found {buffer : Buffer} {index : Nat} (written : (memory buffer index).isSome) :
      (more buffer index).isSome := by
    obtain ⟨value, found⟩ := Option.isSome_iff_exists.mp written
    rw [known buffer index value found]
    rfl
  cases call with
  | load buffer index => exact ⟨Nat.lt_of_lt_of_le inside.1 (room buffer), found inside.2⟩
  | store buffer index value => exact Nat.lt_of_lt_of_le inside (room buffer)
  | lend buffer length =>
      exact ⟨Nat.le_trans inside.1 (room buffer), fun index bound => found (inside.2 index bound)⟩

/-- An answer where more is known is one where less is known. -/
theorem known_answers {Reply : Type} {sizes larger : Buffer → Nat} {call : ArrayCall Buffer Reply}
    {answer : Reply} {after : Memory Buffer} (room : ∀ buffer, sizes buffer ≤ larger buffer)
    (known : Known memory more) (inside : defined sizes call memory)
    (answered : (arrays larger).answers more call answer after) :
    ∃ before, (arrays sizes).answers memory call answer before ∧ Known before after := by
  cases call with
  | load buffer index =>
      obtain ⟨rfl, found⟩ := answered
      exact ⟨memory, ⟨rfl, fun value same => found value (known buffer index value same)⟩, known⟩
  | store buffer index value =>
      have stored : after = more.store buffer index value :=
        answered (Nat.lt_of_lt_of_le inside (room buffer))
      rw [stored]
      exact ⟨memory.store buffer index value, fun _ => rfl, known_store known buffer index value⟩
  | lend buffer length =>
      obtain rfl := answered
      exact ⟨memory, rfl, known⟩

end Known

end LoraNode.Foundation.Buffers
