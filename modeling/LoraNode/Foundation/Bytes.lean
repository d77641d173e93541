import Mathlib.Data.List.GetD

/-!
# Bytes, big-endian words and byte buffers

Buffers are lists whose length is the buffer's size, so every write below keeps
the length. A writer that fills a buffer from its start always has the shape
`written ++ rest`; the append rules say what the next store does to that split.
-/

namespace LoraNode.Foundation.Bytes

abbrev Byte := BitVec 8

def highByte (word : BitVec 16) : Byte := (word >>> 8).setWidth 8

def lowByte (word : BitVec 16) : Byte := word.setWidth 8

def joinBytes (high low : Byte) : BitVec 16 := high.setWidth 16 <<< 8 ||| low.setWidth 16

@[simp] theorem joinBytes_split (word : BitVec 16) :
    joinBytes (highByte word) (lowByte word) = word := by
  ext index bound
  by_cases below : index < 8
  · simp [joinBytes, highByte, lowByte, below, BitVec.getLsbD_eq_getElem bound]
  · have shifted : 8 + (index - 8) = index := by omega
    have inHigh : index - 8 < 8 := by omega
    simp [joinBytes, highByte, lowByte, below, inHigh, shifted, bound]

@[simp] theorem highByte_joinBytes (high low : Byte) : highByte (joinBytes high low) = high := by
  ext index bound
  have inWord : 8 + index < 16 := by omega
  simp [joinBytes, highByte, inWord, bound]

@[simp] theorem lowByte_joinBytes (high low : Byte) : lowByte (joinBytes high low) = low := by
  ext index bound
  simp [joinBytes, lowByte]

/-- `memcpy(dest + offset, source, count)`, confined to the buffer. -/
def copyInto (dest : List Byte) (offset : Nat) (source : List Byte) (count : Nat) : List Byte :=
  dest.mapIdx fun index old =>
    if offset ≤ index ∧ index < offset + count then source.getD (index - offset) 0 else old

@[simp] theorem copyInto_length (dest source : List Byte) (offset count : Nat) :
    (copyInto dest offset source count).length = dest.length := by
  simp [copyInto]

theorem copyInto_getElem (dest source : List Byte) (offset count index : Nat)
    (bound : index < dest.length) :
    (copyInto dest offset source count)[index]? =
      some (if offset ≤ index ∧ index < offset + count then source.getD (index - offset) 0
        else dest[index]) := by
  simp [copyInto, bound]

/-- The copy lands right after the bytes written so far and consumes the rest
from its front. -/
theorem copyInto_append (written rest source : List Byte) (count : Nat)
    (room : count ≤ rest.length) (available : count ≤ source.length) :
    copyInto (written ++ rest) written.length source count =
      written ++ (source.take count ++ rest.drop count) := by
  have size : (source.take count).length = count := List.length_take_of_le available
  apply List.ext_getElem?
  intro index
  by_cases bound : index < (written ++ rest).length
  · rw [copyInto_getElem _ _ _ _ _ bound]
    by_cases before : index < written.length
    · rw [if_neg (by omega), List.getElem?_append_left before, List.getElem_append_left before,
        List.getElem?_eq_getElem before]
    · rw [List.getElem?_append_right (by omega)]
      by_cases inside : index < written.length + count
      · have taken : index - written.length < (source.take count).length := by omega
        have inSource : index - written.length < source.length := by omega
        rw [if_pos ⟨by omega, inside⟩, List.getElem?_append_left taken,
          List.getElem?_eq_getElem taken, List.getElem_take, List.getD_eq_getElem _ _ inSource]
      · have place : count + (index - written.length - count) = index - written.length := by
          omega
        have inRest : index - written.length < rest.length := by
          rw [List.length_append] at bound
          omega
        rw [if_neg (by omega), List.getElem?_append_right (by omega), size, List.getElem?_drop,
          place, List.getElem_append_right (by omega), List.getElem?_eq_getElem inRest]
  · rw [List.getElem?_eq_none (by simpa using bound), List.getElem?_eq_none]
    rw [List.length_append] at bound
    rw [List.length_append, List.length_append, size, List.length_drop]
    omega

theorem copyInto_take (dest source : List Byte) (count : Nat) (room : count ≤ dest.length)
    (available : count ≤ source.length) :
    (copyInto dest 0 source count).take count = source.take count := by
  have size : (source.take count).length = count := List.length_take_of_le available
  have copied := copyInto_append [] dest source count room available
  simp only [List.nil_append, List.length_nil] at copied
  rw [copied, List.take_append_of_le_length (Nat.le_of_eq size.symm), List.take_take, Nat.min_self]

/-- Two stores at the end of the written part, as for a big-endian word. -/
theorem set_append_pair (written rest : List Byte) (old old' new new' : Byte) :
    ((written ++ old :: old' :: rest).set written.length new).set (written.length + 1) new' =
      written ++ new :: new' :: rest := by
  have second : written.length + 1 - written.length = 1 := by omega
  rw [List.set_append_right _ _ (Nat.le_refl _), List.set_append_right _ _ (by omega), second,
    Nat.sub_self]
  rfl

end LoraNode.Foundation.Bytes
