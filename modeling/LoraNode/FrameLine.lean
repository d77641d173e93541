import LoraNode.Foundation.Text

/-!
# A logged frame as text

The line names the direction, the length in decimal and the bytes as pairs of
hexadecimal digits with single spaces between them. It is a string, it is short, and
reading it gives back the direction, the length and the bytes.
-/

namespace LoraNode.FrameLine

open LoraNode.Foundation.Bytes LoraNode.Foundation.Text

def space : Byte := 0x20

def carriageReturn : Byte := 0x0D

def frameLine (direction frame : List Byte) : List Byte :=
  ascii "status: " ++ direction ++ ascii " len=" ++ decimal frame.length ++ ascii " hex=" ++
    hexBytes space frame ++ ascii "\r\n"

def readLine (line : List Byte) : Option (List Byte × Nat × List Byte) := do
  let line ← readLiteral (ascii "status: ") line
  let (direction, line) := readWord space line
  let line ← readLiteral (ascii " len=") line
  let (length, line) ← readDecimal line
  let line ← readLiteral (ascii " hex=") line
  let (pairs, line) := readWord carriageReturn line
  let bytes ← readHexBytes space pairs
  if line = ascii "\r\n" then some (direction, length, bytes) else none

variable {direction : List Byte} (frame : List Byte)

theorem hex_stops : carriageReturn ∉ hexBytes space frame := by
  intro member
  rcases hex_bytes_high member with same | high
  · exact absurd same (by decide)
  · exact absurd high (by decide)

/-- Every reader finds what was written for it. -/
theorem read_frame_line (word : space ∉ direction) :
    readLine (frameLine direction frame) = some (direction, frame.length, frame) := by
  let shown := hexBytes space frame ++ ascii "\r\n"
  let counted := decimal frame.length ++ (ascii " hex=" ++ shown)
  have direct : readWord space (direction ++ (ascii " len=" ++ counted)) =
      (direction, ascii " len=" ++ counted) := read_word_append word _
  have number : readDecimal counted = some (frame.length, ascii " hex=" ++ shown) := by
    apply read_decimal_append
    intro byte first
    cases first
    decide
  have pairs : readWord carriageReturn shown = (hexBytes space frame, ascii "\r\n") :=
    read_word_append (hex_stops frame) _
  have bytes : readHexBytes space (hexBytes space frame) = some frame :=
    read_hex_bytes (by decide) frame
  have line : frameLine direction frame =
      ascii "status: " ++ (direction ++ (ascii " len=" ++ counted)) := by
    simp only [frameLine, counted, shown, List.append_assoc]
  rw [line, readLine, read_literal_append]
  simp only [Option.bind_eq_bind, Option.bind_some, direct, read_literal_append, number, pairs,
    bytes, if_true]

example : readLine (ascii "status: rx len=2 hex=01 FF\r\n") =
    some (ascii "rx", 2, [0x01, 0xFF]) := by decide

theorem frame_line_length :
    (frameLine direction frame).length =
      20 + direction.length + (decimal frame.length).length + (hexBytes space frame).length := by
  have status : (ascii "status: ").length = 8 := rfl
  have count : (ascii " len=").length = 5 := rfl
  have hex : (ascii " hex=").length = 5 := rfl
  have ends : (ascii "\r\n").length = 2 := rfl
  simp only [frameLine, List.length_append, status, count, hex, ends]
  omega

/-- A frame of at most 64 bytes leaves room for the end of the string. -/
theorem frame_line_short (short : direction.length ≤ 2) (fits : frame.length ≤ 64) :
    (frameLine direction frame).length + 1 < 224 := by
  have digits : (decimal frame.length).length ≤ 2 := decimal_length_le (by decide) (by omega)
  have pairs := hex_bytes_length_le space frame
  rw [frame_line_length]
  omega

/-- No byte of the line ends the string. -/
theorem frame_line_string (string : 0 ∉ direction) : 0 ∉ frameLine direction frame := by
  have number : (0 : Byte) ∉ decimal frame.length := by
    intro member
    exact absurd (decimal_digits _ _ member) (by decide)
  have pairs : (0 : Byte) ∉ hexBytes space frame := by
    intro member
    rcases hex_bytes_high member with same | high
    · exact absurd same (by decide)
    · exact absurd high (by decide)
  simp only [frameLine, List.mem_append, not_or]
  refine ⟨⟨⟨⟨⟨⟨?_, string⟩, ?_⟩, number⟩, ?_⟩, pairs⟩, ?_⟩ <;> decide

end LoraNode.FrameLine
