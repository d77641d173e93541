import LoraNode.FrameLine
import LoraNode.FrameLog

/-!
# Frame logging

The logger writes the line of its frame and nothing else, inside its arrays, and the
UART gets exactly that line. Digits come out of the reversing loop as the shortest
decimal. For a frame that fits a packet the line passes the length test, so it is
not dropped, and it can be read back.
-/

namespace LoraNode.FrameLog

open LoraNode.Foundation LoraNode.Foundation.Bytes LoraNode.Foundation.Program
  LoraNode.Foundation.Interference LoraNode.Foundation.Buffers LoraNode.Foundation.Text
  LoraNode.FrameLine

section Arrays

def loggerSizes (lineCapacity frameLength : Nat) : LogBuffer → Nat
  | .hexDigits => 17
  | .frame => frameLength
  | .reversed => 10
  | .line => lineCapacity
  | .transfer => debugLogCapacity

/-- What an earlier call has left in `transfer` counts as nothing. -/
def loggerMemory (frame reversed line transfer : List Byte) : Memory LogBuffer
  | .hexDigits => cells (ascii "0123456789ABCDEF" ++ [0])
  | .frame => cells frame
  | .reversed => cells reversed
  | .line => cells line
  | .transfer => cells transfer

variable {frame reversed line transfer : List Byte}

theorem holding_reversed (digits : List Byte) :
    (loggerMemory frame reversed line transfer).holding .reversed digits =
      loggerMemory frame digits line transfer := by
  funext buffer
  cases buffer <;> rfl

theorem holding_line (text : List Byte) :
    (loggerMemory frame reversed line transfer).holding .line text =
      loggerMemory frame reversed text transfer := by
  funext buffer
  cases buffer <;> rfl

theorem holding_transfer (text : List Byte) :
    (loggerMemory frame reversed line transfer).holding .transfer text =
      loggerMemory frame reversed line text := by
  funext buffer
  cases buffer <;> rfl

variable {capacity frameLength : Nat}

theorem reversed_push (digit : Byte) (room : reversed.length < 10) :
    Computes (loggerSizes capacity frameLength) (loggerMemory frame reversed line transfer)
      (store .reversed reversed.length digit) ()
      (loggerMemory frame (reversed ++ [digit]) line transfer) := by
  have pushed : Computes (loggerSizes capacity frameLength)
      ((loggerMemory frame reversed line transfer).holding .reversed reversed) _ () _ :=
    computes_push digit rfl room
  rw [holding_reversed, holding_reversed] at pushed
  exact pushed

theorem line_push (char : Byte) (room : line.length < capacity) :
    Computes (loggerSizes capacity frameLength) (loggerMemory frame reversed line transfer)
      (store .line line.length char) ()
      (loggerMemory frame reversed (line ++ [char]) transfer) := by
  have pushed : Computes (loggerSizes capacity frameLength)
      ((loggerMemory frame reversed line transfer).holding .line line) _ () _ :=
    computes_push char rfl room
  rw [holding_line, holding_line] at pushed
  exact pushed

theorem line_storeAll (text : List Byte) (room : line.length + text.length ≤ capacity) :
    Computes (loggerSizes capacity frameLength) (loggerMemory frame reversed line transfer)
      (storeAll .line line.length text) ()
      (loggerMemory frame reversed (line ++ text) transfer) := by
  have stored : Computes (loggerSizes capacity frameLength)
      ((loggerMemory frame reversed line transfer).holding .line line) _ () _ :=
    computes_storeAll text rfl room
  rw [holding_line, holding_line] at stored
  exact stored

theorem remainder_digit (value : BitVec 32) :
    (48 + value % 10).setWidth 8 = digitByte (value.toNat % 10) := by
  apply BitVec.eq_of_toNat_eq
  have remainder : (value % 10).toNat = value.toNat % 10 := BitVec.toNat_umod
  rw [digitByte, BitVec.toNat_setWidth, BitVec.toNat_add, remainder, BitVec.toNat_ofNat]
  have base : (48 : BitVec 32).toNat = 48 := rfl
  omega

theorem quotient_zero (value : BitVec 32) : value / 10 ≠ 0 ↔ 10 ≤ value.toNat := by
  have zero : (0 : BitVec 32).toNat = 0 := rfl
  rw [Ne, ← BitVec.toNat_inj, quotient_toNat, zero]
  omega

/-- The digits of the value follow what is stored, the last one first. -/
theorem reverseDigits_computes (value : BitVec 32) (reversed : List Byte)
    (room : reversed.length + (decimal value.toNat).length ≤ 10) :
    Computes (loggerSizes capacity frameLength) (loggerMemory frame reversed line transfer)
      (reverseDigits value reversed.length) (reversed.length + (decimal value.toNat).length)
      (loggerMemory frame (reversed ++ (decimal value.toNat).reverse) line transfer) := by
  rw [reverseDigits, remainder_digit]
  by_cases high : 10 ≤ value.toNat
  · have digits := decimal_next high
    have size : (decimal value.toNat).length = (decimal (value.toNat / 10)).length + 1 := by
      rw [digits, List.length_append]
      rfl
    have pushed : (reversed ++ [digitByte (value.toNat % 10)]).length = reversed.length + 1 :=
      List.length_append
    have count : reversed.length + 1 + (decimal (value.toNat / 10)).length =
        reversed.length + (decimal value.toNat).length := by omega
    -- the quotient's digits come after the remainder, as the loop is entered again
    have rest := reverseDigits_computes (value / 10) (reversed ++ [digitByte (value.toNat % 10)])
      (by rw [pushed, quotient_toNat, count]; exact room)
    rw [pushed, quotient_toNat, count, List.append_assoc] at rest
    rw [digits, List.reverse_append, ← digits]
    apply computes_bind (reversed_push _ (by omega))
    rw [dif_pos ((quotient_zero value).mpr high)]
    exact rest
  · have low := Nat.lt_of_not_le high
    rw [decimal_low low] at room ⊢
    rw [Nat.mod_eq_of_lt low]
    apply computes_bind (reversed_push _ room)
    rw [dif_neg (fun more => high ((quotient_zero value).mp more))]
    exact computes_pure _
termination_by value.toNat
decreasing_by
  rw [quotient_toNat]
  omega

/-- The digits are taken back from the last one on. -/
theorem appendReversed_computes (line : List Byte) (count : Nat) (stored : count ≤ reversed.length)
    (size : reversed.length ≤ 10) (room : line.length + count ≤ capacity) :
    Computes (loggerSizes capacity frameLength) (loggerMemory frame reversed line transfer)
      (appendReversed line.length count) (line.length + count)
      (loggerMemory frame reversed (line ++ (reversed.take count).reverse) transfer) := by
  induction count generalizing line with
  | zero =>
      rw [List.take_zero, List.reverse_nil, List.append_nil]
      exact computes_pure _
  | succ count induction =>
      have found : loggerMemory frame reversed line transfer .reversed count =
          some reversed[count] := List.getElem?_eq_getElem stored
      have pushed : (line ++ [reversed[count]]).length = line.length + 1 := List.length_append
      have cursor : line.length + 1 + count = line.length + (count + 1) := by omega
      have rest := induction (line ++ [reversed[count]]) (by omega)
        (by rw [pushed, cursor]; exact room)
      rw [pushed, cursor, List.append_assoc] at rest
      rw [List.take_succ_eq_append_getElem stored, List.reverse_append]
      have inside : count < loggerSizes capacity frameLength .reversed :=
        Nat.lt_of_lt_of_le stored size
      apply computes_bind (computes_load inside found)
      apply computes_bind (line_push _ (by omega))
      exact rest

theorem decimal_word_length (value : BitVec 32) : (decimal value.toNat).length ≤ 10 := by
  apply decimal_length_le (by decide)
  exact Nat.lt_trans value.isLt (by decide)

theorem appendUnsigned_computes (value : BitVec 32)
    (room : line.length + (decimal value.toNat).length ≤ capacity) :
    Computes (loggerSizes capacity frameLength) (loggerMemory frame [] line transfer)
      (appendUnsigned line.length value) (line ++ decimal value.toNat).length
      (loggerMemory frame (decimal value.toNat).reverse (line ++ decimal value.toNat)
        transfer) := by
  have size := decimal_word_length value
  have reverses : Computes (loggerSizes capacity frameLength) (loggerMemory frame [] line transfer)
      (reverseDigits value 0) _ _ :=
    reverseDigits_computes value [] (by rw [List.length_nil, Nat.zero_add]; exact size)
  have appends : Computes (loggerSizes capacity frameLength)
      (loggerMemory frame (decimal value.toNat).reverse line transfer)
      (appendReversed line.length (decimal value.toNat).length) _ _ :=
    appendReversed_computes line (decimal value.toNat).length (by rw [List.length_reverse])
      (by rw [List.length_reverse]; exact size) room
  rw [List.length_nil, Nat.zero_add, List.nil_append] at reverses
  rw [List.take_of_length_le (by rw [List.length_reverse]), List.reverse_reverse] at appends
  rw [List.length_append]
  exact computes_bind reverses appends

theorem hex_digit_known {digit : Nat} (bound : digit < 16) :
    loggerMemory frame reversed line transfer .hexDigits digit = some (hexDigitByte digit) := by
  interval_cases digit <;> rfl

theorem appendHexByte_computes (value : Byte) (room : line.length + 2 ≤ capacity) :
    Computes (loggerSizes capacity frameLength) (loggerMemory frame reversed line transfer)
      (appendHexByte line.length value) (line ++ hexPair value).length
      (loggerMemory frame reversed (line ++ hexPair value) transfer) := by
  have bound : value.toNat < 256 := value.isLt
  have high : (value >>> 4).toNat = value.toNat / 16 := by
    rw [BitVec.toNat_ushiftRight, Nat.shiftRight_eq_div_pow]
  have low : (value &&& 0x0F).toNat = value.toNat % 16 := by
    rw [BitVec.toNat_and]
    exact Nat.and_two_pow_sub_one_eq_mod value.toNat 4
  have pushed : (line ++ [hexDigitByte (value.toNat / 16)]).length = line.length + 1 :=
    List.length_append
  have digit {line : List Byte} {index : Nat} (small : index < 16) :
      Computes (loggerSizes capacity frameLength) (loggerMemory frame reversed line transfer)
        (load .hexDigits index) (hexDigitByte index)
        (loggerMemory frame reversed line transfer) := by
    have inside : index < loggerSizes capacity frameLength .hexDigits :=
      Nat.lt_trans small (show 16 < 17 by decide)
    exact computes_load inside (hex_digit_known small)
  have second : Computes (loggerSizes capacity frameLength)
      (loggerMemory frame reversed (line ++ [hexDigitByte (value.toNat / 16)]) transfer)
      (store .line (line ++ [hexDigitByte (value.toNat / 16)]).length
        (hexDigitByte (value.toNat % 16))) () _ := line_push _ (by omega)
  rw [pushed, List.append_assoc] at second
  have whole : (line ++ hexPair value).length = line.length + 2 := List.length_append
  rw [appendHexByte, high, low, whole]
  apply computes_bind (digit (by omega))
  apply computes_bind (line_push _ (by omega))
  apply computes_bind (digit (by omega))
  apply computes_bind second
  exact computes_pure _

/-- From any index the loop appends the pairs of the bytes that are left. -/
theorem appendFrame_computes (line : List Byte) (index : Nat)
    (room : line.length + (hexBytes space (frame.drop index)).length ≤ capacity) :
    Computes (loggerSizes capacity frame.length) (loggerMemory frame reversed line transfer)
      (appendFrame frame.length line.length index)
      (line ++ hexBytes space (frame.drop index)).length
      (loggerMemory frame reversed (line ++ hexBytes space (frame.drop index)) transfer) := by
  rw [appendFrame]
  by_cases inside : index < frame.length
  · have left : frame.drop index = frame[index] :: frame.drop (index + 1) :=
      List.drop_eq_getElem_cons inside
    have found : loggerMemory frame reversed line transfer .frame index = some frame[index] :=
      List.getElem?_eq_getElem inside
    have loaded : Computes (loggerSizes capacity frame.length)
        (loggerMemory frame reversed line transfer) (load .frame index) frame[index]
        (loggerMemory frame reversed line transfer) := computes_load inside found
    have pair : (hexPair frame[index]).length = 2 := rfl
    apply computes_pos inside
    apply computes_bind loaded
    by_cases more : index + 1 < frame.length
    · have rest : frame.drop (index + 1) ≠ [] := by
        rw [Ne, List.drop_eq_nil_iff]
        omega
      have pairs : hexBytes space (frame.drop index) =
          hexPair frame[index] ++ ([space] ++ hexBytes space (frame.drop (index + 1))) := by
        rw [left, hex_bytes_next space _ rest]
        rfl
      rw [pairs] at room ⊢
      simp only [List.length_append, pair, List.length_singleton] at room
      have pushed : (line ++ hexPair frame[index] ++ [space]).length =
          (line ++ hexPair frame[index]).length + 1 := List.length_append
      -- the invariant of the loop: the line so far, and the pairs of what is left
      have later := appendFrame_computes (line ++ hexPair frame[index] ++ [space]) (index + 1)
        (by simp only [List.length_append, pair, List.length_singleton]; omega)
      rw [pushed, List.append_assoc, List.append_assoc] at later
      apply computes_bind (appendHexByte_computes frame[index] (by omega))
      apply computes_pos more
      apply computes_bind (line_push space (by rw [List.length_append, pair]; omega))
      rw [List.append_assoc]
      exact later
    · have rest : frame.drop (index + 1) = [] := by
        rw [List.drop_eq_nil_iff]
        omega
      have pairs : hexBytes space (frame.drop index) = hexPair frame[index] := by
        rw [left, rest, hex_bytes_last]
      rw [pairs] at room ⊢
      apply computes_bind (appendHexByte_computes frame[index] (by omega))
      apply computes_neg more
      rw [appendFrame]
      apply computes_neg more
      exact computes_pure _
  · have rest : frame.drop index = [] := by
      rw [List.drop_eq_nil_iff]
      omega
    have nothing : hexBytes space (frame.drop index) = [] := by
      rw [rest]
      rfl
    rw [nothing, List.append_nil]
    apply computes_neg inside
    exact computes_pure _
termination_by frame.length - index

theorem appendText_computes (line text : List Byte) (room : line.length + text.length ≤ capacity) :
    Computes (loggerSizes capacity frameLength) (loggerMemory frame reversed line transfer)
      (appendText line.length text) (line ++ text).length
      (loggerMemory frame reversed (line ++ text) transfer) := by
  rw [List.length_append]
  exact computes_bind (line_storeAll text room) (computes_pure _)

/-- The line is the text of the frame and the byte that ends it. -/
theorem formatFrame_computes (direction frame : List Byte) (word : frame.length < 2 ^ 32)
    (room : (frameLine direction frame).length + 1 ≤ capacity) :
    Computes (loggerSizes capacity frame.length) (loggerMemory frame [] [] transfer)
      (formatFrame direction frame.length) ()
      (loggerMemory frame (decimal frame.length).reverse (frameLine direction frame ++ [0])
        transfer) := by
  have number : (BitVec.ofNat 32 frame.length).toNat = frame.length := by
    rw [BitVec.toNat_ofNat, Nat.mod_eq_of_lt word]
  simp only [frameLine, List.length_append] at room
  have status : Computes (loggerSizes capacity frame.length) (loggerMemory frame [] [] transfer)
      (appendText 0 (ascii "status: ")) (ascii "status: ").length
      (loggerMemory frame [] (ascii "status: ") transfer) :=
    appendText_computes [] (ascii "status: ") (by simp only [List.length_nil]; omega)
  have counted : Computes (loggerSizes capacity frame.length)
      (loggerMemory frame [] (ascii "status: " ++ direction ++ ascii " len=") transfer)
      (appendUnsigned (ascii "status: " ++ direction ++ ascii " len=").length
        (BitVec.ofNat 32 frame.length)) _ _ :=
    appendUnsigned_computes _ (by simp only [number, List.length_append]; omega)
  rw [number] at counted
  have shown (before : List Byte)
      (room : before.length + (hexBytes space frame).length ≤ capacity) :
      Computes (loggerSizes capacity frame.length)
        (loggerMemory frame (decimal frame.length).reverse before transfer)
        (appendFrame frame.length before.length 0) (before ++ hexBytes space frame).length
        (loggerMemory frame (decimal frame.length).reverse (before ++ hexBytes space frame)
          transfer) := appendFrame_computes before 0 room
  rw [formatFrame, frameLine, List.append_assoc _ (ascii "\r\n")]
  apply computes_bind status
  apply computes_bind (appendText_computes _ direction (by omega))
  apply computes_bind
    (appendText_computes _ (ascii " len=") (by simp only [List.length_append]; omega))
  apply computes_bind counted
  apply computes_bind
    (appendText_computes _ (ascii " hex=") (by simp only [List.length_append]; omega))
  apply computes_bind (shown _ (by simp only [List.length_append]; omega))
  apply line_storeAll
  simp only [List.length_append, List.length_singleton]
  omega

/-- A string is read up to the byte that ends it. -/
theorem readString_computes {text : List Byte} (string : 0 ∉ text) (ended : line = text ++ [0])
    (size : line.length ≤ capacity) (limit index : Nat) (bound : index ≤ text.length)
    (far : text.length < index + limit) :
    Computes (loggerSizes capacity frameLength) (loggerMemory frame reversed line transfer)
      (readString .line index limit) (text.drop index)
      (loggerMemory frame reversed line transfer) := by
  induction limit generalizing index with
  | zero => omega
  | succ limit induction =>
      have length : line.length = text.length + 1 := by
        rw [ended, List.length_append]
        rfl
      have inside : index < loggerSizes capacity frameLength .line :=
        show index < capacity by omega
      have known : loggerMemory frame reversed line transfer .line index = cells line index := rfl
      by_cases last : index = text.length
      · have found : loggerMemory frame reversed line transfer .line index = some 0 := by
          rw [known, cells, ended, last]
          exact List.getElem?_concat_length
        rw [List.drop_eq_nil_of_le (Nat.le_of_eq last.symm)]
        apply computes_bind (computes_load inside found)
        exact computes_pos rfl (computes_pure _)
      · have before : index < text.length := by omega
        have found : loggerMemory frame reversed line transfer .line index =
            some text[index] := by
          rw [known, cells, ended, List.getElem?_append_left before,
            List.getElem?_eq_getElem before]
        have char : text[index] ≠ 0 := fun same => string (same ▸ List.getElem_mem before)
        rw [List.drop_eq_getElem_cons before]
        apply computes_bind (computes_load inside found)
        apply computes_neg char
        apply computes_bind (induction (index + 1) before (by omega))
        exact computes_pure _

theorem formatString_computes {text : List Byte} (string : 0 ∉ text)
    (room : text.length + 1 ≤ debugLogCapacity) :
    Computes (loggerSizes debugLogCapacity frameLength)
      (loggerMemory frame reversed (text ++ [0]) []) (formatString debugLogCapacity) text.length
      (loggerMemory frame reversed (text ++ [0]) (text ++ [0])) := by
  have size : (text ++ [0]).length = text.length + 1 := List.length_append
  have reads : Computes (loggerSizes debugLogCapacity frameLength)
      (loggerMemory frame reversed (text ++ [0]) [])
      (readString .line 0 (debugLogCapacity + 1)) (text.drop 0) _ :=
    readString_computes string rfl (by omega) _ 0 (Nat.zero_le _) (by omega)
  have stores : Computes (loggerSizes debugLogCapacity frameLength)
      ((loggerMemory frame reversed (text ++ [0]) []).holding .transfer [])
      (storeAll .transfer 0 (text ++ [0])) () _ :=
    computes_storeAll (text ++ [0]) rfl (show 0 + (text ++ [0]).length ≤ debugLogCapacity by omega)
  rw [holding_transfer, holding_transfer, List.nil_append] at stores
  have whole : text.take (debugLogCapacity - 1) = text := List.take_of_length_le (by omega)
  apply computes_bind reads
  rw [List.drop_zero, whole]
  apply computes_bind stores
  exact computes_pure _

end Arrays

section Transfer

/-- What the UART was asked and answered. A write carries the first cells of `transfer`. -/
inductive UartEvent where
  | polled (busy : Bool)
  | written (cells : List (Option Byte)) (accepted : Bool)

abbrev Wire := Memory LogBuffer × List UartEvent

def wired (sizes : LogBuffer → Nat) : Setting LogCall Wire where
  answers wire call answer next :=
    match call, answer with
    | .inl access, answer =>
        (arrays sizes).answers wire.1 access answer next.1 ∧ next.2 = wire.2
    | .inr .writeIsBusy, busy => next = (wire.1, wire.2 ++ [.polled busy])
    | .inr (.write length), accepted =>
        next = (wire.1, wire.2 ++ [.written ((List.range length).map (wire.1 .transfer)) accepted])
  interferes _ _ := False

def transfers (sizes : LogBuffer → Nat) (text : List Byte) : Guard LogCall Wire
  | _, .inl access, wire => defined sizes access wire.1
  | _, .inr .writeIsBusy, _ => True
  | _, .inr (.write length), wire =>
      length = text.length ∧ ∀ index < length, wire.1 .transfer index = text[index]?

def waited (times : Nat) : List UartEvent :=
  List.replicate times (.polled true) ++ [.polled false]

/-- What the UART sees of one `DEBUG_LOG_Printf` of this text, by what that returns. Only
a UART that is busy at every poll does not get the text, and no UART gets it twice. -/
inductive HandsOver (text : List Byte) : LogReturn → List UartEvent → Prop where
  | stillBusy : HandsOver text .stillBusy (List.replicate debugLogWaitAttempts (.polled true))
  | refused (waits : Nat) (within : waits < debugLogWaitAttempts) :
      HandsOver text .refused (waited waits ++ [.written (text.map some) false])
  | stalled (waits left : Nat) (whole : waits + left = debugLogWaitAttempts) :
      HandsOver text .stalled (waited waits ++ .written (text.map some) true ::
        List.replicate left (.polled true))
  | sent (waits more : Nat) (within : waits + more < debugLogWaitAttempts) :
      HandsOver text .sent (waited waits ++ .written (text.map some) true :: waited more)

theorem HandsOver.not_dropped {text : List Byte} {returned : LogReturn}
    {events : List UartEvent} (gives : HandsOver text returned events) : returned ≠ .dropped := by
  rintro rfl
  cases gives

variable {sizes : LogBuffer → Nat} {text : List Byte} {memory after : Memory LogBuffer}
  {events : List UartEvent}

theorem wired_stable (assertion : Wire → Prop) : Stable (wired sizes) assertion :=
  fun _ _ _ moved => moved.elim

theorem triple_access {Result : Type} {program : Logger Result} {result : Result}
    (computes : Computes sizes memory program result after) :
    Triple (wired sizes) (transfers sizes text) (fun wire => wire = (memory, events))
      (program.lift Sum.inl) fun found wire => found = result ∧ wire = (after, events) := by
  have beside : Triple (wired sizes) (transfers sizes text)
      (fun wire => wire.1 = memory ∧ wire.2 = events) (program.lift Sum.inl)
      fun found wire => (found = result ∧ wire.1 = after) ∧ wire.2 = events :=
    triple_component (fun _ _ moved => moved) (fun _ _ inside => inside)
      (fun _ _ _ _ answered => answered) computes events
  apply triple_mono beside
  · rintro wire rfl
    exact ⟨rfl, rfl⟩
  · rintro found wire ⟨⟨same, changed⟩, still⟩
    exact ⟨same, Prod.ext changed still⟩

def waits (attempts left : Nat) : List UartEvent :=
  if left = 0 then List.replicate attempts (.polled true) else waited (attempts - left)

theorem waits_more {attempts left : Nat} (bound : left ≤ attempts) :
    waits (attempts + 1) left = .polled true :: waits attempts left := by
  have longer : attempts + 1 - left = attempts - left + 1 := by omega
  rw [waits, waits, longer]
  split_ifs <;> rfl

theorem waitForWriter_waits (attempts : Nat) :
    Triple (wired sizes) (transfers sizes text) (fun wire => wire = (memory, events))
      (waitForWriter attempts) fun left wire =>
        left ≤ attempts ∧ wire = (memory, events ++ waits attempts left) := by
  induction attempts generalizing events with
  | zero =>
      refine triple_pure (wired_stable _) ?_
      rintro wire rfl
      exact ⟨Nat.le_refl 0, by simp [waits]⟩
  | succ attempts induction =>
      have polls : Triple (wired sizes) (transfers sizes text)
          (fun wire => wire = (memory, events)) (perform (Sum.inr Uart.writeIsBusy))
          fun busy wire => wire = (memory, events ++ [.polled busy]) := by
        apply triple_perform (wired_stable _) fun _ => wired_stable _
        · exact fun _ _ => True.intro
        · rintro wire busy next rfl answered
          exact answered
      apply triple_seq polls
      intro busy
      cases busy with
      | true =>
          apply triple_mono induction fun _ same => same
          rintro left wire ⟨bound, rfl⟩
          rw [waits_more bound, List.append_assoc]
          exact ⟨Nat.le_succ_of_le bound, rfl⟩
      | false =>
          refine triple_pure (wired_stable _) ?_
          rintro wire rfl
          exact ⟨Nat.le_refl _, by simp [waits, waited]⟩

theorem cells_range (text rest : List Byte) :
    (List.range text.length).map (cells (text ++ rest)) = text.map some := by
  apply List.ext_getElem (by simp)
  intro index bound _
  rw [List.length_map, List.length_range] at bound
  simp [cells, List.getElem?_append_left bound]

/-- A line that is a string and fits is handed over as it is, once. -/
theorem debugLogPrintf_transfers {frame reversed : List Byte} {frameLength : Nat}
    (string : 0 ∉ text) (written : 0 < text.length) (room : text.length + 1 ≤ debugLogCapacity) :
    Triple (wired (loggerSizes debugLogCapacity frameLength))
      (transfers (loggerSizes debugLogCapacity frameLength) text)
      (fun wire => wire = (loggerMemory frame reversed (text ++ [0]) [], [])) debugLogPrintf
      fun returned wire => wire.1 .line = cells (text ++ [0]) ∧ HandsOver text returned wire.2 := by
  have returns {returned : LogReturn} {transfer : List Byte} {events : List UartEvent}
      (gives : HandsOver text returned events) :
      Triple (wired (loggerSizes debugLogCapacity frameLength))
        (transfers (loggerSizes debugLogCapacity frameLength) text)
        (fun wire => wire = (loggerMemory frame reversed (text ++ [0]) transfer, events))
        (pure returned) fun returned wire =>
          wire.1 .line = cells (text ++ [0]) ∧ HandsOver text returned wire.2 := by
    refine triple_pure (wired_stable _) ?_
    rintro wire rfl
    exact ⟨rfl, gives⟩
  apply triple_seq (waitForWriter_waits debugLogWaitAttempts)
  intro left
  apply triple_fact
  intro bound
  rw [List.nil_append]
  split_ifs with timeout
  · rw [timeout]
    exact returns .stillBusy
  · rw [waits, if_neg timeout]
    apply triple_seq (triple_access (formatString_computes string room))
    intro length
    apply triple_fact
    intro same
    subst same
    rw [if_neg (by omega)]
    have writes : Triple (wired (loggerSizes debugLogCapacity frameLength))
        (transfers (loggerSizes debugLogCapacity frameLength) text)
        (fun wire => wire = (loggerMemory frame reversed (text ++ [0]) (text ++ [0]),
          waited (debugLogWaitAttempts - left))) (perform (Sum.inr (.write text.length)))
        fun accepted wire => wire = (loggerMemory frame reversed (text ++ [0]) (text ++ [0]),
          waited (debugLogWaitAttempts - left) ++ [.written (text.map some) accepted]) := by
      apply triple_perform (wired_stable _) fun _ => wired_stable _
      · rintro wire rfl
        exact ⟨rfl, fun index within => List.getElem?_append_left within⟩
      · rintro wire accepted next rfl answered
        rw [← cells_range text [0]]
        exact answered
    apply triple_seq writes
    intro accepted
    cases accepted with
    | false => exact returns (.refused _ (by omega))
    | true =>
        rw [if_neg (by decide)]
        apply triple_seq (waitForWriter_waits left)
        intro last
        apply triple_fact
        intro within
        rw [List.append_assoc]
        split_ifs with stalled
        · rw [stalled, waits, if_pos rfl]
          exact returns (.stalled _ left (by omega))
        · rw [waits, if_neg stalled]
          exact returns (.sent _ _ (by omega))

end Transfer

/-- Whatever the UART does, a frame of at most 64 bytes is logged as its line. -/
theorem printFrame_transfers (direction frame : List Byte) (string : 0 ∉ direction)
    (short : direction.length ≤ 2) (fits : frame.length ≤ 64) :
    Triple (wired (loggerSizes debugLogCapacity frame.length))
      (transfers (loggerSizes debugLogCapacity frame.length) (frameLine direction frame))
      (fun wire => wire = (loggerMemory frame [] [] [], [])) (printFrame direction frame.length)
      fun returned wire => wire.1 .line = cells (frameLine direction frame ++ [0]) ∧
        HandsOver (frameLine direction frame) returned wire.2 := by
  have room : (frameLine direction frame).length + 1 < debugLogCapacity :=
    frame_line_short frame short fits
  have written : 0 < (frameLine direction frame).length := by
    rw [frame_line_length]
    omega
  apply triple_seq
    (triple_access (formatFrame_computes direction frame (by omega) (Nat.le_of_lt room)))
  intro _
  apply triple_fact
  intro _
  exact debugLogPrintf_transfers (frame_line_string frame string) written (Nat.le_of_lt room)

end LoraNode.FrameLog
