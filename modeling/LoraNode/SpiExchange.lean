import LoraNode.SpiMaster

/-!
# What the driver can know of a transfer

A view says which words have been written, which replies are known and what
memory and registers hold. The shift register moves under it and cannot make it
false. Each access takes a view to the next one.
-/

namespace LoraNode.SpiMaster

open LoraNode.Foundation LoraNode.Foundation.Bytes LoraNode.Foundation.Program
  LoraNode.Foundation.Interference

variable {Chip : Type*} {Pin : Type → Type} (slave : Slave Chip Pin) (start : Chip)

inductive Exchanged : List (Byte × Byte) → Chip → Prop where
  | nothing : Exchanged [] start
  | drift (words : List (Byte × Byte)) (chip next : Chip) (before : Exchanged words chip)
      (moved : slave.drifts chip next) : Exchanged words next
  | word (words : List (Byte × Byte)) (chip next : Chip) (byte reply : Byte)
      (before : Exchanged words chip) (exchanged : slave.exchanges chip byte reply next) :
      Exchanged (words ++ [(byte, reply)]) next

/-- The words written to DATA are exchanged, in the shift register or still in DATA. -/
structure Wired (sent : List Byte) (words : List (Byte × Byte)) (port : Port Chip) : Prop where
  exchanged : Exchanged slave start words port.chip
  order : words.map Prod.fst ++ port.shift.toList ++ port.data.toList = sent
  settled : port.txc = true → port.shift = none ∧ port.data = none
  signals : port.shift = none → port.data = none → sent ≠ [] → port.txc = true
  bounded : port.unread.length ≤ 2

/-- With `tracked` every reply that is not in `heard` waits in the receive buffer. -/
structure View where
  object : SpiObject
  enabled : Interrupts
  sent : List Byte
  heard : List Byte
  tracked : Prop
  unread : Prop
  empty : Prop
  complete : Prop

namespace View

def store (view : View) (change : SpiObject → SpiObject) : View :=
  { view with object := change view.object }

def enable (view : View) (mask : Interrupts) : View :=
  { view with enabled := view.enabled.enable mask }

def disable (view : View) (mask : Interrupts) : View :=
  { view with enabled := view.enabled.disable mask }

def observe (view : View) (flags : Interrupts) : View :=
  { view with
    unread := view.unread ∨ flags.rxc = true
    empty := view.empty ∨ flags.dre = true
    complete := view.complete ∨ flags.txc = true }

def hear (view : View) (heard : List Byte) : View := { view with heard := heard, unread := False }

def fill (view : View) (index : Nat) (value : Byte) : View :=
  view.store fun object => { object with
    rxBuffer := object.rxBuffer.map fun memory => memory.set index value }

def send (view : View) (byte : Byte) : View :=
  { view with sent := view.sent ++ [byte], empty := False, complete := False }

def plain (view : View) : View :=
  { view with unread := False, empty := False, complete := False }

structure Weaker (weaker view : View) : Prop where
  object : weaker.object = view.object
  enabled : weaker.enabled = view.enabled
  sent : weaker.sent = view.sent
  heard : weaker.heard <+: view.heard
  tracked : weaker.tracked → view.tracked ∧ weaker.heard = view.heard
  unread : weaker.unread → view.unread
  empty : weaker.empty → view.empty
  complete : weaker.complete → view.complete

end View

structure Told (view : View) (words : List (Byte × Byte)) (port : Port Chip) : Prop where
  heard : view.heard <+: words.map Prod.snd
  paced : view.tracked → view.sent.length ≤ view.heard.length + 1
  tracked : view.tracked → port.unread = (words.map Prod.snd).drop view.heard.length
  unread : view.unread → port.unread ≠ []
  empty : view.empty → port.data = none
  complete : view.complete → port.txc = true

structure At (view : View) (port : Port Chip) : Prop where
  object : port.object = view.object
  enabled : port.enabled = view.enabled
  traffic : ∃ words, Wired slave start view.sent words port ∧ Told view words port

variable {slave start}

section Hardware

variable {sent : List Byte} {words : List (Byte × Byte)} {port : Port Chip}

theorem wired_length (wired : Wired slave start sent words port) :
    words.length + port.shift.toList.length + port.data.toList.length = sent.length := by
  have order := congrArg List.length wired.order
  rw [List.length_append, List.length_append, List.length_map] at order
  exact order

theorem wired_empty (wired : Wired slave start sent words port)
    (all : sent.length ≤ words.length) : port.shift = none ∧ port.data = none := by
  have length := wired_length wired
  constructor
  · cases shift : port.shift with
    | none => rfl
    | some byte =>
        rw [shift, Option.toList_some, List.length_singleton] at length
        omega
  · cases data : port.data with
    | none => rfl
    | some byte =>
        rw [data, Option.toList_some, List.length_singleton] at length
        omega

/-- TXC shows that every word is out. -/
theorem wired_complete (wired : Wired slave start sent words port) (complete : port.txc = true) :
    words.map Prod.fst = sent := by
  obtain ⟨shift, data⟩ := wired.settled complete
  have order := wired.order
  rw [shift, data, Option.toList_none, List.append_nil, List.append_nil] at order
  exact order

theorem wired_load {byte : Byte} (wired : Wired slave start sent words port)
    (written : port.data = some byte) (idle : port.shift = none) :
    Wired slave start sent words { port with data := none, shift := some byte } where
  exchanged := wired.exchanged
  order := by
    have order := wired.order
    rw [written, idle, Option.toList_none, List.append_nil] at order
    rw [Option.toList_none, List.append_nil]
    exact order
  settled := by
    intro complete
    rw [(wired.settled complete).2] at written
    cases written
  signals := by
    intro loaded
    cases loaded
  bounded := wired.bounded

theorem wired_shifted {byte reply : Byte} {chip : Chip} (wired : Wired slave start sent words port)
    (loaded : port.shift = some byte) (exchanged : slave.exchanges port.chip byte reply chip)
    {unread : List Byte} (bounded : unread.length ≤ 2) :
    Wired slave start sent (words ++ [(byte, reply)])
      { port with
        shift := none, unread := unread, txc := port.txc || port.data.isNone, chip := chip } where
  exchanged := .word words port.chip chip byte reply wired.exchanged exchanged
  order := by
    have order := wired.order
    rw [loaded] at order
    rw [List.map_append, Option.toList_none, List.append_nil]
    exact order
  settled := by
    intro complete
    rw [Bool.or_eq_true] at complete
    rcases complete with complete | complete
    · rw [(wired.settled complete).1] at loaded
      cases loaded
    · exact ⟨rfl, Option.isNone_iff_eq_none.mp complete⟩
  signals := by
    intro _ data _
    change port.data = none at data
    change (port.txc || port.data.isNone) = true
    rw [data]
    exact Bool.or_true port.txc
  bounded := bounded

theorem told_shifted {view : View} {byte reply : Byte} {chip : Chip}
    (told : Told view words port) (wired : Wired slave start view.sent words port)
    (loaded : port.shift = some byte) :
    Told view (words ++ [(byte, reply)])
      { port with
        shift := none
        unread := if port.unread.length < 2 then port.unread ++ [reply] else port.unread
        txc := port.txc || port.data.isNone
        chip := chip } where
  heard := by
    rw [List.map_append]
    exact told.heard.trans (List.prefix_append _ _)
  paced := told.paced
  tracked := by
    intro tracked
    have paced := told.paced tracked
    have known := told.heard.length_le
    have length := wired_length wired
    rw [loaded, Option.toList_some, List.length_singleton] at length
    rw [List.length_map] at known
    -- the word in the shift register is the only one whose reply is not known
    have waiting : port.unread = [] := by
      rw [told.tracked tracked, List.drop_eq_nil_iff, List.length_map]
      omega
    have all : view.heard.length = (words.map Prod.snd).length := by
      rw [List.length_map]
      omega
    simp only [waiting, List.length_nil, Nat.zero_lt_succ, if_true, List.nil_append]
    rw [List.map_append, List.drop_append_of_le_length (Nat.le_of_eq all), all,
      List.drop_length]
    rfl
  unread := by
    intro unread
    have waiting := told.unread unread
    simp only
    split_ifs
    · exact List.append_ne_nil_of_left_ne_nil waiting [reply]
    · exact waiting
  empty := told.empty
  complete := by
    intro complete
    have set := told.complete complete
    simp only [set, Bool.true_or]

/-- The hardware cannot make a view false. -/
theorem at_stable (view : View) : Stable (sercom slave) (At slave start view) := by
  intro port next holds moved
  obtain ⟨words, wired, told⟩ := holds.traffic
  cases moved with
  | load byte written idle =>
      refine ⟨holds.object, holds.enabled, words, wired_load wired written idle, ?_⟩
      exact ⟨told.heard, told.paced, told.tracked, told.unread, fun _ => rfl, told.complete⟩
  | shifted byte reply chip loaded exchanged =>
      have bounded := wired.bounded
      refine ⟨holds.object, holds.enabled, words ++ [(byte, reply)],
        wired_shifted wired loaded exchanged ?_, told_shifted told wired loaded⟩
      split_ifs with room
      · rw [List.length_append]
        exact room
      · exact bounded
  | drift chip moved =>
      refine ⟨holds.object, holds.enabled, words, ?_, ?_⟩
      · exact ⟨.drift words port.chip chip wired.exchanged moved, wired.order, wired.settled,
          wired.signals, wired.bounded⟩
      · exact ⟨told.heard, told.paced, told.tracked, told.unread, told.empty, told.complete⟩

theorem at_weaken {weaker view : View} (holds : At slave start view port)
    (weakens : weaker.Weaker view) : At slave start weaker port := by
  obtain ⟨words, wired, told⟩ := holds.traffic
  refine ⟨holds.object.trans weakens.object.symm, holds.enabled.trans weakens.enabled.symm, words,
    weakens.sent ▸ wired, ?_⟩
  refine ⟨weakens.heard.trans told.heard, ?_, ?_, fun given => told.unread (weakens.unread given),
    fun given => told.empty (weakens.empty given),
    fun given => told.complete (weakens.complete given)⟩
  · intro given
    obtain ⟨tracked, same⟩ := weakens.tracked given
    rw [weakens.sent, same]
    exact told.paced tracked
  · intro given
    obtain ⟨tracked, same⟩ := weakens.tracked given
    rw [same]
    exact told.tracked tracked

end Hardware

section Accesses

variable {view : View}

/-- An access of a machine that is in a view. -/
theorem at_access {Reply : Type} {call : Access Reply} {fact : Reply → Prop} {next : Reply → View}
    (guarded : ∀ port, At slave start view port → sound call port)
    (does : ∀ port answer after, At slave start view port → answers port call answer after →
      fact answer ∧ At slave start (next answer) after) :
    Triple (sercom slave) sound (At slave start view) (access call)
      fun answer port => fact answer ∧ At slave start (next answer) port := by
  apply triple_perform (at_stable view)
  · exact fun answer => stable_and (stable_fact _) (at_stable (next answer))
  · exact guarded
  · exact does

theorem object_reads :
    Triple (sercom slave) sound (At slave start view) (access .object)
      fun object port => object = view.object ∧ At slave start view port := by
  apply at_access
  · exact fun _ _ => trivial
  · intro port answer after holds answered
    obtain ⟨rfl, rfl⟩ := answered
    exact ⟨holds.object, holds⟩

theorem intenset_reads :
    Triple (sercom slave) sound (At slave start view) (access .intenset)
      fun enabled port => enabled = view.enabled ∧ At slave start view port := by
  apply at_access
  · exact fun _ _ => trivial
  · intro port answer after holds answered
    obtain ⟨rfl, rfl⟩ := answered
    exact ⟨holds.enabled, holds⟩

theorem store_stores (change : SpiObject → SpiObject) :
    Triple (sercom slave) sound (At slave start view) (access (.store change))
      fun _ port => At slave start (view.store change) port := by
  apply triple_perform (at_stable view) (fun _ => at_stable _) fun _ _ => trivial
  intro port _ after holds answered
  subst answered
  obtain ⟨words, wired, told⟩ := holds.traffic
  refine ⟨congrArg change holds.object, holds.enabled, words, ?_, ?_⟩
  · exact ⟨wired.exchanged, wired.order, wired.settled, wired.signals, wired.bounded⟩
  · exact ⟨told.heard, told.paced, told.tracked, told.unread, told.empty, told.complete⟩

theorem at_enabled {enabled : Interrupts} {port : Port Chip} (holds : At slave start view port) :
    At slave start { view with enabled := enabled } { port with enabled := enabled } := by
  obtain ⟨words, wired, told⟩ := holds.traffic
  refine ⟨holds.object, rfl, words, ?_, ?_⟩
  · exact ⟨wired.exchanged, wired.order, wired.settled, wired.signals, wired.bounded⟩
  · exact ⟨told.heard, told.paced, told.tracked, told.unread, told.empty, told.complete⟩

theorem intenset_sets (mask : Interrupts) :
    Triple (sercom slave) sound (At slave start view) (access (.setIntenset mask))
      fun _ port => At slave start (view.enable mask) port := by
  apply triple_perform (at_stable view) (fun _ => at_stable _) fun _ _ => trivial
  intro port _ after holds answered
  subst answered
  rw [holds.enabled]
  exact at_enabled holds

theorem intenclr_clears (mask : Interrupts) :
    Triple (sercom slave) sound (At slave start view) (access (.setIntenclr mask))
      fun _ port => At slave start (view.disable mask) port := by
  apply triple_perform (at_stable view) (fun _ => at_stable _) fun _ _ => trivial
  intro port _ after holds answered
  subst answered
  rw [holds.enabled]
  exact at_enabled holds

/-- The moment of reading is remembered. -/
theorem intflag_reads :
    Triple (sercom slave) sound (At slave start view) (access .intflag)
      fun flags port => (∃ seen, At slave start view seen ∧ flags = seen.flags) ∧
        At slave start (view.observe flags) port := by
  apply at_access
  · exact fun _ _ => trivial
  · intro port answer after holds answered
    obtain ⟨rfl, rfl⟩ := answered
    obtain ⟨words, wired, told⟩ := holds.traffic
    refine ⟨⟨after, holds, rfl⟩, holds.object, holds.enabled, words, wired, ?_⟩
    refine ⟨told.heard, told.paced, told.tracked, ?_, ?_, ?_⟩
    · intro unread
      rcases unread with unread | set
      · exact told.unread unread
      · intro nothing
        change (!after.unread.isEmpty) = true at set
        rw [nothing] at set
        cases set
    · intro empty
      rcases empty with empty | set
      · exact told.empty empty
      · exact Option.isNone_iff_eq_none.mp set
    · intro complete
      rcases complete with complete | set
      · exact told.complete complete
      · exact set

/-- The oldest reply that is waiting is the next one of the slave. -/
theorem data_reads (waiting : view.unread) :
    Triple (sercom slave) sound (At slave start view) (access .readData)
      fun word port => ∃ heard, (heard = view.heard ++ [word] ∧ view.tracked ∨
        heard = view.heard ∧ ¬view.tracked) ∧
        At slave start (view.hear heard) port := by
  apply triple_perform (at_stable view)
  · exact fun word => stable_exists fun heard => stable_and (stable_fact _) (at_stable _)
  · intro port holds
    obtain ⟨words, _, told⟩ := holds.traffic
    exact told.unread waiting
  · intro port word after holds answered
    obtain ⟨first, rfl⟩ := answered
    obtain ⟨words, wired, told⟩ := holds.traffic
    have shorter : port.read.unread.length ≤ 2 := by
      have bounded := wired.bounded
      change port.unread.tail.length ≤ 2
      rw [List.length_tail]
      omega
    have wires : Wired slave start view.sent words port.read :=
      ⟨wired.exchanged, wired.order, wired.settled, wired.signals, shorter⟩
    by_cases tracked : view.tracked
    · have unread := told.tracked tracked
      have more := told.unread waiting
      have known := told.heard.length_le
      have inside : view.heard.length < (words.map Prod.snd).length := by
        rw [unread, Ne, List.drop_eq_nil_iff] at more
        omega
      have next : word = (words.map Prod.snd)[view.heard.length] := by
        apply first
        rw [unread, List.head?_drop]
        exact List.getElem?_eq_getElem inside
      have whole : view.heard = (words.map Prod.snd).take view.heard.length :=
        List.prefix_iff_eq_take.mp told.heard
      have extended : view.heard ++ [word] = (words.map Prod.snd).take (view.heard.length + 1) := by
        rw [List.take_succ_eq_append_getElem inside, ← whole, next]
      refine ⟨view.heard ++ [word], .inl ⟨rfl, tracked⟩, holds.object, holds.enabled, words,
        wires, ?_⟩
      refine ⟨?_, ?_, ?_, nofun, told.empty, told.complete⟩
      · change view.heard ++ [word] <+: _
        rw [extended]
        exact List.take_prefix _ _
      · intro _
        have paced := told.paced tracked
        change view.sent.length ≤ (view.heard ++ [word]).length + 1
        rw [List.length_append]
        omega
      · intro _
        change port.unread.tail = (words.map Prod.snd).drop (view.heard ++ [word]).length
        rw [unread, List.tail_drop, List.length_append, List.length_singleton]
    · refine ⟨view.heard, .inr ⟨rfl, tracked⟩, holds.object, holds.enabled, words, wires, ?_⟩
      exact ⟨told.heard, told.paced, fun holds => absurd holds tracked, nofun, told.empty,
        told.complete⟩

theorem buffer_writes {index : Nat} (value : Byte)
    (inside : index < (view.object.rxBuffer.getD []).length) :
    Triple (sercom slave) sound (At slave start view) (access (.writeRx index value))
      fun _ port => At slave start (view.fill index value) port := by
  apply triple_perform (at_stable view) fun _ => at_stable _
  · intro port holds
    change index < (port.object.rxBuffer.getD []).length
    rw [holds.object]
    exact inside
  · intro port _ after holds answered
    subst answered
    obtain ⟨words, wired, told⟩ := holds.traffic
    refine ⟨by rw [holds.object]; rfl, holds.enabled, words, ?_, ?_⟩
    · exact ⟨wired.exchanged, wired.order, wired.settled, wired.signals, wired.bounded⟩
    · exact ⟨told.heard, told.paced, told.tracked, told.unread, told.empty, told.complete⟩

theorem buffer_reads {index : Nat} {byte : Byte}
    (found : (view.object.txBuffer.getD [])[index]? = some byte) :
    Triple (sercom slave) sound (At slave start view) (access (.readTx index))
      fun answer port => answer = byte ∧ At slave start view port := by
  apply at_access
  · intro port holds
    change index < (port.object.txBuffer.getD []).length
    rw [holds.object]
    exact (List.getElem?_eq_some_iff.mp found).1
  · intro port answer after holds answered
    obtain ⟨same, rfl⟩ := answered
    rw [holds.object] at same
    exact ⟨same byte found, holds⟩

/-- A word follows the ones written before; the replies stay known if the driver
keeps the pace. -/
theorem data_writes (byte : Byte) (empty : view.empty)
    (paced : view.tracked → view.sent.length ≤ view.heard.length) :
    Triple (sercom slave) sound (At slave start view) (access (.writeData byte))
      fun _ port => At slave start (view.send byte) port := by
  apply triple_perform (at_stable view) fun _ => at_stable _
  · intro port holds
    obtain ⟨words, _, told⟩ := holds.traffic
    exact told.empty empty
  · intro port _ after holds answered
    subst answered
    obtain ⟨words, wired, told⟩ := holds.traffic
    have free := told.empty empty
    refine ⟨holds.object, holds.enabled, words, ?_, ?_⟩
    · refine ⟨wired.exchanged, ?_, nofun, nofun, wired.bounded⟩
      have order := wired.order
      rw [free, Option.toList_none, List.append_nil] at order
      exact congrArg (· ++ [byte]) order
    · refine ⟨told.heard, ?_, told.tracked, told.unread, nofun, nofun⟩
      intro tracked
      have pace := paced tracked
      change (view.sent ++ [byte]).length ≤ _
      rw [List.length_append]
      exact Nat.add_le_add_right pace 1

end Accesses

end LoraNode.SpiMaster
