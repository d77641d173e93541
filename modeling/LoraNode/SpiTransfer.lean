import LoraNode.SpiHandler

/-!
# A transfer from its request to its end

The handler takes a transfer from phase to phase until it is over, whatever the
shift register and the slave do meanwhile. `SERCOM1_SPI_WriteRead` starts a
transfer and `SERCOM1_SPI_IsBusy` tells when it is over.
-/

namespace LoraNode.SpiMaster

open LoraNode.Foundation LoraNode.Foundation.Bytes LoraNode.Foundation.Program
  LoraNode.Foundation.Interference

variable {Chip : Type*} {Pin : Type → Type} {slave : Slave Chip Pin} {start : Chip}

namespace Job

def Ended (job : Job) (slave : Slave Chip Pin) (start : Chip) (port : Port Chip) : Prop :=
  ∃ heard, job.rxSize ≤ heard.length ∧ At slave start (job.ending heard) port

def Moving (job : Job) (slave : Slave Chip Pin) (start : Chip) (bound : Nat) (port : Port Chip) :
    Prop :=
  ∃ phase count heard, (job.Fits count heard phase ∧ job.rank count heard phase < bound) ∧
    At slave start (job.rest phase count heard) port

def Advanced (job : Job) (slave : Slave Chip Pin) (start : Chip) (bound : Nat)
    (port : Port Chip) : Prop :=
  job.Ended slave start port ∨ job.Moving slave start bound port

variable (job : Job)

theorem advanced_stable (bound : Nat) : Stable (sercom slave) (job.Advanced slave start bound) := by
  apply stable_or
  · exact stable_exists fun heard => stable_and (stable_fact _) (at_stable _)
  · exact stable_exists fun phase => stable_exists fun count => stable_exists fun heard =>
      stable_and (stable_fact _) (at_stable _)

theorem advanced_mono {job : Job} {bound most : Nat} {port : Port Chip} (below : bound ≤ most)
    (advanced : job.Advanced slave start bound port) : job.Advanced slave start most port := by
  rcases advanced with ended | ⟨phase, count, heard, ⟨fits, lower⟩, rests⟩
  · exact .inl ended
  · exact .inr ⟨phase, count, heard, ⟨fits, Nat.lt_of_lt_of_le lower below⟩, rests⟩

def asked (phase : Phase) (count : Nat) (heard : List Byte) : View :=
  match phase with
  | .paced => { job.rest .paced count heard with unread := True }
  | .streamed => { job.rest .streamed count heard with empty := True }
  | .closing true =>
      { job.rest (.closing true) count heard with
        unread := heard.length < job.out.length
        complete := job.out.length ≤ heard.length }
  | .closing false => { job.rest (.closing false) count heard with complete := True }

theorem out_take {count : Nat} (whole : count = job.out.length) : job.out.take count = job.out :=
  List.take_of_length_le (Nat.le_of_eq whole.symm)

end Job

section Handler

variable {job : Job} {count : Nat} {heard : List Byte}

theorem requests_cases {port : Port Chip} (requests : port.requests) :
    port.enabled.dre = true ∧ port.data = none ∨ port.enabled.txc = true ∧ port.txc = true ∨
      port.enabled.rxc = true ∧ port.unread ≠ [] := by
  simp only [Port.requests, Port.flags, Bool.or_eq_true, Bool.and_eq_true] at requests
  rcases requests with (empty | complete) | unread
  · exact .inl ⟨empty.1, Option.isNone_iff_eq_none.mp empty.2⟩
  · exact .inr (.inl complete)
  · refine .inr (.inr ⟨unread.1, ?_⟩)
    intro nothing
    have set := unread.2
    rw [nothing] at set
    cases set

theorem requests_asked {phase : Job.Phase} {port : Port Chip} (fits : job.Fits count heard phase)
    (requests : port.requests) (holds : At slave start (job.rest phase count heard) port) :
    At slave start (job.asked phase count heard) port := by
  have enabled := holds.enabled
  obtain ⟨words, wired, told⟩ := holds.traffic
  cases phase with
  | paced =>
      refine ⟨holds.object, holds.enabled, words, wired, ?_⟩
      refine ⟨told.heard, told.paced, told.tracked, fun _ => ?_, told.empty, told.complete⟩
      rcases requests_cases requests with set | set | set
      · rw [enabled] at set
        cases set.1
      · rw [enabled] at set
        cases set.1
      · exact set.2
  | streamed =>
      refine ⟨holds.object, holds.enabled, words, wired, ?_⟩
      refine ⟨told.heard, told.paced, told.tracked, told.unread, fun _ => ?_, told.complete⟩
      rcases requests_cases requests with set | set | set
      · exact set.2
      · rw [enabled] at set
        cases set.1
      · rw [enabled] at set
        cases set.1
  | closing listening =>
      cases listening with
      | false =>
          refine ⟨holds.object, holds.enabled, words, wired, ?_⟩
          refine ⟨told.heard, told.paced, told.tracked, told.unread, told.empty, fun _ => ?_⟩
          rcases requests_cases requests with set | set | set
          · rw [enabled] at set
            cases set.1
          · exact set.2
          · rw [enabled] at set
            cases set.1
      | true =>
          have whole := job.out_take fits.1
          have unread := told.tracked rfl
          refine ⟨holds.object, holds.enabled, words, wired, ?_⟩
          refine ⟨told.heard, told.paced, told.tracked, ?_, told.empty, ?_⟩
          · intro less
            rcases requests_cases requests with set | set | set
            · rw [enabled] at set
              cases set.1
            · -- every word is out, and not every reply has been read
              have all := wired_complete wired set.2
              change port.unread ≠ []
              rw [unread, Ne, List.drop_eq_nil_iff, List.length_map]
              have size := congrArg List.length all
              rw [List.length_map] at size
              change _ = (job.out.take count).length at size
              rw [whole] at size
              change ¬words.length ≤ heard.length
              change heard.length < job.out.length at less
              omega
            · exact set.2
          · intro every
            rcases requests_cases requests with set | set | set
            · rw [enabled] at set
              cases set.1
            · exact set.2
            · have known := told.heard.length_le
              have length := wired_length wired
              change _ = (job.out.take count).length at length
              rw [whole] at length
              rw [List.length_map] at known
              change job.out.length ≤ heard.length at every
              change heard.length ≤ words.length at known
              have nothing : port.unread = [] := by
                rw [unread, List.drop_eq_nil_iff, List.length_map]
                change words.length ≤ heard.length
                omega
              exact absurd nothing set.2

/-- The handler up to the reply it may find. -/
theorem handler_receives (view : View) (last : Bool) (post : Unit → Port Chip → Prop)
    (object : view.object = job.object (min view.heard.length job.rxSize) (min count job.txSize)
      count view.heard last)
    (enabled : view.enabled ≠ noInterrupts)
    (silent : view.tracked ∨ view.heard.length = job.rxSize)
    (continues : ∀ heard, Hears view heard →
      Triple (sercom slave) sound
        (At slave start (view.received (job.object (min view.heard.length job.rxSize)
          (min count job.txSize) count heard last) heard))
        (do
          let txCount ← transmitWord (min heard.length job.rxSize) (min count job.txSize) job.txSize
          access (.store fun object => { object with rxCount := min heard.length job.rxSize })
          access (.store fun object => { object with txCount := txCount })
          finish (min heard.length job.rxSize)
          awaitLast) post) :
    Triple (sercom slave) sound (At slave start view) interruptHandler post := by
  rw [interruptHandler]
  apply triple_seq intenset_reads
  intro read
  apply triple_fact
  intro same
  rw [same]
  apply triple_ite
  · intro off
    exact absurd off enabled
  · intro _
    apply triple_seq object_reads
    intro again
    apply triple_fact
    intro same
    rw [same, object]
    apply triple_seq (receiveWord_hears _ _ count last object rfl silent)
    intro rxCount
    apply triple_exists
    intro heard
    apply triple_fact
    intro hears
    apply triple_fact
    intro counts
    rw [counts]
    exact continues heard hears

def View.counted (view : View) (rxCount txCount : Nat) : View :=
  view.store fun object => { object with rxCount := rxCount, txCount := txCount }

theorem settle_open (view : View) (rxCount txCount : Nat)
    (going : view.object.isLastByteTransferInProgress = false) :
    Triple (sercom slave) sound (At slave start view)
      (do
        access (.store fun object => { object with rxCount := rxCount })
        access (.store fun object => { object with txCount := txCount })
        finish rxCount
        awaitLast)
      fun _ port => At slave start (view.counted rxCount txCount).plain port := by
  have open' : (view.counted rxCount txCount).object.isLastByteTransferInProgress = false := going
  apply triple_seq (store_stores _)
  intro _
  apply triple_seq (store_stores _)
  intro _
  apply triple_seq (finish_open rxCount open')
  intro _
  exact awaitLast_open open'

theorem settle_last (view : View) (rxStored txStored : Nat)
    (object : view.object = job.object rxStored txStored job.out.length view.heard true)
    (sent : view.sent = job.out) :
    Triple (sercom slave) sound (At slave start view)
      (do
        access (.store fun object => { object with rxCount := min view.heard.length job.rxSize })
        access (.store fun object => { object with txCount := job.txSize })
        finish (min view.heard.length job.rxSize)
        awaitLast)
      fun _ port =>
        (job.rxSize ≤ view.heard.length ∧ At slave start (job.ending view.heard) port) ∨
          ¬(view.complete ∧ job.rxSize ≤ view.heard.length) ∧
            At slave start ((view.counted (min view.heard.length job.rxSize)
              job.txSize).plain.enable transmitComplete) port := by
  have counted : (view.counted (min view.heard.length job.rxSize) job.txSize).object =
      job.object (min view.heard.length job.rxSize) job.txSize job.out.length view.heard true := by
    change { view.object with
      rxCount := min view.heard.length job.rxSize, txCount := job.txSize } = _
    rw [object]
    rfl
  have last : (view.counted (min view.heard.length job.rxSize)
      job.txSize).plain.object.isLastByteTransferInProgress = true :=
    congrArg SpiObject.isLastByteTransferInProgress counted
  apply triple_seq (store_stores _)
  intro _
  apply triple_seq (store_stores _)
  intro _
  apply triple_seq (finish_last (view.counted (min view.heard.length job.rxSize) job.txSize)
    job.txSize view.heard counted rfl sent rfl)
  intro _ port ends
  have still : Triple (sercom slave) sound (At slave start (job.ending view.heard)) awaitLast
      fun _ => At slave start (job.ending view.heard) := awaitLast_open rfl
  rcases ends with ⟨full, ended⟩ | ⟨more, open'⟩
  · exact secured_mono (still port ended) fun _ after holds => .inl ⟨full, holds⟩
  · exact secured_mono (awaitLast_last last port open') fun _ after holds => .inr ⟨more, holds⟩

def View.went (view : View) (object : SpiObject) (enabled : Interrupts) (sent : List Byte) : View :=
  { view.plain with object := object, enabled := enabled, sent := sent }

/-- The next word is the last one, or the handler has chosen how to go on. -/
def Sends (job : Job) (slave : Slave Chip Pin) (start : Chip) (view : View) (count : Nat)
    (port : Port Chip) : Prop :=
  let rxCount := min view.heard.length job.rxSize
  let enabled := view.enabled.disable dataRegisterEmpty
  (job.next count = job.out.length ∧ (job.Ended slave start port ∨
    At slave start (view.went (job.object rxCount job.txSize job.out.length view.heard true)
      (enabled.enable transmitComplete) job.out) port)) ∨
  (job.next count < job.out.length ∧
    At slave start (view.went (job.object rxCount (min (job.next count) job.txSize)
      (job.next count) view.heard false)
      (if rxCount = job.rxSize then
        (enabled.enable dataRegisterEmpty).disable receiveComplete else enabled)
      (job.out.take (job.next count))) port)

theorem handler_sends (view : View) (rxStored txStored : Nat)
    (object : view.object = job.object rxStored txStored count view.heard false)
    (sent : view.sent = job.out.take count) (within : count ≤ job.out.length)
    (paced : count < job.out.length → view.tracked → count ≤ view.heard.length)
    (free : ∀ port, At slave start view port → port.data = none) :
    Triple (sercom slave) sound (At slave start view)
      (do
        let txCount ←
          transmitWord (min view.heard.length job.rxSize) (min count job.txSize) job.txSize
        access (.store fun object => { object with rxCount := min view.heard.length job.rxSize })
        access (.store fun object => { object with txCount := txCount })
        finish (min view.heard.length job.rxSize)
        awaitLast)
      fun _ port => Sends job slave start view count port := by
  have length := job.out_length
  have bound : job.next count ≤ job.out.length := Nat.min_le_right _ _
  apply triple_seq (transmitWord_writes _ rxStored txStored count false object sent within paced
    free)
  intro answer
  apply triple_fact
  intro same
  rw [same]
  apply triple_exists
  intro flags
  rw [View.chosen]
  by_cases whole : job.next count = job.out.length
  · have sends : min (job.next count) job.txSize = job.txSize := by omega
    rw [if_pos whole, sends, whole]
    apply triple_mono (settle_last ((((view.observe flags).disable dataRegisterEmpty).advanced
      (job.object rxStored txStored job.out.length view.heard false)
      (job.out.take job.out.length)).store fun object => { object with
        isLastByteTransferInProgress := true }) rxStored txStored rfl (job.out_take rfl))
    · exact fun _ holds => holds
    · intro _ port ends
      rcases ends with ⟨full, ended⟩ | ⟨_, open'⟩
      · exact .inl ⟨whole, .inl ⟨view.heard, full, ended⟩⟩
      · refine .inl ⟨whole, .inr (at_weaken open' ?_)⟩
        refine ⟨rfl, rfl, ?_, List.prefix_rfl, fun given => ⟨given, rfl⟩, id, id, id⟩
        exact (job.out_take rfl).symm
  · rw [if_neg whole]
    have left : job.next count < job.out.length := by omega
    split_ifs with full
    · apply triple_mono (settle_open _ _ _ rfl) fun _ holds => holds
      intro _ port open'
      refine .inr ⟨left, at_weaken open' ?_⟩
      refine ⟨rfl, ?_, rfl, List.prefix_rfl, fun given => ⟨given, rfl⟩, id, id, id⟩
      exact if_pos full
    · apply triple_mono (settle_open _ _ _ rfl) fun _ holds => holds
      intro _ port open'
      refine .inr ⟨left, at_weaken open' ?_⟩
      refine ⟨rfl, ?_, rfl, List.prefix_rfl, fun given => ⟨given, rfl⟩, id, id, id⟩
      exact if_neg full

/-- A reply came and a word follows it. -/
theorem handler_paced (fits : job.Fits count heard .paced) :
    Triple (sercom slave) sound (At slave start (job.asked .paced count heard)) interruptHandler
      fun _ => job.Advanced slave start (job.rank count heard .paced) := by
  obtain ⟨written, within⟩ := fits
  apply handler_receives (job.asked .paced count heard) false _ rfl nofun (.inl rfl)
  intro replies hears
  have read : replies.length = count := (hears.reads trivial rfl).trans written.symm
  have next : job.next count = min (count + 1) job.out.length := rfl
  have free (port : Port Chip) (holds : At slave start ((job.asked .paced count heard).received
      (job.object (min heard.length job.rxSize) (min count job.txSize) count replies false)
        replies) port) : port.data = none := by
    obtain ⟨words, wired, told⟩ := holds.traffic
    have known := told.heard.length_le
    rw [List.length_map] at known
    change replies.length ≤ words.length at known
    apply (wired_empty wired ?_).2
    change (job.out.take count).length ≤ words.length
    rw [List.length_take]
    omega
  apply triple_mono (handler_sends ((job.asked .paced count heard).received _ replies) _ _ rfl rfl
    within (fun _ _ => Nat.le_of_eq read.symm) free) fun _ holds => holds
  intro _ port sends
  rcases sends with ⟨whole, ended | last⟩ | ⟨left, open'⟩
  · exact .inl ended
  · refine .inr ⟨.closing true, job.out.length, replies, ⟨⟨rfl, ?_, ?_⟩, ?_⟩, at_weaken last ?_⟩
    · omega
    · omega
    · change job.out.length - replies.length + 1 < 2 * (job.out.length - count) + 3
      omega
    · have sends : min job.out.length job.txSize = job.txSize := by
        have length := job.out_length
        omega
      refine ⟨?_, rfl, job.out_take rfl, List.prefix_rfl, fun given => ⟨given, rfl⟩, id, id, id⟩
      change job.object _ (min job.out.length job.txSize) _ _ _ = _
      rw [sends]
      rfl
  · by_cases full : min replies.length job.rxSize = job.rxSize
    · have long : job.rxSize ≤ replies.length := by omega
      have size : (replies.take job.rxSize).length = job.rxSize := by
        rw [List.length_take, Nat.min_eq_left long]
      refine .inr ⟨.streamed, job.next count, replies.take job.rxSize, ⟨⟨size, ?_⟩, ?_⟩,
        at_weaken open' ?_⟩
      · omega
      · change 2 * (job.out.length - job.next count) + 2 < 2 * (job.out.length - count) + 3
        omega
      · refine ⟨?_, ?_, rfl, List.take_prefix _ _, nofun, id, id, id⟩
        · change job.object _ _ _ _ _ = job.object (min replies.length job.rxSize)
            (min (job.next count) job.txSize) (job.next count) replies false
          rw [size, Nat.min_self, full, Job.object, Job.object, job.stored_take long]
          rfl
        · exact (if_pos full).symm
    · refine .inr ⟨.paced, job.next count, replies, ⟨⟨?_, ?_⟩, ?_⟩, at_weaken open' ?_⟩
      · omega
      · omega
      · change 2 * (job.out.length - job.next count) + 3 < 2 * (job.out.length - count) + 3
        omega
      · refine ⟨rfl, ?_, rfl, List.prefix_rfl, fun given => ⟨given, rfl⟩, id, id, id⟩
        exact (if_neg full).symm

/-- DATA was empty and the next word was written. -/
theorem handler_streamed (fits : job.Fits count heard .streamed) :
    Triple (sercom slave) sound (At slave start (job.asked .streamed count heard)) interruptHandler
      fun _ => job.Advanced slave start (job.rank count heard .streamed) := by
  obtain ⟨full, within⟩ := fits
  apply handler_receives (job.asked .streamed count heard) false _ rfl nofun (.inr full)
  intro replies hears
  have same : replies = heard := by
    rcases hears.grows with same | ⟨tracked, _⟩
    · exact same
    · cases tracked
  subst same
  have next : job.next count = min (count + 1) job.out.length := rfl
  have free (port : Port Chip) (holds : At slave start ((job.asked .streamed count replies).received
      (job.object (min replies.length job.rxSize) (min count job.txSize) count replies false)
        replies) port) : port.data = none := by
    obtain ⟨words, _, told⟩ := holds.traffic
    exact told.empty trivial
  apply triple_mono (handler_sends ((job.asked .streamed count replies).received _ replies) _ _ rfl
    rfl within nofun free) fun _ holds => holds
  intro _ port sends
  have all : min replies.length job.rxSize = job.rxSize := by omega
  rcases sends with ⟨whole, ended | last⟩ | ⟨left, open'⟩
  · exact .inl ended
  · refine .inr ⟨.closing false, job.out.length, replies, ⟨⟨rfl, full⟩, ?_⟩, at_weaken last ?_⟩
    · change 1 < 2 * (job.out.length - count) + 2
      omega
    · have sends : min job.out.length job.txSize = job.txSize := by
        have length := job.out_length
        omega
      refine ⟨?_, rfl, job.out_take rfl, List.prefix_rfl, nofun, id, id, id⟩
      change job.object _ (min job.out.length job.txSize) _ _ _ = _
      rw [sends]
      rfl
  · refine .inr ⟨.streamed, job.next count, replies, ⟨⟨full, ?_⟩, ?_⟩, at_weaken open' ?_⟩
    · omega
    · change 2 * (job.out.length - job.next count) + 2 < 2 * (job.out.length - count) + 2
      omega
    · refine ⟨rfl, ?_, rfl, List.prefix_rfl, nofun, id, id, id⟩
      exact (if_pos all).symm

/-- Every word is written; a reply may still be missing. -/
theorem handler_closes (view : View) (rxStored txStored : Nat)
    (object : view.object = job.object rxStored txStored job.out.length view.heard true)
    (sent : view.sent = job.out) (off : view.enabled.dre = false) :
    Triple (sercom slave) sound (At slave start view)
      (do
        let txCount ←
          transmitWord (min view.heard.length job.rxSize) (min job.out.length job.txSize) job.txSize
        access (.store fun object => { object with rxCount := min view.heard.length job.rxSize })
        access (.store fun object => { object with txCount := txCount })
        finish (min view.heard.length job.rxSize)
        awaitLast)
      fun _ port => job.Ended slave start port ∨
        ¬(view.complete ∧ job.rxSize ≤ view.heard.length) ∧
          At slave start (view.went (job.object (min view.heard.length job.rxSize) job.txSize
            job.out.length view.heard true) (view.enabled.enable transmitComplete) job.out)
            port := by
  apply triple_seq (transmitWord_rests view _ rxStored txStored object off)
  intro answer
  apply triple_fact
  intro same
  rw [same]
  apply triple_mono (settle_last view rxStored txStored object sent) fun _ holds => holds
  intro _ port ends
  rcases ends with ⟨full, ended⟩ | ⟨more, last⟩
  · exact .inl ⟨view.heard, full, ended⟩
  · refine .inr ⟨more, at_weaken last ?_⟩
    refine ⟨?_, rfl, sent.symm, List.prefix_rfl, fun given => ⟨given, rfl⟩, id, id, id⟩
    change _ = { view.object with
      rxCount := min view.heard.length job.rxSize, txCount := job.txSize }
    rw [object]
    rfl

/-- The last word is on its way and its reply is awaited. -/
theorem handler_listens (fits : job.Fits count heard (.closing true)) :
    Triple (sercom slave) sound (At slave start (job.asked (.closing true) count heard))
      interruptHandler fun _ =>
        job.Advanced slave start (job.rank count heard (.closing true)) := by
  obtain ⟨whole, known, pace⟩ := fits
  subst whole
  have length := job.out_length
  apply handler_receives (job.asked (.closing true) job.out.length heard) true _ rfl nofun
    (.inl rfl)
  intro replies hears
  apply triple_mono (handler_closes ((job.asked (.closing true) job.out.length heard).received _
    replies) _ _ rfl (job.out_take rfl) rfl) fun _ holds => holds
  intro _ port ends
  have reads (less : heard.length < job.out.length) : replies.length = job.out.length := by
    have read : replies.length = heard.length + 1 := hears.reads less rfl
    omega
  have grows : heard.length ≤ replies.length := by
    rcases hears.grows with same | ⟨_, reply, same⟩
    · rw [same]
      exact Nat.le_refl _
    · rw [same, List.length_append]
      exact Nat.le_add_right _ _
  rcases ends with ended | ⟨more, last⟩
  · exact .inl ended
  · have less : heard.length < job.out.length := by
      apply Nat.lt_of_not_le
      intro every
      apply more
      constructor
      · exact every
      · change job.rxSize ≤ replies.length
        omega
    have all := reads less
    refine .inr ⟨.closing true, job.out.length, replies, ⟨⟨rfl, ?_, ?_⟩, ?_⟩, at_weaken last ?_⟩
    · omega
    · omega
    · change job.out.length - replies.length + 1 < job.out.length - heard.length + 1
      omega
    · have sends : min job.out.length job.txSize = job.txSize := by omega
      refine ⟨?_, rfl, job.out_take rfl, List.prefix_rfl, fun given => ⟨given, rfl⟩, id, id, id⟩
      change job.object _ (min job.out.length job.txSize) _ _ _ = _
      rw [sends]
      rfl

/-- Nothing is awaited but the last word itself. -/
theorem handler_drains (fits : job.Fits count heard (.closing false)) :
    Triple (sercom slave) sound (At slave start (job.asked (.closing false) count heard))
      interruptHandler
      fun _ => job.Advanced slave start (job.rank count heard (.closing false)) := by
  obtain ⟨whole, full⟩ := fits
  subst whole
  apply handler_receives (job.asked (.closing false) job.out.length heard) true _ rfl nofun
    (.inr full)
  intro replies hears
  have same : replies = heard := by
    rcases hears.grows with same | ⟨tracked, _⟩
    · exact same
    · cases tracked
  subst same
  apply triple_mono (handler_closes ((job.asked (.closing false) job.out.length replies).received _
    replies) _ _ rfl (job.out_take rfl) rfl) fun _ holds => holds
  intro _ port ends
  rcases ends with ended | ⟨more, _⟩
  · exact .inl ended
  · exact absurd ⟨trivial, Nat.le_of_eq full.symm⟩ more

/-- Every run of the handler goes on with the transfer. -/
theorem handler_advances {phase : Job.Phase} (fits : job.Fits count heard phase) :
    Triple (sercom slave) sound
      (fun port => port.requests ∧ At slave start (job.rest phase count heard) port)
      interruptHandler fun _ => job.Advanced slave start (job.rank count heard phase) := by
  apply triple_pre _ fun port holds => requests_asked fits holds.1 holds.2
  cases phase with
  | paced => exact handler_paced fits
  | streamed => exact handler_streamed fits
  | closing listening =>
      cases listening with
      | true => exact handler_listens fits
      | false => exact handler_drains fits

/-- No interrupt is requested once the transfer is over. -/
theorem ended_silent {port : Port Chip} (ended : job.Ended slave start port) : ¬port.requests := by
  obtain ⟨heard, _, holds⟩ := ended
  intro requests
  have enabled := holds.enabled
  rcases requests_cases requests with set | set | set
  · rw [enabled] at set
    cases set.1
  · rw [enabled] at set
    cases set.1
  · rw [enabled] at set
    cases set.1

/-- Whatever the phase, the handler lowers the rank or ends the transfer. -/
theorem handler_lowers (bound : Nat) :
    Triple (sercom slave) sound
      (fun port => port.requests ∧ job.Advanced slave start (bound + 1) port) interruptHandler
      fun _ => job.Advanced slave start bound := by
  intro port holds
  obtain ⟨requests, ended | ⟨phase, count, heard, ⟨fits, rank⟩, rests⟩⟩ := holds
  · exact absurd requests (ended_silent ended)
  · apply secured_mono (handler_advances fits port ⟨requests, rests⟩)
    intro _ after advanced
    rcases advanced with ended | ⟨phase, count, heard, ⟨fits, lower⟩, rests⟩
    · exact .inl ended
    · exact .inr ⟨phase, count, heard, ⟨fits, by omega⟩, rests⟩

end Handler

end LoraNode.SpiMaster
