import LoraNode.Foundation.Interference

/-!
# Calls that are implemented by programs

A program over one interface runs on another when every call is replaced by a
program there. If each of these realizes its call, whatever is proved over the
upper interface holds of the program that runs on the lower one. A reply of
`none` stands for an implementation that is still waiting.
-/

namespace LoraNode.Foundation.Layer

open LoraNode.Foundation.Program LoraNode.Foundation.Interference

variable {Call Middle Inner : Type → Type} {Upper Between Lower : Type*} {Result : Type}

/-- The program with every call carried out by its body. -/
def implement (body : {Reply : Type} → Call Reply → Program Inner (Option Reply)) :
    Program Call Result → Program Inner (Option Result)
  | .done result => .done (some result)
  | .ask call next => do
      match ← body call with
      | none => return none
      | some answer => implement body (next answer)

theorem implement_map {Seen : Type} (view : Result → Seen)
    (body : {Reply : Type} → Call Reply → Program Inner (Option Reply))
    (program : Program Call Result) :
    implement body (view <$> program) = Option.map view <$> implement body program := by
  induction program with
  | done result => rfl
  | ask call next induction =>
      change implement body (.ask call fun answer => view <$> next answer) = _
      rw [implement, implement, map_bind]
      congr 1
      funext answer
      cases answer with
      | none => rfl
      | some answer => exact induction answer

def Finished {State : Type*} (waiting : State → Prop) (post : Result → State → Prop)
    (result : Option Result) (state : State) : Prop :=
  result.elim (waiting state) fun value => post value state

/-- One access above, with the steps of others before and after it. -/
def Taken (upper : Setting Call Upper) (state : Upper) {Reply : Type} (call : Call Reply)
    (answer : Reply) (last : Upper) : Prop :=
  ∃ before after, Disturbed upper state before ∧ upper.answers before call answer after ∧
    Disturbed upper after last

/-- The bodies do below what the calls do above. -/
structure Realizes (upper : Setting Call Upper) (during : Guard Call Upper)
    (lower : Setting Inner Lower) (guard : Guard Inner Lower)
    (body : {Reply : Type} → Call Reply → Program Inner (Option Reply)) (waiting : Lower → Prop)
    (represents : Lower → Upper → Prop) : Prop where
  waits : Stable lower waiting
  rests : ∀ low next high, represents low high → lower.interferes low next →
    ∃ last, Disturbed upper high last ∧ represents next last
  takes : ∀ (Reply : Type) (call : Call Reply) low high, during call high → represents low high →
    Secured lower guard (body call)
      (Finished waiting fun answer next => ∃ last, Taken upper high call answer last ∧
        represents next last) low

variable {upper : Setting Call Upper} {during : Guard Call Upper} {lower : Setting Inner Lower}
  {guard : Guard Inner Lower} {body : {Reply : Type} → Call Reply → Program Inner (Option Reply)}
  {waiting : Lower → Prop} {represents : Lower → Upper → Prop}

theorem represents_disturbed (realizes : Realizes upper during lower guard body waiting represents)
    {low next : Lower} {high : Upper} (shown : represents low high)
    (disturbed : Disturbed lower low next) :
    ∃ last, Disturbed upper high last ∧ represents next last := by
  induction disturbed with
  | refl => exact ⟨high, .refl, shown⟩
  | tail _ moved induction =>
      obtain ⟨middle, reached, shown⟩ := induction
      obtain ⟨last, further, shown⟩ := realizes.rests _ _ _ shown moved
      exact ⟨last, reached.trans further, shown⟩

theorem secured_taken {Reply : Type} {call : Call Reply} {next : Reply → Program Call Result}
    {post : Result → Upper → Prop} {high last : Upper} {answer : Reply}
    (secured : Secured upper during (.ask call next) post high)
    (taken : Taken upper high call answer last) : Secured upper during (next answer) post last := by
  obtain ⟨before, after, earlier, answered, later⟩ := taken
  exact secured_later ((secured before earlier).2 answer after answered) later

/-- What holds of the program above holds of its implementation. -/
theorem secured_implement (realizes : Realizes upper during lower guard body waiting represents)
    {program : Program Call Result} {post : Result → Upper → Prop} {low : Lower} {high : Upper}
    (shown : represents low high) (secured : Secured upper during program post high) :
    Secured lower guard (implement body program)
      (Finished waiting fun result next => ∃ last, represents next last ∧ post result last)
      low := by
  induction program generalizing low high with
  | done result =>
      intro next disturbed
      obtain ⟨last, reached, shown⟩ := represents_disturbed realizes shown disturbed
      exact ⟨last, shown, secured last reached⟩
  | ask call next induction =>
      have guarded := (secured high .refl).1
      rw [implement]
      apply secured_bind
      apply secured_mono (realizes.takes _ call low high guarded shown)
      intro answer after finished
      cases answer with
      | none => exact fun later disturbed => stable_disturbed realizes.waits finished disturbed
      | some answer =>
          obtain ⟨last, taken, shown⟩ := finished
          exact induction answer shown (secured_taken secured taken)

theorem triple_implement (realizes : Realizes upper during lower guard body waiting represents)
    {program : Program Call Result} {pre : Upper → Prop} {post : Result → Upper → Prop}
    (triple : Triple upper during pre program post) :
    Triple lower guard (fun low => ∃ high, represents low high ∧ pre high) (implement body program)
      (Finished waiting fun result next => ∃ last, represents next last ∧ post result last) := by
  intro low holds
  obtain ⟨high, shown, holds⟩ := holds
  exact secured_implement realizes shown (triple high holds)

section Compose

variable {middle : Setting Middle Between} {between : Guard Middle Between}
  {first : {Reply : Type} → Call Reply → Program Middle (Option Reply)}
  {second : {Reply : Type} → Middle Reply → Program Inner (Option Reply)}
  {pending : Between → Prop} {shows : Between → Upper → Prop} {presents : Lower → Between → Prop}

def stacked (first : {Reply : Type} → Call Reply → Program Middle (Option Reply))
    (second : {Reply : Type} → Middle Reply → Program Inner (Option Reply)) {Reply : Type}
    (call : Call Reply) : Program Inner (Option Reply) := do
  let answer ← implement second (first call)
  return answer.join

/-- Either layer may be the one that waits. -/
def Held (waiting : Lower → Prop) (presents : Lower → Between → Prop) (pending : Between → Prop)
    (low : Lower) : Prop :=
  waiting low ∨ ∃ mid, presents low mid ∧ pending mid

theorem held_stable (top : Realizes upper during middle between first pending shows)
    (bottom : Realizes middle between lower guard second waiting presents) :
    Stable lower (Held waiting presents pending) := by
  intro low next held moved
  rcases held with waits | ⟨mid, presented, waits⟩
  · exact .inl (bottom.waits low next waits moved)
  · obtain ⟨reached, disturbed, presented⟩ := bottom.rests _ _ _ presented moved
    exact .inr ⟨reached, presented, stable_disturbed top.waits waits disturbed⟩

theorem taken_later {Reply : Type} {call : Call Reply} {high last final : Upper} {answer : Reply}
    (taken : Taken upper high call answer last) (disturbed : Disturbed upper last final) :
    Taken upper high call answer final := by
  obtain ⟨before, after, earlier, answered, later⟩ := taken
  exact ⟨before, after, earlier, answered, later.trans disturbed⟩

theorem realizes_trans (top : Realizes upper during middle between first pending shows)
    (bottom : Realizes middle between lower guard second waiting presents) :
    Realizes upper during lower guard (stacked first second) (Held waiting presents pending)
      (fun low high => ∃ mid, presents low mid ∧ shows mid high) where
  waits := held_stable top bottom
  rests := by
    intro low next high shown moved
    obtain ⟨mid, presented, shown⟩ := shown
    obtain ⟨reached, disturbed, presented⟩ := bottom.rests _ _ _ presented moved
    obtain ⟨last, further, shown⟩ := represents_disturbed top shown disturbed
    exact ⟨last, further, reached, presented, shown⟩
  takes := by
    intro Reply call low high guarded shown
    obtain ⟨mid, presented, shown⟩ := shown
    have above := top.takes Reply call mid high guarded shown
    apply secured_bind
    apply secured_mono (secured_implement bottom presented above)
    intro answer after finished later disturbed
    cases answer with
    | none => exact .inl (stable_disturbed bottom.waits finished disturbed)
    | some answer =>
        obtain ⟨mid, presented, ends⟩ := finished
        obtain ⟨reached, further, presented⟩ := represents_disturbed bottom presented disturbed
        cases answer with
        | none => exact .inr ⟨reached, presented, stable_disturbed top.waits ends further⟩
        | some value =>
            obtain ⟨last, taken, shown⟩ := ends
            obtain ⟨final, steps, shown⟩ := represents_disturbed top shown further
            exact ⟨final, taken_later taken steps, reached, presented, shown⟩

end Compose

end LoraNode.Foundation.Layer
