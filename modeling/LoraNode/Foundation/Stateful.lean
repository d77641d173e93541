import LoraNode.Foundation.Program

/-!
# Calls with bodies that keep a state

A program runs below an interface when the body of each call takes the state
that the last body left. The trace below then falls into one part for each call
of a run above, so what is known of the calls can be read off the parts.
-/

namespace LoraNode.Foundation.Stateful

open LoraNode.Foundation.Program

variable {Call Inner : Type → Type} {State First Reply Result : Type}

def carriedOut (body : {Reply : Type} → Call Reply → State → Program Inner (Reply × State)) :
    Program Call Result → State → Program Inner (Result × State)
  | .done result, state => .done (result, state)
  | .ask call next, state =>
      body call state >>= fun answered => carriedOut body (next answered.1) answered.2

theorem carriedOut_bind (body : {Reply : Type} → Call Reply → State → Program Inner (Reply × State))
    (program : Program Call First) (next : First → Program Call Result) (state : State) :
    carriedOut body (program >>= next) state =
      carriedOut body program state >>= fun found => carriedOut body (next found.1) found.2 := by
  induction program generalizing state with
  | done result => rfl
  | ask call rest induction =>
      change body call state >>= (fun answered => carriedOut body (rest answered.1 >>= next) _) = _
      rw [carriedOut, bind_assoc]
      congr 1
      funext answered
      exact induction answered.1 answered.2

theorem carriedOut_perform
    (body : {Reply : Type} → Call Reply → State → Program Inner (Reply × State))
    (call : Call Reply) (state : State) :
    carriedOut body (perform call) state = body call state := bind_pure _

/-- What a call's part of the trace shows, between the states before and after it. -/
abbrev Part (Call Inner : Type → Type) (State : Type) :=
  (Reply : Type) → Call Reply → State → List (Entry Inner) → Reply → State → Prop

variable {part : Part Call Inner State}

/-- The trace below has a part for each call above, in order. -/
inductive Carries (part : Part Call Inner State) :
    List (Entry Call) → State → List (Entry Inner) → State → Prop where
  | nothing (state : State) : Carries part [] state [] state
  | call {Reply : Type} (call : Call Reply) (answer : Reply) (above : List (Entry Call))
      (state middle last : State) (first below : List (Entry Inner))
      (shown : part Reply call state first answer middle)
      (rest : Carries part above middle below last) :
      Carries part (⟨call, answer⟩ :: above) state (first ++ below) last

/-- What every run above shows, a run below shows through its parts. -/
theorem ensures_carried
    {body : {Reply : Type} → Call Reply → State → Program Inner (Reply × State)}
    (bodies : ∀ (Reply : Type) (call : Call Reply) (state : State),
      (body call state).Ensures fun first answered =>
        part Reply call state first answered.1 answered.2)
    {program : Program Call Result} {post : List (Entry Call) → Result → Prop}
    (ensures : program.Ensures post) (state : State) :
    (carriedOut body program state).Ensures fun below answered =>
      ∃ above, post above answered.1 ∧ Carries part above state below answered.2 := by
  induction program generalizing post state with
  | done result => exact ⟨[], ensures, .nothing state⟩
  | ask call next induction =>
      rw [carriedOut, ensures_bind]
      apply ensures_mono (bodies _ call state)
      intro first answered shown
      apply ensures_mono (induction answered.1 (ensures answered.1) answered.2)
      rintro below last ⟨above, holds, carries⟩
      exact ⟨⟨call, answered.1⟩ :: above, holds,
        .call call answered.1 above state answered.2 last.2 first below shown carries⟩

theorem carries_append {before after : List (Entry Call)} {state last : State}
    {below : List (Entry Inner)} (carries : Carries part (before ++ after) state below last) :
    ∃ first second middle, below = first ++ second ∧ Carries part before state first middle ∧
      Carries part after middle second last := by
  induction before generalizing state below with
  | nil => exact ⟨[], below, state, rfl, .nothing state, carries⟩
  | cons entry before induction =>
      rw [List.cons_append] at carries
      cases carries with
      | call call answer _ _ middle _ first rest shown later =>
          obtain ⟨second, third, between, same, earlier, last⟩ := induction later
          refine ⟨first ++ second, third, between, ?_, ?_, last⟩
          · rw [same, List.append_assoc]
          · exact .call call answer before state middle between first second shown earlier

/-- What every part keeps is kept. -/
theorem carries_invariant {invariant : State → Prop}
    (kept : ∀ (Reply : Type) (call : Call Reply) state first answer next,
      invariant state → part Reply call state first answer next → invariant next)
    {above : List (Entry Call)} {state last : State} {below : List (Entry Inner)}
    (carries : Carries part above state below last) (holds : invariant state) :
    invariant last := by
  induction carries with
  | nothing state => exact holds
  | call call answer above state middle last first below shown rest induction =>
      exact induction (kept _ call state first answer middle holds shown)

end LoraNode.Foundation.Stateful
