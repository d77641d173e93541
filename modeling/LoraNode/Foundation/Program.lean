import Mathlib.Tactic.Common

/-!
# Programs that call an environment

A program is the tree of its calls: what it does next depends on the answer.
`Runs` lets the environment answer anything, `simulate` lets a machine answer,
and `Ensures` is the postcondition of every run with the rules to prove it.
-/

namespace LoraNode.Foundation

inductive Program (Call : Type → Type) (Result : Type) : Type 1 where
  | done (result : Result)
  | ask {Reply : Type} (call : Call Reply) (next : Reply → Program Call Result)

namespace Program

variable {Call : Type → Type} {First Second Reply Result : Type}

def bind (program : Program Call First) (next : First → Program Call Second) :
    Program Call Second :=
  match program with
  | .done result => next result
  | .ask call rest => .ask call fun answer => (rest answer).bind next

instance : Monad (Program Call) where
  pure := .done
  bind := bind

instance : LawfulMonad (Program Call) := by
  refine LawfulMonad.mk' (Program Call) ?_ (fun _ _ => rfl) ?_
  · intro Value program
    induction program with
    | done result => rfl
    | ask call rest induction => exact congrArg (ask call) (funext induction)
  · intro First Second Third program next last
    induction program with
    | done result => rfl
    | ask call rest induction => exact congrArg (ask call) (funext induction)

def perform (call : Call Reply) : Program Call Reply := .ask call .done

structure Entry (Call : Type → Type) where
  {Reply : Type}
  call : Call Reply
  answer : Reply

/-- The environment may answer every call with anything. -/
inductive Runs : Program Call Result → List (Entry Call) → Result → Prop where
  | done (result : Result) : Runs (.done result) [] result
  | ask {Reply : Type} (call : Call Reply) (next : Reply → Program Call Result) (answer : Reply)
      (trace : List (Entry Call)) (result : Result) (rest : Runs (next answer) trace result) :
      Runs (.ask call next) (⟨call, answer⟩ :: trace) result

def Ensures (program : Program Call Result) (post : List (Entry Call) → Result → Prop) : Prop :=
  match program with
  | .done result => post [] result
  | .ask call next =>
      ∀ answer, (next answer).Ensures fun trace result => post (⟨call, answer⟩ :: trace) result

theorem ensures_runs {program : Program Call Result} {post : List (Entry Call) → Result → Prop}
    (ensures : program.Ensures post) {trace : List (Entry Call)} {result : Result}
    (runs : Runs program trace result) : post trace result := by
  induction runs generalizing post with
  | done result => exact ensures
  | ask call next answer trace result rest induction => exact induction (ensures answer)

theorem ensures_mono {program : Program Call Result}
    {first second : List (Entry Call) → Result → Prop} (ensures : program.Ensures first)
    (weaker : ∀ trace result, first trace result → second trace result) :
    program.Ensures second := by
  induction program generalizing first second with
  | done result => exact weaker [] result ensures
  | ask call next induction =>
      intro answer
      exact induction answer (ensures answer) fun trace result => weaker _ _

theorem ensures_and {program : Program Call Result}
    {first second : List (Entry Call) → Result → Prop} (left : program.Ensures first)
    (right : program.Ensures second) :
    program.Ensures fun trace result => first trace result ∧ second trace result := by
  induction program generalizing first second with
  | done result => exact ⟨left, right⟩
  | ask call next induction => exact fun answer => induction answer (left answer) (right answer)

@[simp] theorem ensures_bind (program : Program Call First) (next : First → Program Call Second)
    (post : List (Entry Call) → Second → Prop) :
    (program >>= next).Ensures post ↔
      program.Ensures fun before middle =>
        (next middle).Ensures fun after result => post (before ++ after) result := by
  induction program generalizing post with
  | done result => rfl
  | ask call rest induction => exact forall_congr' fun answer => induction answer _

theorem ensures_ran (program : Program Call Result) :
    program.Ensures fun trace result => Runs program trace result := by
  induction program with
  | done result => exact .done result
  | ask call next induction =>
      intro answer
      apply ensures_mono (induction answer)
      intro trace result ran
      exact .ask call next answer trace result ran

/-- A program does not go on after it has ended, so its answers say where it ends. -/
theorem runs_unique {program : Program Call Result} {first second more rest : List (Entry Call)}
    {left right : Result} (ran : Runs program first left) (again : Runs program second right)
    (same : first ++ more = second ++ rest) : left = right ∧ more = rest := by
  induction ran generalizing second with
  | done result =>
      cases again
      exact ⟨rfl, same⟩
  | ask call next answer trace result ran induction =>
      cases again with
      | ask _ _ answer' trace' _ again =>
          rw [List.cons_append, List.cons_append, List.cons.injEq, Entry.mk.injEq] at same
          obtain ⟨⟨-, -, alike⟩, same⟩ := same
          obtain rfl := eq_of_heq alike
          exact induction again same

theorem ensures_trivial (program : Program Call Result) : program.Ensures fun _ _ => True := by
  induction program with
  | done result => exact True.intro
  | ask call next induction => exact fun answer => induction answer

/-- A postcondition that an earlier trace cannot break is left to the last part. -/
theorem ensures_seq {program : Program Call First} {next : First → Program Call Second}
    {known : First → Prop} {post : List (Entry Call) → Second → Prop}
    (extended : ∀ before after result, post after result → post (before ++ after) result)
    (first : program.Ensures fun _ middle => known middle)
    (rest : ∀ middle, known middle → (next middle).Ensures post) :
    (program >>= next).Ensures post := by
  rw [ensures_bind]
  apply ensures_mono first
  intro before middle holds
  exact ensures_mono (rest middle holds) (extended before)

theorem ensures_after {program : Program Call First} {next : First → Program Call Second}
    {post : List (Entry Call) → Second → Prop}
    (extended : ∀ before after result, post after result → post (before ++ after) result)
    (rest : ∀ middle, (next middle).Ensures post) : (program >>= next).Ensures post :=
  ensures_seq extended (ensures_trivial program) fun middle _ => rest middle

@[simp] theorem ensures_ite (condition : Prop) [Decidable condition]
    (first second : Program Call Result) (post : List (Entry Call) → Result → Prop) :
    (if condition then first else second).Ensures post ↔
      (condition → first.Ensures post) ∧ (¬condition → second.Ensures post) := by
  split_ifs with holds <;> simp [holds]

/-- `while (busy) if (--attempts == 0) return false; return true`. -/
def waitWhile (busy : Program Call Bool) : Nat → Program Call Bool
  | 0 => .done false
  | attempts + 1 => do
      if ← busy then waitWhile busy attempts else return true

/-- A wait that timed out has seen its condition every time. -/
theorem waitWhile_timed_out {call : Call Bool} {attempts : Nat} {polls : List (Entry Call)}
    (runs : Runs (waitWhile (perform call) attempts) polls false) :
    polls = List.replicate attempts ⟨call, true⟩ := by
  induction attempts generalizing polls with
  | zero =>
      cases runs with
      | done => rfl
  | succ attempts induction =>
      cases runs with
      | ask _ _ answer rest _ later =>
          cases answer with
          | true => exact congrArg (List.cons _) (induction later)
          | false => cases later

/-- A wait whose condition is over at the first look. -/
theorem waitWhile_at_once (call : Call Bool) (attempts : Nat) :
    Runs (waitWhile (perform call) (attempts + 1)) [⟨call, false⟩] true :=
  .ask call _ false [] true (.done true)

/-- The program over a wider interface that offers its calls. -/
def lift {Wide : Type → Type} (embed : {Reply : Type} → Call Reply → Wide Reply)
    (program : Program Call Result) : Program Wide Result :=
  match program with
  | .done result => .done result
  | .ask call next => .ask (embed call) fun answer => (next answer).lift embed

theorem lift_bind {Wide : Type → Type} (embed : {Reply : Type} → Call Reply → Wide Reply)
    (program : Program Call First) (next : First → Program Call Second) :
    (program >>= next).lift embed =
      program.lift embed >>= fun value => (next value).lift embed := by
  induction program with
  | done result => rfl
  | ask call rest induction => exact congrArg (ask (embed call)) (funext induction)

theorem lift_lift {Wide Widest : Type → Type}
    (embed : {Reply : Type} → Call Reply → Wide Reply)
    (further : {Reply : Type} → Wide Reply → Widest Reply) (program : Program Call Result) :
    (program.lift embed).lift further = program.lift fun call => further (embed call) := by
  induction program with
  | done result => rfl
  | ask call next induction => exact congrArg (ask (further (embed call))) (funext induction)

/-- What the results satisfy whatever is answered, they satisfy over the wider interface. -/
theorem ensures_lift {Wide : Type → Type} {embed : {Reply : Type} → Call Reply → Wide Reply}
    {program : Program Call Result} {fact : Result → Prop}
    (ensures : program.Ensures fun _ result => fact result) :
    (program.lift embed).Ensures fun _ result => fact result := by
  induction program with
  | done result => exact ensures
  | ask call next induction => exact fun answer => induction answer (ensures answer)

section Only

variable {kind : {Reply : Type} → Call Reply → Prop}

def Only (kind : {Reply : Type} → Call Reply → Prop) (program : Program Call Result) : Prop :=
  match program with
  | .done _ => True
  | .ask call next => kind call ∧ ∀ answer, (next answer).Only kind

theorem only_pure (result : Result) : (pure result : Program Call Result).Only kind := True.intro

theorem only_perform {call : Call Reply} (allowed : kind call) : (perform call).Only kind :=
  ⟨allowed, fun _ => True.intro⟩

theorem only_mono {wide : {Reply : Type} → Call Reply → Prop} {program : Program Call Result}
    (weaker : ∀ {Reply : Type} (call : Call Reply), kind call → wide call)
    (only : program.Only kind) : program.Only wide := by
  induction program with
  | done result => exact True.intro
  | ask call next induction =>
      exact ⟨weaker call only.1, fun answer => induction answer (only.2 answer)⟩

theorem only_bind {program : Program Call First} {next : First → Program Call Second}
    (first : program.Only kind) (second : ∀ value, (next value).Only kind) :
    (program >>= next).Only kind := by
  induction program with
  | done result => exact second result
  | ask call rest induction => exact ⟨first.1, fun answer => induction answer (first.2 answer)⟩

theorem only_ite {condition : Prop} [Decidable condition] {first second : Program Call Result}
    (left : first.Only kind) (right : second.Only kind) :
    (if condition then first else second).Only kind := by
  split_ifs
  · exact left
  · exact right

theorem only_waitWhile {busy : Program Call Bool} (polled : busy.Only kind) (attempts : Nat) :
    (waitWhile busy attempts).Only kind := by
  induction attempts with
  | zero => exact only_pure false
  | succ attempts induction =>
      apply only_bind polled
      intro answer
      exact only_ite induction (only_pure true)

theorem only_lift {Wide : Type → Type} {embed : {Reply : Type} → Call Reply → Wide Reply}
    {wide : {Reply : Type} → Wide Reply → Prop} {program : Program Call Result}
    (allowed : ∀ {Reply : Type} (call : Call Reply), kind call → wide (embed call))
    (only : program.Only kind) : (program.lift embed).Only wide := by
  induction program with
  | done result => exact True.intro
  | ask call next induction =>
      exact ⟨allowed call only.1, fun answer => induction answer (only.2 answer)⟩

theorem ensures_only {program : Program Call Result} (only : program.Only kind) :
    program.Ensures fun trace _ => ∀ entry ∈ trace, kind entry.call := by
  induction program with
  | done result => exact List.forall_mem_nil _
  | ask call next induction =>
      intro answer
      apply ensures_mono (induction answer (only.2 answer))
      exact fun _ _ calls => List.forall_mem_cons.mpr ⟨only.1, calls⟩

end Only

/-- A machine answers the calls and moves on. -/
def simulate {State : Type*} (handle : {Reply : Type} → State → Call Reply → Reply × State)
    (program : Program Call Result) (state : State) : Result × State :=
  match program with
  | .done result => (result, state)
  | .ask call next =>
      let answered := handle state call
      (next answered.1).simulate handle answered.2

theorem simulate_bind {State : Type*} (handle : {Reply : Type} → State → Call Reply → Reply × State)
    (program : Program Call First) (next : First → Program Call Second) (state : State) :
    (program >>= next).simulate handle state =
      (next (program.simulate handle state).1).simulate handle
        (program.simulate handle state).2 := by
  induction program generalizing state with
  | done result => rfl
  | ask call rest induction => exact induction _ _

/-- What every answer preserves, a whole run preserves. -/
theorem simulate_related {State : Type*}
    {handle : {Reply : Type} → State → Call Reply → Reply × State} {related : State → State → Prop}
    (same : ∀ state, related state state)
    (compose : ∀ first second third, related first second → related second third →
      related first third)
    (answers : ∀ (Reply : Type) (state : State) (call : Call Reply),
      related state (handle state call).2)
    (program : Program Call Result) (state : State) :
    related state (program.simulate handle state).2 := by
  induction program generalizing state with
  | done result => exact same state
  | ask call next induction =>
      have first := answers _ state call
      exact compose _ _ _ first (induction _ _)

def Yields {State : Type*} (handle : {Reply : Type} → State → Call Reply → Reply × State)
    (program : Program Call Result) (state : State) (post : Result → State → Prop) : Prop :=
  post (program.simulate handle state).1 (program.simulate handle state).2

section Yields

variable {State : Type*} {handle : {Reply : Type} → State → Call Reply → Reply × State}

theorem yields_mono {program : Program Call Result} {state : State}
    {first second : Result → State → Prop} (yields : program.Yields handle state first)
    (weaker : ∀ result after, first result after → second result after) :
    program.Yields handle state second :=
  weaker _ _ yields

theorem yields_perform (call : Call Reply) (state : State) (post : Reply → State → Prop) :
    (perform call).Yields handle state post ↔
      post (handle state call).1 (handle state call).2 := Iff.rfl

theorem yields_bind (program : Program Call First) (next : First → Program Call Second)
    (state : State) (post : Second → State → Prop) :
    (program >>= next).Yields handle state post ↔
      program.Yields handle state fun middle after => (next middle).Yields handle after post := by
  rw [Yields, simulate_bind]
  rfl

theorem yields_ite (condition : Prop) [Decidable condition] (first second : Program Call Result)
    (state : State) (post : Result → State → Prop) :
    (if condition then first else second).Yields handle state post ↔
      (condition → first.Yields handle state post) ∧
        (¬condition → second.Yields handle state post) := by
  split_ifs with holds <;> simp [holds]

theorem yields_seq {program : Program Call First} {next : First → Program Call Second}
    {state : State} {middle : First → State → Prop} {post : Second → State → Prop}
    (first : program.Yields handle state middle)
    (second : ∀ value after, middle value after → (next value).Yields handle after post) :
    (program >>= next).Yields handle state post := by
  rw [yields_bind]
  exact yields_mono first second

end Yields

def recorded {State : Type*} (handle : {Reply : Type} → State → Call Reply → Reply × State)
    (program : Program Call Result) (state : State) : List (Entry Call) :=
  match program with
  | .done _ => []
  | .ask call next =>
      let answered := handle state call
      ⟨call, answered.1⟩ :: (next answered.1).recorded handle answered.2

/-- Whatever the machine does is one of the runs. -/
theorem recorded_runs {State : Type*} (handle : {Reply : Type} → State → Call Reply → Reply × State)
    (program : Program Call Result) (state : State) :
    Runs program (program.recorded handle state) (program.simulate handle state).1 := by
  induction program generalizing state with
  | done result => exact .done result
  | ask call next induction =>
      have rest := induction (handle state call).1 (handle state call).2
      exact .ask call next _ _ _ rest

section Notes

variable {Note : Type} {note : {Reply : Type} → Call Reply → Option Note}

/-- The program with the notes of its calls beside the result. -/
def noting (note : {Reply : Type} → Call Reply → Option Note) :
    List Note → Program Call Result → Program Call (Result × List Note)
  | seen, .done result => .done (result, seen)
  | seen, .ask call next =>
      .ask call fun answer => noting note (seen ++ (note call).toList) (next answer)

/-- Without its notes it is the same program. -/
theorem noting_erased (seen : List Note) (program : Program Call Result) :
    Prod.fst <$> noting note seen program = program := by
  induction program generalizing seen with
  | done result => rfl
  | ask call next induction => exact congrArg (ask call) (funext fun answer => induction answer _)

/-- The notes are those of the calls that were made. -/
theorem ensures_noting {program : Program Call Result}
    {post : List (Entry Call) → Result → Prop} (ensures : program.Ensures post)
    (seen : List Note) : (noting note seen program).Ensures fun trace answer =>
      post trace answer.1 ∧ answer.2 = seen ++ trace.filterMap fun entry => note entry.call := by
  induction program generalizing post seen with
  | done result => exact ⟨ensures, (List.append_nil seen).symm⟩
  | ask call next induction =>
      intro answer
      apply ensures_mono (induction answer (ensures answer) (seen ++ (note call).toList))
      intro trace found holds
      obtain ⟨holds, noted⟩ := holds
      refine ⟨holds, noted.trans ?_⟩
      rw [List.append_assoc, List.filterMap_cons]
      cases note call <;> rfl

theorem only_noting {kind : {Reply : Type} → Call Reply → Prop} {program : Program Call Result}
    (only : program.Only kind) (seen : List Note) : (noting note seen program).Only kind := by
  induction program generalizing seen with
  | done result => exact only_pure _
  | ask call next induction => exact ⟨only.1, fun answer => induction answer (only.2 answer) _⟩

end Notes

end Program

end LoraNode.Foundation
