import Mathlib.Logic.Relation
import LoraNode.Foundation.LabelledRun
import LoraNode.Foundation.Program

/-!
# Programs on a machine that others also move

Between two accesses of the program the environment may take any number of
steps. `Reaches` is this interleaving. A triple is an assertion before and after
the program that the environment cannot break, together with what must hold at
every access on the way.
-/

namespace LoraNode.Foundation.Interference

open LoraNode.Foundation.Program LoraNode.Foundation.LabelledRun

variable {Call : Type → Type} {State : Type*} {First Second Reply Result : Type}

/-- How the machine answers an access, and the steps others take. -/
structure Setting (Call : Type → Type) (State : Type*) where
  answers : {Reply : Type} → State → Call Reply → Reply → State → Prop
  interferes : State → State → Prop

/-- What has to hold when an access is made. -/
abbrev Guard (Call : Type → Type) (State : Type*) := {Reply : Type} → Call Reply → State → Prop

abbrev unguarded : Guard Call State := fun _ _ => True

variable (setting : Setting Call State) (during : Guard Call State)

/-- One step of the program or of someone else. -/
inductive Step : Program Call Result × State → Program Call Result × State → Prop where
  | own {Reply : Type} (call : Call Reply) (rest : Reply → Program Call Result) (answer : Reply)
      (state next : State) (answered : setting.answers state call answer next) :
      Step (.ask call rest, state) (rest answer, next)
  | other (program : Program Call Result) (state next : State)
      (moved : setting.interferes state next) : Step (program, state) (program, next)

def Reaches : Program Call Result × State → Program Call Result × State → Prop :=
  Relation.ReflTransGen (Step setting)

def Disturbed : State → State → Prop := Relation.ReflTransGen setting.interferes

/-- Every run from here meets the guard and ends in the postcondition. -/
def Secured (program : Program Call Result) (post : Result → State → Prop) (state : State) :
    Prop :=
  match program with
  | .done result => ∀ later, Disturbed setting state later → post result later
  | .ask call next =>
      ∀ later, Disturbed setting state later → during call later ∧
        ∀ answer after, setting.answers later call answer after →
          (Secured (next answer) post after)

variable {setting during}

theorem secured_later {program : Program Call Result} {post : Result → State → Prop}
    {state later : State} (secured : Secured setting during program post state)
    (disturbed : Disturbed setting state later) : Secured setting during program post later := by
  cases program with
  | done result => exact fun last further => secured last (disturbed.trans further)
  | ask call next => exact fun last further => secured last (disturbed.trans further)

/-- Security holds along every interleaving. -/
theorem secured_reaches {program program' : Program Call Result} {post : Result → State → Prop}
    {state state' : State} (secured : Secured setting during program post state)
    (reaches : Reaches setting (program, state) (program', state')) :
    Secured setting during program' post state' := by
  generalize start : (program, state) = first at reaches
  generalize finish : (program', state') = last at reaches
  induction reaches using Relation.ReflTransGen.head_induction_on generalizing program state with
  | refl =>
      rw [← finish, Prod.mk.injEq] at start
      obtain ⟨rfl, rfl⟩ := start
      exact secured
  | head step _ induction =>
      cases step with
      | own call rest answer from' next answered =>
          obtain ⟨rfl, rfl⟩ := Prod.mk.inj start
          exact induction ((secured _ .refl).2 answer next answered) rfl
      | other from' here next moved =>
          obtain ⟨rfl, rfl⟩ := Prod.mk.inj start
          exact induction (secured_later secured (.single moved)) rfl

/-- What holds at a point of an interleaving: at an access the guard, at the end the
postcondition. -/
def Shown (during : Guard Call State) (post : Result → State → Prop) :
    Program Call Result × State → Prop
  | (.done result, state) => post result state
  | (.ask call _, state) => during call state

theorem secured_shown {program : Program Call Result} {post : Result → State → Prop}
    {state : State} (secured : Secured setting during program post state) :
    Shown during post (program, state) := by
  cases program with
  | done result => exact secured state .refl
  | ask call next => exact (secured state .refl).1

theorem secured_done {result : Result} {post : Result → State → Prop} {state : State}
    (secured : Secured setting during (.done result) post state) : post result state :=
  secured state .refl

theorem secured_mono {program : Program Call Result} {first second : Result → State → Prop}
    {state : State} (secured : Secured setting during program first state)
    (weaker : ∀ result after, first result after → second result after) :
    Secured setting during program second state := by
  induction program generalizing state with
  | done result => exact fun later disturbed => weaker result later (secured later disturbed)
  | ask call next induction =>
      intro later disturbed
      obtain ⟨guarded, answered⟩ := secured later disturbed
      exact ⟨guarded, fun answer after step => induction answer (answered answer after step)⟩

theorem secured_unguarded {program : Program Call Result} {post : Result → State → Prop}
    {state : State} (secured : Secured setting during program post state) :
    Secured setting unguarded program post state := by
  induction program generalizing state with
  | done result => exact secured
  | ask call next induction =>
      intro later disturbed
      obtain ⟨_, answered⟩ := secured later disturbed
      exact ⟨trivial, fun answer after step => induction answer (answered answer after step)⟩

theorem secured_guarded {also : Guard Call State} {program : Program Call Result}
    {post : Result → State → Prop} {state : State}
    (secured : Secured setting during program post state)
    (weaker : ∀ {Reply : Type} (call : Call Reply) after, during call after → also call after) :
    Secured setting also program post state := by
  induction program generalizing state with
  | done result => exact secured
  | ask call next induction =>
      intro later disturbed
      obtain ⟨guarded, answered⟩ := secured later disturbed
      exact ⟨weaker call later guarded, fun answer after step =>
        induction answer (answered answer after step)⟩

/-- Two guards and two postconditions hold together. -/
theorem secured_and {also : Guard Call State} {program : Program Call Result}
    {first second : Result → State → Prop} {state : State}
    (left : Secured setting during program first state)
    (right : Secured setting also program second state) :
    Secured setting (fun call after => during call after ∧ also call after) program
      (fun result after => first result after ∧ second result after) state := by
  induction program generalizing state with
  | done result => exact fun later disturbed => ⟨left later disturbed, right later disturbed⟩
  | ask call next induction =>
      intro later disturbed
      obtain ⟨guarded, answered⟩ := left later disturbed
      obtain ⟨watched, replied⟩ := right later disturbed
      exact ⟨⟨guarded, watched⟩, fun answer after step =>
        induction answer (answered answer after step) (replied answer after step)⟩

theorem secured_bind {program : Program Call First} {next : First → Program Call Second}
    {post : Second → State → Prop} {state : State}
    (secured : Secured setting during program
      (fun middle after => Secured setting during (next middle) post after) state) :
    Secured setting during (program >>= next) post state := by
  induction program generalizing state with
  | done result => exact secured state .refl
  | ask call rest induction =>
      intro later disturbed
      obtain ⟨guarded, answered⟩ := secured later disturbed
      exact ⟨guarded, fun answer after step => induction answer (answered answer after step)⟩

/-- On a machine that answers every call some run comes to its end. -/
theorem secured_ends {program : Program Call Result} {post : Result → State → Prop}
    (answering : ∀ (Reply : Type) (call : Call Reply) state,
      ∃ answer next, setting.answers state call answer next) {state : State}
    (secured : Secured setting during program post state) :
    ∃ result after, Reaches setting (program, state) (.done result, after) ∧ post result after := by
  induction program generalizing state with
  | done result => exact ⟨result, state, .refl, secured_done secured⟩
  | ask call next induction =>
      obtain ⟨answer, middle, answered⟩ := answering _ call state
      obtain ⟨result, after, reaches, holds⟩ :=
        induction answer ((secured state .refl).2 answer middle answered)
      exact ⟨result, after, .head (.own call next answer state middle answered) reaches, holds⟩

/-- The same machine behind a narrower interface. -/
def Setting.along {Wide : Type → Type} (setting : Setting Wide State)
    (embed : {Reply : Type} → Call Reply → Wide Reply) : Setting Call State where
  answers state call := setting.answers state (embed call)
  interferes := setting.interferes

abbrev Guard.along {Wide : Type → Type} (guard : Guard Wide State)
    (embed : {Reply : Type} → Call Reply → Wide Reply) : Guard Call State :=
  fun call => guard (embed call)

theorem secured_along {Wide : Type → Type} {wide : Setting Wide State} {guard : Guard Wide State}
    {embed : {Reply : Type} → Call Reply → Wide Reply} {program : Program Call Result}
    {post : Result → State → Prop} {state : State}
    (secured : Secured (wide.along embed) (guard.along embed) program post state) :
    Secured wide guard (program.lift embed) post state := by
  induction program generalizing state with
  | done result => exact secured
  | ask call next induction =>
      intro later disturbed
      obtain ⟨guarded, answered⟩ := secured later disturbed
      exact ⟨guarded, fun answer after step => induction answer (answered answer after step)⟩

variable (setting during)

def Stable (assertion : State → Prop) : Prop :=
  ∀ state next, assertion state → setting.interferes state next → assertion next

def Triple (pre : State → Prop) (program : Program Call Result) (post : Result → State → Prop) :
    Prop :=
  ∀ state, pre state → Secured setting during program post state

/-- At every point of every interleaving from the precondition. -/
def Always (pre : State → Prop) (program : Program Call Result) (post : Result → State → Prop) :
    Prop :=
  ∀ start reached, pre start → Reaches setting (program, start) reached →
    Shown during post reached

variable {setting during}

theorem triple_always {pre : State → Prop} {program : Program Call Result}
    {post : Result → State → Prop} (triple : Triple setting during pre program post) :
    Always setting during pre program post := by
  intro start reached holds reaches
  obtain ⟨program', state⟩ := reached
  exact secured_shown (secured_reaches (triple start holds) reaches)

theorem stable_disturbed {assertion : State → Prop} (stable : Stable setting assertion)
    {state later : State} (holds : assertion state) (disturbed : Disturbed setting state later) :
    assertion later := by
  induction disturbed with
  | refl => exact holds
  | tail _ moved induction => exact stable _ _ induction moved

theorem stable_fact (fact : Prop) : Stable setting fun _ => fact := fun _ _ holds _ => holds

theorem stable_and {first second : State → Prop} (left : Stable setting first)
    (right : Stable setting second) : Stable setting fun state => first state ∧ second state :=
  fun state next holds moved => ⟨left state next holds.1 moved, right state next holds.2 moved⟩

theorem stable_or {first second : State → Prop} (left : Stable setting first)
    (right : Stable setting second) : Stable setting fun state => first state ∨ second state :=
  fun state next holds moved => holds.imp (left state next · moved) (right state next · moved)

theorem stable_exists {Value : Type*} {assertion : Value → State → Prop}
    (stable : ∀ value, Stable setting (assertion value)) :
    Stable setting fun state => ∃ value, assertion value state := by
  intro state next holds moved
  obtain ⟨value, holds⟩ := holds
  exact ⟨value, stable value state next holds moved⟩

theorem stable_imp {fact : Prop} {assertion : State → Prop} (stable : Stable setting assertion) :
    Stable setting fun state => fact → assertion state :=
  fun state next holds moved given => stable state next (holds given) moved

section Triple

variable {pre pre' : State → Prop} {program : Program Call First}
  {next : First → Program Call Second}

theorem triple_pure {result : Result} {post : Result → State → Prop}
    (stable : Stable setting (post result)) (weaker : ∀ state, pre state → post result state) :
    Triple setting during pre (pure result) post :=
  fun state holds _ disturbed => stable_disturbed stable (weaker state holds) disturbed

theorem triple_perform {call : Call Reply} {post : Reply → State → Prop}
    (stable : Stable setting pre) (stablePost : ∀ answer, Stable setting (post answer))
    (guarded : ∀ state, pre state → during call state)
    (answered : ∀ state answer after, pre state → setting.answers state call answer after →
      post answer after) :
    Triple setting during pre (perform call) post := by
  intro state holds later disturbed
  have still := stable_disturbed stable holds disturbed
  refine ⟨guarded later still, ?_⟩
  intro answer after step last further
  exact stable_disturbed (stablePost answer) (answered later answer after still step) further

theorem triple_seq {middle : First → State → Prop} {post : Second → State → Prop}
    (first : Triple setting during pre program middle)
    (second : ∀ value, Triple setting during (middle value) (next value) post) :
    Triple setting during pre (program >>= next) post :=
  fun state holds => secured_bind (secured_mono (first state holds) second)

theorem triple_pre {post : First → State → Prop} (triple : Triple setting during pre program post)
    (stronger : ∀ state, pre' state → pre state) : Triple setting during pre' program post :=
  fun state holds => triple state (stronger state holds)

theorem triple_mono {post post' : First → State → Prop}
    (triple : Triple setting during pre program post) (stronger : ∀ state, pre' state → pre state)
    (weaker : ∀ result state, post result state → post' result state) :
    Triple setting during pre' program post' :=
  fun state holds => secured_mono (triple state (stronger state holds)) weaker

theorem triple_ite {condition : Prop} [Decidable condition] {first second : Program Call Result}
    {post : Result → State → Prop}
    (left : condition → Triple setting during pre first post)
    (right : ¬condition → Triple setting during pre second post) :
    Triple setting during pre (if condition then first else second) post := by
  split_ifs with holds
  · exact left holds
  · exact right holds

/-- A fact that does not depend on the state. -/
theorem triple_fact {fact : Prop} {post : First → State → Prop}
    (triple : fact → Triple setting during pre program post) :
    Triple setting during (fun state => fact ∧ pre state) program post :=
  fun state holds => triple holds.1 state holds.2

theorem triple_exists {Value : Type*} {assertion : Value → State → Prop}
    {post : First → State → Prop}
    (triple : ∀ value, Triple setting during (assertion value) program post) :
    Triple setting during (fun state => ∃ value, assertion value state) program post := by
  intro state holds
  obtain ⟨value, holds⟩ := holds
  exact triple value state holds

theorem triple_trivial (program : Program Call First) :
    Triple setting unguarded (fun _ => True) program fun _ _ => True := by
  intro state _
  induction program generalizing state with
  | done result => exact fun _ _ => trivial
  | ask call next induction =>
      exact fun _ _ => ⟨trivial, fun answer after _ => induction answer after⟩

/-- What the results satisfy whatever is answered is known besides. -/
theorem triple_ensures {fact : First → Prop} {post : First → State → Prop}
    (triple : Triple setting during pre program post)
    (ensures : program.Ensures fun _ result => fact result) :
    Triple setting during pre program fun result state => fact result ∧ post result state := by
  intro state holds
  have secured := triple state holds
  clear triple holds
  induction program generalizing state with
  | done result => exact fun later disturbed => ⟨ensures, secured later disturbed⟩
  | ask call next induction =>
      intro later disturbed
      obtain ⟨guarded, answered⟩ := secured later disturbed
      exact ⟨guarded, fun answer after step =>
        induction answer (ensures answer) after (answered answer after step)⟩

/-- What every call of one kind keeps, a program of such calls keeps. -/
theorem triple_only {kind : {Reply : Type} → Call Reply → Prop} (stable : Stable setting pre)
    (guarded : ∀ {Reply : Type} (call : Call Reply) state, kind call → pre state →
      during call state)
    (kept : ∀ {Reply : Type} (call : Call Reply) state answer after, kind call → pre state →
      setting.answers state call answer after → pre after)
    (only : program.Only kind) : Triple setting during pre program fun _ => pre := by
  induction program with
  | done result => exact triple_pure stable fun _ holds => holds
  | ask call next induction =>
      intro state holds later disturbed
      have still := stable_disturbed stable holds disturbed
      constructor
      · exact guarded call later only.1 still
      · intro answer after step
        exact induction answer (only.2 answer) after
          (kept call later answer after only.1 still step)

theorem triple_along {Wide : Type → Type} {wide : Setting Wide State} {guard : Guard Wide State}
    {embed : {Reply : Type} → Call Reply → Wide Reply} {post : First → State → Prop}
    (triple : Triple (wide.along embed) (guard.along embed) pre program post) :
    Triple wide guard pre (program.lift embed) post :=
  fun state holds => secured_along (triple state holds)

/-- Calls that act on one component leave the rest of the state alone. -/
theorem triple_component {Wide : Type → Type} {Rest : Type*} {wide : Setting Wide (State × Rest)}
    {guard : Guard Wide (State × Rest)} {embed : {Reply : Type} → Call Reply → Wide Reply}
    (quiet : ∀ state next, ¬wide.interferes state next)
    (guarded : ∀ {Reply : Type} (call : Call Reply) state, during call state.1 →
      guard (embed call) state)
    (answers : ∀ {Reply : Type} (call : Call Reply) state answer after,
      wide.answers state (embed call) answer after →
        setting.answers state.1 call answer after.1 ∧ after.2 = state.2)
    {post : First → State → Prop} (triple : Triple setting during pre program post)
    (rest : Rest) :
    Triple wide guard (fun state => pre state.1 ∧ state.2 = rest) (program.lift embed)
      fun result state => post result state.1 ∧ state.2 = rest := by
  rintro ⟨state, still⟩ ⟨holds, rfl⟩
  have secured := triple state holds
  clear triple holds
  have unmoved {state later : State × Rest} (disturbed : Disturbed wide state later) :
      later = state := by
    have stays : Stable wide fun found => found = state :=
      fun _ _ _ moved => absurd moved (quiet _ _)
    exact stable_disturbed stays rfl disturbed
  induction program generalizing state with
  | done result =>
      intro later disturbed
      rw [unmoved disturbed]
      exact ⟨secured state .refl, rfl⟩
  | ask call next induction =>
      intro later disturbed
      rw [unmoved disturbed]
      obtain ⟨guardedHere, answered⟩ := secured state .refl
      refine ⟨guarded call _ guardedHere, fun answer after step => ?_⟩
      obtain ⟨moved, same⟩ := answers call _ answer after step
      obtain ⟨changed, kept⟩ := after
      obtain rfl := same
      exact induction answer changed (answered answer changed moved)

/-- A bounded wait keeps its assertion and ends, if in time, with what an idle
poll shows. -/
theorem triple_waitWhile {busy : Program Call Bool} {ready : State → Prop}
    (stable : Stable setting pre) (stableReady : Stable setting ready)
    (polled : Triple setting during pre busy
      fun answer after => pre after ∧ (answer = false → ready after)) (attempts : Nat) :
    Triple setting during pre (waitWhile busy attempts)
      fun inTime after => pre after ∧ (inTime = true → ready after) := by
  induction attempts with
  | zero =>
      exact triple_pure (stable_and stable (stable_imp stableReady))
        fun state holds => ⟨holds, nofun⟩
  | succ attempts induction =>
      apply triple_seq polled
      intro answer
      apply triple_ite
      · intro _
        exact triple_mono induction (fun state holds => holds.1) fun _ _ holds => holds
      · intro idle
        refine triple_pure ?_ ?_
        · exact stable_and stable (stable_imp stableReady)
        · intro state holds
          exact ⟨holds.1, fun _ => holds.2 (Bool.eq_false_iff.mpr idle)⟩

end Triple

section Recording

variable {program : Program Call Result}

/-- Nobody else moves, and every call is written down with its answer. -/
def recording (Call : Type → Type) : Setting Call (List (Entry Call)) where
  answers trace call answer next := next = trace ++ [⟨call, answer⟩]
  interferes _ _ := False

theorem recording_stable (assertion : List (Entry Call) → Prop) :
    Stable (recording Call) assertion :=
  fun _ _ _ moved => moved.elim

/-- What is written down is a run of the program. -/
theorem recording_runs {kind : {Reply : Type} → Call Reply → Prop} (only : program.Only kind)
    (before : List (Entry Call)) :
    Secured (recording Call) (fun call _ => kind call) program
      (fun result trace => ∃ later, trace = before ++ later ∧ Runs program later result)
      before := by
  induction program generalizing before with
  | done result =>
      intro later disturbed
      have same := stable_disturbed (recording_stable fun trace => trace = before) rfl disturbed
      exact ⟨[], same.trans (List.append_nil before).symm, .done result⟩
  | ask call next induction =>
      intro later disturbed
      have same := stable_disturbed (recording_stable fun trace => trace = before) rfl disturbed
      subst same
      refine ⟨only.1, fun answer after answered => ?_⟩
      obtain rfl := answered
      apply secured_mono (induction answer (only.2 answer) _)
      intro result trace ends
      obtain ⟨rest, rfl, runs⟩ := ends
      have whole := List.append_assoc later [Entry.mk call answer] rest
      exact ⟨_, whole, .ask call next answer rest result runs⟩

end Recording

section Simulated

variable {Machine : Type*} {shared : Setting Call Machine}
  {serve : {Reply : Type} → Machine → Call Reply → Reply × Machine}

/-- A run to the end, on a machine that lets others move before it answers. -/
theorem reaches_simulated
    (served : ∀ {Reply : Type} (machine : Machine) (call : Call Reply),
      ∃ later, Disturbed shared machine later ∧
        shared.answers later call (serve machine call).1 (serve machine call).2)
    (program : Program Call Result) (machine : Machine) :
    Reaches shared (program, machine)
      (.done (program.simulate serve machine).1, (program.simulate serve machine).2) := by
  induction program generalizing machine with
  | done result => exact .refl
  | ask call next induction =>
      obtain ⟨later, disturbed, answered⟩ := served machine call
      have waits : Reaches shared (.ask call next, machine) (.ask call next, later) :=
        disturbed.lift _ fun _ _ moved => .other _ _ _ moved
      have acts : Step shared (.ask call next, later) _ := .own call next _ later _ answered
      exact (waits.tail acts).trans (induction _ _)

/-- A machine that has a default for what it does not find. -/
theorem found_served {Value : Type*} {found : Option Value} {missing : Value} :
    ∀ value ∈ found, found.getD missing = value := by
  rintro value ⟨⟩
  rfl

/-- Turns that others may take. -/
theorem settle_disturbs {turn : Machine → Option Machine}
    (taken : ∀ machine next, turn machine = some next → shared.interferes machine next)
    (turns : Nat) (machine : Machine) : Disturbed shared machine (settle turn turns machine) := by
  induction turns generalizing machine with
  | zero => exact .refl
  | succ turns induction =>
      rw [settle]
      cases next : turn machine with
      | none => exact .refl
      | some later => exact .head (taken machine later next) (induction later)

def promptly (serve : {Reply : Type} → Machine → Call Reply → Reply × Machine)
    (turn : Machine → Option Machine) (turns : Nat) {Reply : Type} (machine : Machine)
    (call : Call Reply) : Reply × Machine :=
  serve (settle turn turns machine) call

theorem reaches_promptly {turn : Machine → Option Machine}
    (taken : ∀ machine next, turn machine = some next → shared.interferes machine next)
    (served : ∀ {Reply : Type} (machine : Machine) (call : Call Reply),
      shared.answers machine call (serve machine call).1 (serve machine call).2)
    (turns : Nat) (program : Program Call Result) (machine : Machine) :
    Reaches shared (program, machine)
      (.done (program.simulate (promptly serve turn turns) machine).1,
        (program.simulate (promptly serve turn turns) machine).2) :=
  reaches_simulated
    (fun machine call => ⟨_, settle_disturbs taken turns machine, served _ call⟩) program machine

end Simulated

end LoraNode.Foundation.Interference
