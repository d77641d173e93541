import LoraNode.UsartHandler

/-!
# SERCOM5 as a machine

The port has one next turn: a run of the handler if one is requested, else a step
of the shift register. A cell that was never written is read as 0. Every turn is
one that the callers of the driver have to expect.
-/

namespace LoraNode.Usart

open LoraNode.Foundation LoraNode.Foundation.Bytes LoraNode.Foundation.Program
  LoraNode.Foundation.Interference LoraNode.Foundation.Buffers LoraNode.Foundation.Preemption

variable {Buffer : Type}

instance (port : Port Buffer) : Decidable port.requests :=
  inferInstanceAs (Decidable (_ = true))

def Port.serve {Reply : Type} (port : Port Buffer) : Access Buffer Reply → Reply × Port Buffer
  | .object => (port.object, port)
  | .store change => ((), { port with object := change port.object })
  | .readTx buffer index => ((buffer.bind fun array => port.memory array index).getD 0, port)
  | .intenset => (port.enabled, port)
  | .setIntenset mask => ((), { port with enabled := port.enabled.enable mask })
  | .setIntenclr mask => ((), { port with enabled := port.enabled.disable mask })
  | .intflag => (port.flags, port)
  | .writeData value => ((), port.written value)
  | .isrErrHandler => ((), port)

theorem serve_answers {Reply : Type} (port : Port Buffer) (call : Access Buffer Reply) :
    answers port call (port.serve call).1 (port.serve call).2 := by
  cases call with
  | object => exact ⟨rfl, rfl⟩
  | store change => rfl
  | readTx buffer index => exact ⟨found_served, rfl⟩
  | intenset => exact ⟨rfl, rfl⟩
  | setIntenset mask => rfl
  | setIntenclr mask => rfl
  | intflag => exact ⟨rfl, rfl⟩
  | writeData value => rfl
  | isrErrHandler => trivial

def Port.turn (port : Port Buffer) : Option (Port Buffer) :=
  if port.requests then some (interruptHandler.simulate Port.serve port).2
  else
    match port.shift, port.data with
    | some byte, _ => some { port with
        shift := none
        out := port.out ++ [byte]
        txc := port.txc || port.data.isNone }
    | none, some byte => some { port with data := none, shift := some byte }
    | none, none => none

theorem handler_serves (port : Port Buffer) :
    Reaches sercom (interruptHandler, port)
      (.done (), (interruptHandler.simulate Port.serve port).2) :=
  reaches_simulated (fun port call => ⟨port, .refl, serve_answers port call⟩) interruptHandler port

theorem turn_interferes (port next : Port Buffer) (turned : port.turn = some next) :
    Hardware port next ∨
      port.requests ∧ Reaches sercom (interruptHandler, port) (.done (), next) := by
  rw [Port.turn] at turned
  by_cases asked : port.requests
  · rw [if_pos asked] at turned
    rw [← Option.some.inj turned]
    exact .inr ⟨asked, handler_serves port⟩
  · rw [if_neg asked] at turned
    left
    cases shift : port.shift with
    | some byte =>
        rw [shift] at turned
        rw [← Option.some.inj turned]
        exact .shifted port byte shift
    | none =>
        cases data : port.data with
        | some byte =>
            rw [shift, data] at turned
            rw [← Option.some.inj turned]
            exact .load port byte data shift
        | none =>
            rw [shift, data] at turned
            cases turned

variable [DecidableEq Buffer] {Other : Type → Type}

def serveTask (rest : {Reply : Type} → Other Reply → Reply) {Reply : Type} (port : Port Buffer) :
    TaskCall Buffer Other Reply → Reply × Port Buffer
  | .array call =>
      let served := port.memory.serve call
      (served.1, { port with memory := served.2 })
  | .access call => port.serve call
  | .other call => (rest call, port)

theorem serveTask_answers (sizes : Buffer → Nat) (rest : {Reply : Type} → Other Reply → Reply)
    {Reply : Type} (port : Port Buffer) (call : TaskCall Buffer Other Reply) :
    taskAnswers sizes port call (serveTask rest port call).1 (serveTask rest port call).2 := by
  cases call with
  | array call => exact ⟨_, memory_serves sizes port.memory call, rfl⟩
  | access call => exact serve_answers port call
  | other call => rfl

/-- A task with this machine is one of the interleavings. -/
theorem task_moves (sizes : Buffer → Nat) (rest : {Reply : Type} → Other Reply → Reply)
    (turns : Nat) {Result : Type} (program : Program (TaskCall Buffer Other) Result)
    (port : Port Buffer) :
    let ran := program.simulate (promptly (serveTask rest) Port.turn turns) port
    Moves (tasks sizes Other) sercom interruptHandler Port.requests ⟨program, none, port⟩
      ⟨.done ran.1, none, ran.2⟩ :=
  reaches_moves (reaches_promptly turn_interferes (serveTask_answers sizes rest) turns program port)

end LoraNode.Usart
