import LoraNode.SpiMaster

/-!
# SERCOM1 as a machine

On a slave that answers by functions the port has one next turn: a run of the
handler if one is requested, else a step of the shift register, else one of the
slave. Every turn is one that the driver has to expect.
-/

namespace LoraNode.SpiMaster

open LoraNode.Foundation LoraNode.Foundation.Bytes LoraNode.Foundation.Program
  LoraNode.Foundation.Interference LoraNode.Foundation.Preemption

variable {Chip : Type*} {Pin : Type → Type} {slave : Slave Chip Pin}

instance (port : Port Chip) : Decidable port.requests :=
  inferInstanceAs (Decidable (_ = true))

/-- What is read outside of a buffer is 0. -/
def Port.serve {Reply : Type} (port : Port Chip) : Access Reply → Reply × Port Chip
  | .object => (port.object, port)
  | .store change => ((), { port with object := change port.object })
  | .readTx index => ((port.object.txBuffer.getD [])[index]?.getD 0, port)
  | .readRx index => ((port.object.rxBuffer.getD [])[index]?.getD 0, port)
  | .writeRx index value =>
      ((), { port with object := { port.object with
        rxBuffer := port.object.rxBuffer.map fun memory => memory.set index value } })
  | .intenset => (port.enabled, port)
  | .setIntenset mask => ((), { port with enabled := port.enabled.enable mask })
  | .setIntenclr mask => ((), { port with enabled := port.enabled.disable mask })
  | .intflag => (port.flags, port)
  | .setIntflag mask => ((), { port with txc := port.txc && !mask.txc })
  | .readData => (port.unread.head?.getD 0, port.read)
  | .writeData value => ((), port.written value)

theorem serve_answers {Reply : Type} (port : Port Chip) (call : Access Reply) :
    answers port call (port.serve call).1 (port.serve call).2 := by
  cases call with
  | object => exact ⟨rfl, rfl⟩
  | store change => rfl
  | readTx index => exact ⟨found_served, rfl⟩
  | readRx index => exact ⟨found_served, rfl⟩
  | writeRx index value => rfl
  | intenset => exact ⟨rfl, rfl⟩
  | setIntenset mask => rfl
  | setIntenclr mask => rfl
  | intflag => exact ⟨rfl, rfl⟩
  | setIntflag mask => rfl
  | readData => exact ⟨found_served, rfl⟩
  | writeData value => rfl

structure Prompt (slave : Slave Chip Pin) where
  exchange : Chip → Byte → Byte × Chip
  drift : Chip → Option Chip
  drive : {Reply : Type} → Chip → Pin Reply → Reply × Chip
  exchanges : ∀ chip byte, slave.exchanges chip byte (exchange chip byte).1 (exchange chip byte).2
  drifts : ∀ chip next, drift chip = some next → slave.drifts chip next
  drives : ∀ {Reply : Type} chip (call : Pin Reply),
    slave.drives chip call (drive chip call).1 (drive chip call).2

def Prompt.turn (prompt : Prompt slave) (port : Port Chip) : Option (Port Chip) :=
  if port.requests then some (interruptHandler.simulate Port.serve port).2
  else
    match port.shift, port.data with
    | some byte, _ =>
        let exchanged := prompt.exchange port.chip byte
        some { port with
          shift := none
          unread := if port.unread.length < 2 then port.unread ++ [exchanged.1] else port.unread
          txc := port.txc || port.data.isNone
          chip := exchanged.2 }
    | none, some byte => some { port with data := none, shift := some byte }
    | none, none => (prompt.drift port.chip).map fun chip => { port with chip := chip }

theorem handler_serves (port : Port Chip) :
    Reaches (sercom slave) (interruptHandler, port)
      (.done (), (interruptHandler.simulate Port.serve port).2) :=
  reaches_simulated (fun port call => ⟨port, .refl, serve_answers port call⟩) interruptHandler port

/-- A turn is one that the driver has to expect. -/
theorem turn_interferes (prompt : Prompt slave) (port next : Port Chip)
    (turned : prompt.turn port = some next) :
    Hardware slave port next ∨
      port.requests ∧ Reaches (sercom slave) (interruptHandler, port) (.done (), next) := by
  rw [Prompt.turn] at turned
  by_cases asked : port.requests
  · rw [if_pos asked] at turned
    rw [← Option.some.inj turned]
    exact .inr ⟨asked, handler_serves port⟩
  · rw [if_neg asked] at turned
    left
    cases shift : port.shift with
    | some byte =>
        rw [shift] at turned
        rw [← Option.some.inj turned]
        exact .shifted port byte _ _ shift (prompt.exchanges port.chip byte)
    | none =>
        cases data : port.data with
        | some byte =>
            rw [shift, data] at turned
            rw [← Option.some.inj turned]
            exact .load port byte data shift
        | none =>
            rw [shift, data] at turned
            obtain ⟨chip, moved, rfl⟩ := Option.map_eq_some_iff.mp turned
            have drifted := Hardware.drift port chip (prompt.drifts port.chip chip moved)
            rwa [shift, data] at drifted

/-- The driver with this machine is one of the interleavings. -/
theorem driver_moves (prompt : Prompt slave) (turns : Nat) {Result : Type}
    (program : Driver Result) (port : Port Chip) :
    let ran := program.simulate (promptly Port.serve prompt.turn turns) port
    Moves (sercom slave) (sercom slave) interruptHandler Port.requests ⟨program, none, port⟩
      ⟨.done ran.1, none, ran.2⟩ :=
  reaches_moves (reaches_promptly (turn_interferes prompt) serve_answers turns program port)

def Prompt.serve (prompt : Prompt slave) {Reply : Type} (port : Port Chip) :
    TaskCall Pin Reply → Reply × Port Chip
  | .inl call => port.serve call
  | .inr call =>
      let driven := prompt.drive port.chip call
      (driven.1, { port with chip := driven.2 })

theorem prompt_answers (prompt : Prompt slave) {Reply : Type} (port : Port Chip)
    (call : TaskCall Pin Reply) :
    (pins slave).answers port call (prompt.serve port call).1 (prompt.serve port call).2 := by
  cases call with
  | inl call => exact serve_answers port call
  | inr call => exact ⟨_, prompt.drives port.chip call, rfl⟩

/-- So is a task that drives the pins of the slave besides. -/
theorem task_moves (prompt : Prompt slave) (turns : Nat) {Result : Type}
    (program : Program (TaskCall Pin) Result) (port : Port Chip) :
    let ran := program.simulate (promptly prompt.serve prompt.turn turns) port
    Moves (pins slave) (sercom slave) interruptHandler Port.requests ⟨program, none, port⟩
      ⟨.done ran.1, none, ran.2⟩ := by
  have served {Reply : Type} (port : Port Chip) (call : TaskCall Pin Reply) :
      (preempted (pins slave) (sercom slave) interruptHandler Port.requests).answers port call
        (prompt.serve port call).1 (prompt.serve port call).2 := prompt_answers prompt port call
  exact reaches_moves (reaches_promptly (turn_interferes prompt) served turns program port)

end LoraNode.SpiMaster
