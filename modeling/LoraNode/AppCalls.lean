import LoraNode.LoraApp

/-!
# Calls that neither transmit, sleep nor touch the sensor

Most of what the application does between its decisions is to log, to look at the
clock and to handle the radio. Invariants that do not depend on such calls need
not look into these functions.
-/

namespace LoraNode.LoraApp

open LoraNode.Foundation LoraNode.Foundation.Program LoraNode.NodePacket LoraNode.NodeState

def Plain {Reply : Type} : Call Reply → Prop
  | .transmit _ _ _ => False
  | .handled _ _ => False
  | .sleep _ => False
  | .dht11Init => False
  | .dht11Read => False
  | _ => True

theorem invoke_plain {Reply : Type} {call : Call Reply} (plain : Plain call) :
    (invoke call).Only Plain := only_perform plain

theorem startReceiver_plain (state : AppState) : (startReceiver state).Only Plain :=
  only_bind (invoke_plain (by trivial)) fun _ => only_pure _

theorem logTerminalAction_plain (action : Action) : (logTerminalAction action).Only Plain := by
  rw [logTerminalAction]
  cases action.type with
  | none => exact only_pure ()
  | readSensor => exact only_pure ()
  | _ => exact invoke_plain (by trivial)

theorem restartInterval_plain (state : AppState) : (restartInterval state).Only Plain :=
  only_bind (invoke_plain (by trivial)) fun _ => only_pure _

theorem listenForAck_plain (state : AppState) : (listenForAck state).Only Plain := by
  apply only_bind (startReceiver_plain state)
  intro started
  apply only_ite
  · exact only_bind (invoke_plain (by trivial)) fun _ => only_pure _
  · exact only_bind (invoke_plain (by trivial)) fun _ => only_pure _

theorem logReceived_plain (received : ReadAnswer) (action : Action) :
    (logReceived received action).Only Plain := by
  have ignored : (if action.ignoreReason ≠ .none then
      invoke (.log "status: RX frame ignored\r\n") else pure ()).Only Plain :=
    only_ite (invoke_plain (by trivial)) (only_pure ())
  apply only_ite
  · exact only_bind (invoke_plain (by trivial)) fun _ => ignored
  · exact only_bind (invoke_plain (by trivial)) fun _ => ignored

theorem haltedTask_plain (state : AppState) : (haltedTask state).Only Plain := by
  apply only_bind (invoke_plain (by trivial))
  intro _
  apply only_bind (invoke_plain (by trivial))
  intro _
  apply only_bind (invoke_plain (by trivial))
  intro _
  apply only_bind (invoke_plain (by trivial))
  exact fun _ => only_pure state

theorem initializeNode_plain (config : AppConfig) (state : AppState) :
    (initializeNode config state).Only Plain := by
  apply only_bind (invoke_plain (by trivial))
  intro _
  apply only_bind (invoke_plain (by trivial))
  intro version
  apply only_ite
  · exact only_bind (invoke_plain (by trivial)) fun _ => only_pure _
  · apply only_bind (invoke_plain (by trivial))
    intro _
    apply only_bind (invoke_plain (by trivial))
    intro tick
    exact only_ite (only_pure _) (only_pure _)

end LoraNode.LoraApp
