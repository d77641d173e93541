import LoraNode.Dht11Transaction
import LoraNode.LoraApp

/-!
# The sensor driver below the application

The calls of the application to its sensor are carried out by the driver, whose
handle is a static variable. Everything else answers as it likes, the line
included.
-/

namespace LoraNode.SensorDriver

open LoraNode.Foundation LoraNode.Foundation.Program LoraNode.LoraApp LoraNode.Dht11

/-- Accesses to DATA, and the calls that the driver of the sensor does not answer. -/
inductive NodeCall : Type → Type where
  | pin {Reply : Type} (access : Pin Reply) : NodeCall Reply
  | app {Reply : Type} (call : Call Reply) : NodeCall Reply

def staticHandle : Handle where
  timeoutUs := 0
  data := ⟨0, 0, 0, 0, 0, 0, 0, false⟩

def driverBody {Reply : Type} (call : Call Reply) (handle : Handle) :
    Program NodeCall (Reply × Handle) :=
  match call with
  | .dht11Init => (initHandle defaultTimeout).lift .pin
  | .dht11Read => (readSample handle).lift .pin
  | .dht11GetTemperature => return (getTemperature handle, handle)
  | .dht11GetHumidity => return (getHumidity handle, handle)
  | call => do
      let answer ← perform (.app call)
      return (answer, handle)

def pinOf {Reply : Type} : NodeCall Reply → Reply → Option (Entry Pin)
  | .pin access, answer => some ⟨access, answer⟩
  | .app _, _ => none

def pins (trace : List (Entry NodeCall)) : List (Entry Pin) :=
  trace.filterMap fun entry => pinOf entry.call entry.answer

theorem pins_append (first second : List (Entry NodeCall)) :
    pins (first ++ second) = pins first ++ pins second := List.filterMap_append

theorem ensures_pins {Result : Type} {program : Line Result}
    {post : List (Entry Pin) → Result → Prop} (ensures : program.Ensures post) :
    (program.lift NodeCall.pin).Ensures fun trace result => post (pins trace) result := by
  induction program generalizing post with
  | done result => exact ensures
  | ask call next induction => exact fun answer => induction answer (ensures answer)

end LoraNode.SensorDriver
