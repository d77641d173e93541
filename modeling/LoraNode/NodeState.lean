import LoraNode.AppConfig
import LoraNode.NodePacket

/-!
# The node state machine (`node_state.c`, `node_state.h`)

`handleEvent` is the source function with its output pointers as results. The
two timing macros are settings of the build and come from the configuration.
Names leave out the prefix `NODE_STATE_`.
-/

namespace LoraNode.NodeState

open LoraNode.Foundation.Bytes LoraNode.NodePacket

inductive State where
  | waitInterval
  | waitTxResult
  | waitAck
  | other (value : Nat) (unnamed : 3 ≤ value)
  deriving DecidableEq

inductive EventType where
  | frameReceived
  | txSucceeded
  | txFailed
  | timerTick
  | intervalElapsed
  | other (value : Nat) (unnamed : 5 ≤ value)
  deriving DecidableEq

inductive ActionType where
  | none
  | readSensor
  | transactionComplete
  | ackTimeout
  | txFailed
  deriving DecidableEq

inductive IgnoreReason where
  | none
  | invalidPacket
  | wrongDestination
  | unexpectedType
  | ackMismatch
  | unexpectedEvent
  deriving DecidableEq

/-- `NODE_STATE_Event`. A NULL frame is `none`; a frame has its length. -/
structure Event where
  type : EventType
  frame : Option (List Byte)
  tickMs : BitVec 32
  deriving DecidableEq

structure Action where
  type : ActionType
  ignoreReason : IgnoreReason
  transactionId : Byte
  sequence : BitVec 16
  deriving DecidableEq

def Action.zero : Action where
  type := .none
  ignoreReason := .none
  transactionId := 0
  sequence := 0

structure Context where
  state : State
  nodeAddress : Byte
  responseSequence : BitVec 16
  pendingTransactionId : Byte
  pendingSequence : BitVec 16
  ackStartedTickMs : BitVec 32
  intervalStartedTickMs : BitVec 32
  transactionId : Byte
  deriving DecidableEq

def isNodeAddress (address : Byte) : Bool :=
  minNodeAddress ≤ address && address ≤ maxNodeAddress

def completeTransaction (context : Context) (action : Action) (actionType : ActionType)
    (tickMs : BitVec 32) : Context × Action :=
  ({ context with
      responseSequence := context.responseSequence + 1
      state := .waitInterval
      intervalStartedTickMs := tickMs
      transactionId := context.transactionId + 1
      pendingTransactionId := 0
      pendingSequence := 0
      ackStartedTickMs := 0 },
    { action with type := actionType })

def handleWaitInterval (config : AppConfig) (context : Context) (event : Event)
    (action : Action) : Context × Action :=
  if event.type ≠ .timerTick ∧ event.type ≠ .intervalElapsed then
    (context, { action with ignoreReason := .unexpectedEvent })
  else if event.type = .timerTick ∧
      event.tickMs - context.intervalStartedTickMs < config.sleepIntervalMs then
    (context, action)
  else
    ({ context with
        pendingTransactionId := context.transactionId
        pendingSequence := context.responseSequence
        state := .waitTxResult },
      { action with
        transactionId := context.transactionId
        sequence := context.responseSequence
        type := .readSensor })

def handleWaitTxResult (context : Context) (event : Event) (action : Action) :
    Context × Action :=
  if event.type = .txSucceeded then
    ({ context with state := .waitAck, ackStartedTickMs := event.tickMs }, action)
  else if event.type = .txFailed then
    completeTransaction context action .txFailed event.tickMs
  else (context, { action with ignoreReason := .unexpectedEvent })

/-- `NODE_STATE_HandleWaitAck`. The local `packet` is written before it is read,
so its first value does not matter. -/
def handleWaitAck (config : AppConfig) (context : Context) (event : Event)
    (action : Action) : Context × Action :=
  let elapsedMs := event.tickMs - context.ackStartedTickMs
  -- Timeout wins at the configured deadline, whatever the event carries.
  if config.ackTimeoutMs ≤ elapsedMs then
    completeTransaction context action .ackTimeout event.tickMs
  else if event.type = .timerTick then (context, action)
  else if event.type ≠ .frameReceived then
    (context, { action with ignoreReason := .unexpectedEvent })
  else
    match decode event.frame Message.zero with
    | (false, _) => (context, { action with ignoreReason := .invalidPacket })
    | (true, packet) =>
        if packet.destination ≠ context.nodeAddress then
          (context, { action with ignoreReason := .wrongDestination })
        else if packet.type ≠ .ack then
          (context, { action with ignoreReason := .unexpectedType })
        else if packet.transactionId ≠ context.pendingTransactionId ∨
            packet.sequence ≠ context.pendingSequence then
          (context, { action with ignoreReason := .ackMismatch })
        else completeTransaction context action .transactionComplete event.tickMs

/-- `NODE_STATE_Initialize`: on failure the caller's context is kept. -/
def initializeContext (context : Context) (nodeAddress : Byte) (tickMs : BitVec 32) :
    Bool × Context :=
  if !isNodeAddress nodeAddress then (false, context)
  else
    (true,
      { state := .waitInterval
        nodeAddress := nodeAddress
        responseSequence := 0
        pendingTransactionId := 0
        pendingSequence := 0
        ackStartedTickMs := 0
        intervalStartedTickMs := tickMs
        transactionId := 0 })

structure HandleResult where
  handled : Bool
  context : Context
  action : Action
  deriving DecidableEq

def handleEvent (config : AppConfig) (context : Context) (event : Event) (action : Action) :
    HandleResult :=
  match context.state with
  | .waitInterval =>
      let result := handleWaitInterval config context event .zero
      ⟨true, result.1, result.2⟩
  | .waitTxResult =>
      let result := handleWaitTxResult context event .zero
      ⟨true, result.1, result.2⟩
  | .waitAck =>
      let result := handleWaitAck config context event .zero
      ⟨true, result.1, result.2⟩
  | .other _ _ => ⟨false, context, action⟩

end LoraNode.NodeState
