import LoraNode.AppLogging
import LoraNode.AppLoop
import LoraNode.DebugLog
import LoraNode.NodePower
import LoraNode.UsartMachine

/-!
# What a terminal shows

The application logs through `DEBUG_LOG_Printf` and sleeps through
`NODE_POWER_Sleep`, both on the same UART, and the rest of the board answers
anything. The lines that a run logs are noted beside the program, which does the
same with and without them. They come out whole, in their order, and the node does
not enter Standby from its wait loop before the last byte is out.
-/

namespace LoraNode.Transcript

open LoraNode.Foundation LoraNode.Foundation.Bytes LoraNode.Foundation.Program
  LoraNode.Foundation.Interference LoraNode.Foundation.Buffers LoraNode.Foundation.Text
  LoraNode.Foundation.Preemption LoraNode.Foundation.Layer
open LoraNode.FrameLine LoraNode.FrameLog LoraNode.Usart LoraNode.LoraApp LoraNode.AppLogging

/-- `powerReady`, and what the radio's argument points to. -/
inductive Statics : Type → Type where
  | read : Statics (Bool × Option NodePower.Radio)

inductive Rest (Reply : Type) : Type where
  | app (call : LoraApp.Call Reply)
  | power (call : NodePower.Access Reply)
  | statics (call : Statics Reply)

abbrev TerminalCall := WriterCall LogBuffer Rest

def powerCall {Reply : Type} : NodePower.Access Reply → TerminalCall Reply
  | .usartWriteIsBusy => .request .writeIsBusy
  | .usartTransmitComplete => .request .transmitComplete
  | call => .other (.power call)

/-- What is behind a call of the application. The wait loop of `NODE_POWER_Sleep` is
followed for so many turns. -/
def appBody (turns : Nat) {Reply : Type} :
    LoraApp.Call Reply → Program TerminalCall (Option Reply)
  | .log text => do
      let _ ← logText (ascii text)
      return some ()
  | .printFrame direction frame length => do
      let _ ← logFrame (ascii direction) (frame.take length)
      return some ()
  | .sleep intervalMs => do
      let statics ← perform (.other (.statics .read))
      let result ← (NodePower.sleep turns statics.1 statics.2 intervalMs).lift powerCall
      return result.map NodePower.SleepResult.returned
  | call => do
      let answer ← perform (.other (.app call))
      return some answer

def lineOf {Reply : Type} : LoraApp.Call Reply → Option (List Byte)
  | .log text => some (ascii text)
  | .printFrame direction frame length =>
      some (frameLine (ascii direction) (frame.take length))
  | _ => none

def lines (trace : List (Entry LoraApp.Call)) : List (List Byte) :=
  trace.filterMap fun entry => lineOf entry.call

def Halts {Reply : Type} : NodePower.Access Reply → Prop
  | .wfi => True
  | _ => False

def quiets (Reply : Type) : Rest Reply → Prop
  | .power call => Halts call
  | _ => False

abbrev terminal : Setting TerminalCall (Writer LogBuffer) := writing logSizes Rest

abbrev orderly : Guard TerminalCall (Writer LogBuffer) := permitted logSizes quiets

section Sleep

variable {accepted : List Byte}

abbrev powered : Setting NodePower.Access (Writer LogBuffer) := terminal.along powerCall

abbrev ordered : Guard NodePower.Access (Writer LogBuffer) := orderly.along powerCall

abbrev Stands (accepted : List Byte) : Writer LogBuffer → Prop :=
  Knows accepted (some .transfer) literals

def Silent (accepted : List Byte) (writer : Writer LogBuffer) : Prop :=
  Stands accepted writer ∧ writer.Flushed

theorem stands_stable : Stable powered (Stands accepted) := by
  have stable : Stable terminal (Stands accepted) := knows_stable
  exact stable

theorem silent_stable : Stable powered (Silent accepted) := by
  intro writer next holds drained
  exact ⟨stands_stable writer next holds.1 drained, drains_flushed drained holds.2⟩

def Away {Reply : Type} : NodePower.Access Reply → Prop
  | .usartWriteIsBusy => False
  | .usartTransmitComplete => False
  | _ => True

def Awake {Reply : Type} : NodePower.Access Reply → Prop
  | .usartWriteIsBusy => False
  | .usartTransmitComplete => False
  | .wfi => False
  | _ => True

theorem away_kept {Reply : Type} {call : NodePower.Access Reply} {writer next : Writer LogBuffer}
    {answer : Reply} (away : Away call) (answered : powered.answers writer call answer next) :
    next = writer := by
  cases call with
  | usartWriteIsBusy => exact away.elim
  | usartTransmitComplete => exact away.elim
  | _ => exact answered

theorem away_keeps {Result : Type} {program : NodePower.Power Result} (away : program.Only Away) :
    Triple powered ordered (Silent accepted) program fun _ => Silent accepted := by
  apply triple_only silent_stable _ _ away
  · intro Reply call writer away silent
    cases call with
    | usartWriteIsBusy => exact away.elim
    | usartTransmitComplete => exact away.elim
    | _ => exact fun _ => silent.2
  · intro Reply call writer answer next away silent answered
    rw [away_kept away answered]
    exact silent

theorem awake_keeps {Result : Type} {program : NodePower.Power Result}
    (awake : program.Only Awake) :
    Triple powered ordered (Stands accepted) program fun _ => Stands accepted := by
  apply triple_only stands_stable _ _ awake
  · intro Reply call writer awake holds
    cases call with
    | usartWriteIsBusy => exact awake.elim
    | usartTransmitComplete => exact awake.elim
    | wfi => exact awake.elim
    | _ => exact False.elim
  · intro Reply call writer answer next awake holds answered
    have away : Away call := by
      cases call with
      | usartWriteIsBusy => exact awake
      | usartTransmitComplete => exact awake
      | _ => trivial
    rw [away_kept away answered]
    exact holds

/-- The UART has drained once both looks at it are over. -/
theorem usartBusy_silences :
    Triple powered ordered (Stands accepted) NodePower.usartBusy fun busy writer =>
      Stands accepted writer ∧ (busy = false → Silent accepted writer) := by
  have stable (busy : Bool) : Stable powered fun writer =>
      Stands accepted writer ∧ (busy = false → Silent accepted writer) :=
    stable_and stands_stable (stable_imp silent_stable)
  have free : Stable terminal (Knows accepted none literals) := knows_stable
  have free : Stable powered (Knows accepted none literals) := free
  have looks : Triple powered ordered (Stands accepted)
      (NodePower.access .usartWriteIsBusy) fun busy writer => Stands accepted writer ∧
        (busy = false → Knows accepted none literals writer) := by
    apply triple_perform stands_stable fun _ => stable_and stands_stable (stable_imp free)
    · exact fun _ _ => trivial
    · intro writer busy next holds answered
      obtain ⟨rfl, rfl⟩ := answered
      refine ⟨holds, fun idle => ⟨holds.known, holds.accepted, .inl ?_⟩⟩
      exact Option.isNone_iff_eq_none.mp (by simpa using idle)
  have completes : Triple powered ordered (Knows accepted none literals)
      (NodePower.access .usartTransmitComplete) fun complete writer =>
        Stands accepted writer ∧ (complete = true → Silent accepted writer) := by
    apply triple_perform free fun _ => stable_and stands_stable (stable_imp silent_stable)
    · exact fun _ _ => trivial
    · intro writer complete next holds answered
      obtain ⟨flushed, rfl⟩ := answered
      have stands : Stands accepted next := knows_mono holds fun _ _ _ found => found
      exact ⟨stands, fun ended => ⟨stands, flushed ended (holds.busy.elim id id)⟩⟩
  rw [NodePower.usartBusy]
  apply triple_seq looks
  intro busy
  cases busy with
  | true => exact triple_pure (stable true) fun _ holds => ⟨holds.1, nofun⟩
  | false =>
      apply triple_seq (triple_pre completes fun _ holds => holds.2 rfl)
      intro complete
      refine triple_pure (stable _) fun _ holds => ⟨holds.1, fun ended => holds.2 ?_⟩
      simpa using ended

theorem drainPeripherals_silences :
    Triple powered ordered (Stands accepted) NodePower.drainPeripherals fun drained writer =>
      Stands accepted writer ∧ (drained = true → Silent accepted writer) := by
  have stable (drained : Bool) : Stable powered fun writer =>
      Stands accepted writer ∧ (drained = true → Silent accepted writer) :=
    stable_and stands_stable (stable_imp silent_stable)
  apply triple_seq (triple_waitWhile stands_stable silent_stable usartBusy_silences _)
  intro inTime
  cases inTime with
  | false => exact triple_pure (stable false) fun _ holds => ⟨holds.1, nofun⟩
  | true =>
      have waits : Triple powered ordered (Silent accepted) NodePower.waitSpi
          fun _ => Silent accepted := away_keeps (NodePower.waitSpi_only trivial)
      apply triple_mono waits fun _ holds => holds.2 rfl
      exact fun _ _ holds => ⟨holds.1, fun _ => holds⟩

theorem access_away {Reply : Type} {call : NodePower.Access Reply} (away : Away call) :
    (NodePower.access call).Only Away := only_perform away

theorem stopRtc_away : NodePower.stopRtc.Only Away :=
  NodePower.stopRtc_only trivial trivial trivial (fun _ => trivial) trivial trivial

theorem startRtc_away (ticks : BitVec 64) : (NodePower.startRtc ticks).Only Away := by
  have synchronizes : NodePower.waitRtcSync.Only Away := NodePower.waitRtcSync_only trivial
  apply only_bind stopRtc_away
  intro ready
  apply only_bind (access_away (by trivial))
  intro _
  apply only_ite (only_pure false)
  apply only_bind (access_away (by trivial))
  intro _
  apply only_bind synchronizes
  intro inTime
  apply only_ite (only_pure false)
  apply only_bind (access_away (by trivial))
  intro _
  apply only_bind synchronizes
  intro inTime
  apply only_ite (only_pure false)
  apply only_bind (access_away (by trivial))
  intro _
  apply only_bind (access_away (by trivial))
  intro ctrl
  apply only_bind (access_away (by trivial))
  exact fun _ => synchronizes

/-- With interrupts masked meanwhile. -/
theorem masked_away {program : NodePower.Power Bool} (away : program.Only Away) :
    (do
      let state ← NodePower.intDisable
      let ready ← program
      NodePower.intRestore state
      return ready : NodePower.Power Bool).Only Away := by
  apply only_bind (NodePower.intDisable_only trivial fun _ => trivial)
  intro state
  apply only_bind away
  intro ready
  exact only_bind (access_away (by trivial)) fun _ => only_pure ready

theorem waitForWake_away (turns : Nat) : (NodePower.waitForWake turns).Only Away := by
  apply only_bind (access_away (by trivial))
  intro scr
  exact NodePower.waitLoop_only trivial (fun _ => trivial) trivial (fun _ => trivial) trivial
    trivial _ turns

/-- Past the drain nothing is written, so Standby finds the UART silent. -/
theorem powerDown_stands (turns : Nat) (pointed : NodePower.Radio) (ticks : BitVec 64) :
    Triple powered ordered (Stands accepted) (NodePower.powerDown turns pointed ticks)
      fun _ => Stands accepted := by
  have rests (result : Option NodePower.SleepResult) : (pure result :
      NodePower.Power (Option NodePower.SleepResult)).Only Away := only_pure result
  apply triple_seq drainPeripherals_silences
  intro drained
  cases drained with
  | false => exact triple_pure stands_stable fun _ holds => holds.1
  | true =>
      rw [if_neg (by decide)]
      apply triple_mono (away_keeps _) (fun _ holds => holds.2 rfl) fun _ _ holds => holds.1
      apply only_bind
        (NodePower.sleepRadio_only trivial (fun _ => trivial) (fun _ _ => trivial) trivial _)
      intro slept
      apply only_ite (rests _)
      apply only_bind (masked_away (startRtc_away ticks))
      intro armed
      apply only_ite
      · exact only_bind stopRtc_away fun _ => rests _
      · apply only_bind (waitForWake_away turns)
        intro woken
        apply only_ite (rests _)
        exact only_bind (masked_away stopRtc_away) fun _ => rests _

theorem sleep_stands (turns : Nat) (powerReady : Bool) (radio : Option NodePower.Radio)
    (intervalMs : BitVec 32) :
    Triple powered ordered (Stands accepted)
      (NodePower.sleep turns powerReady radio intervalMs) fun _ => Stands accepted := by
  have rejects (result : Option NodePower.SleepResult) :
      Triple powered ordered (Stands accepted) (pure result) fun _ => Stands accepted :=
    triple_pure stands_stable fun _ holds => holds
  have looks {Reply : Type} {call : NodePower.Access Reply} (awake : Awake call) :
      Triple powered ordered (Stands accepted) (NodePower.access call) fun _ => Stands accepted :=
    awake_keeps (only_perform awake)
  cases radio with
  | none => exact rejects _
  | some pointed =>
      rw [NodePower.sleep]
      apply triple_ite fun _ => rejects _
      intro _
      apply triple_seq (looks (by trivial))
      intro ipsr
      apply triple_ite fun _ => rejects _
      intro _
      apply triple_seq (looks (by trivial))
      intro enabled
      apply triple_ite fun _ => rejects _
      intro _
      apply triple_seq (awake_keeps (NodePower.intDisable_only trivial fun _ => trivial))
      intro state
      apply triple_seq (looks (by trivial))
      intro _
      apply triple_ite fun _ => rejects _
      exact fun _ => powerDown_stands turns pointed _

end Sleep

section Application

/-- Of the lines logged so far, those in `kept` were accepted. -/
def Shows (writer : Writer LogBuffer) (trace : List (Entry LoraApp.Call)) : Prop :=
  ∃ kept, List.Sublist kept (lines trace) ∧ Stands kept.flatten writer

theorem shows_stable (trace : List (Entry LoraApp.Call)) :
    Stable terminal fun writer => Shows writer trace :=
  stable_exists fun _ => stable_and (stable_fact _) knows_stable

theorem lines_next (trace : List (Entry LoraApp.Call)) {Reply : Type} (call : LoraApp.Call Reply)
    (answer : Reply) : lines (trace ++ [⟨call, answer⟩]) = lines trace ++ (lineOf call).toList := by
  have single : lines [⟨call, answer⟩] = (lineOf call).toList := by
    rw [lines, List.filterMap_cons, List.filterMap_nil]
    cases lineOf call <;> rfl
  rw [lines, List.filterMap_append]
  exact congrArg (lines trace ++ ·) single

/-- A line is kept when the UART takes it. -/
theorem shows_line {writer : Writer LogBuffer} {trace : List (Entry LoraApp.Call)}
    {kept : List (List Byte)} {text : List Byte} {call : LoraApp.Call Unit} {taken : Bool}
    (line : lineOf call = some text) (before : List.Sublist kept (lines trace))
    (stands : Stands (kept.flatten ++ if taken then text else []) writer) :
    Shows writer (trace ++ [⟨call, ()⟩]) := by
  cases taken with
  | true =>
      refine ⟨kept ++ [text], ?_, ?_⟩
      · rw [lines_next, line]
        exact before.append (List.Sublist.refl [text])
      · rw [List.flatten_append, List.flatten_singleton]
        exact stands
  | false =>
      refine ⟨kept, ?_, ?_⟩
      · rw [lines_next]
        exact before.trans (List.sublist_append_left _ _)
      · rw [← List.append_nil kept.flatten]
        exact stands

theorem shows_silent {writer : Writer LogBuffer} {trace : List (Entry LoraApp.Call)}
    {Reply : Type} {call : LoraApp.Call Reply} (none : lineOf call = none) (answer : Reply)
    (shows : Shows writer trace) : Shows writer (trace ++ [⟨call, answer⟩]) := by
  obtain ⟨kept, before, stands⟩ := shows
  refine ⟨kept, ?_, stands⟩
  rw [lines_next, none]
  exact before.trans (List.sublist_append_left _ _)

abbrev Noted (trace : List (Entry LoraApp.Call)) {Reply : Type} (call : LoraApp.Call Reply) :
    Option Reply → Writer LogBuffer → Prop :=
  Finished (fun _ => True) fun answer writer => Shows writer (trace ++ [⟨call, answer⟩])

variable {trace : List (Entry LoraApp.Call)} {kept : List (List Byte)}

theorem noted_stable {Reply : Type} (call : LoraApp.Call Reply) (answer : Option Reply) :
    Stable terminal (Noted trace call answer) := by
  cases answer with
  | none => exact stable_fact True
  | some answer => exact shows_stable _

theorem line_noted {call : LoraApp.Call Unit} {text : List Byte} (line : lineOf call = some text)
    (before : List.Sublist kept (lines trace))
    {program : Program TerminalCall LogReturn}
    (writes : Triple terminal orderly (Stands kept.flatten) program fun returned writer =>
      Stands (kept.flatten ++ if returned.accepts then text else []) writer) :
    Triple terminal orderly (Stands kept.flatten)
      (do
        let _ ← program
        return some ()) (Noted trace call) := by
  apply triple_seq writes
  intro returned
  exact triple_pure (noted_stable call _) fun _ stands => shows_line line before stands

theorem other_noted {Reply : Type} {call : LoraApp.Call Reply} (none : lineOf call = none)
    (before : List.Sublist kept (lines trace)) :
    Triple terminal orderly (Stands kept.flatten)
      (do
        let answer ← perform (.other (.app call))
        return some answer) (Noted trace call) := by
  have performs : Triple terminal orderly (Stands kept.flatten) (perform (.other (.app call)))
      fun _ => Stands kept.flatten := by
    apply triple_perform knows_stable fun _ => knows_stable
    · exact fun _ _ => False.elim
    · intro writer answer next stands answered
      obtain rfl := answered
      exact stands
  apply triple_seq performs
  intro answer
  refine triple_pure (noted_stable call _) ?_
  exact fun _ stands => shows_silent none answer ⟨kept, before, stands⟩

theorem sleep_noted (turns : Nat) (intervalMs : BitVec 32)
    (before : List.Sublist kept (lines trace)) :
    Triple terminal orderly (Stands kept.flatten) (appBody turns (.sleep intervalMs))
      (Noted trace (.sleep intervalMs)) := by
  have reads : Triple terminal orderly (Stands kept.flatten)
      (perform (.other (.statics .read))) fun _ => Stands kept.flatten := by
    apply triple_perform knows_stable fun _ => knows_stable
    · exact fun _ _ => False.elim
    · intro writer answer next stands answered
      obtain rfl := answered
      exact stands
  apply triple_seq reads
  intro statics
  apply triple_seq (triple_along (sleep_stands turns statics.1 statics.2 intervalMs))
  intro result
  refine triple_pure (noted_stable _ _) ?_
  intro writer stands
  cases result with
  | none => trivial
  | some result => exact shows_silent rfl _ ⟨kept, before, stands⟩

theorem appBody_noted (turns : Nat) {Reply : Type} (call : LoraApp.Call Reply)
    (fits : LogsFit call) (before : List.Sublist kept (lines trace)) :
    Triple terminal orderly (Stands kept.flatten) (appBody turns call) (Noted trace call) := by
  cases call with
  | log text => exact line_noted rfl before (logText_writes (ascii text))
  | printFrame direction frame length =>
      obtain ⟨either, short, inside⟩ := fits
      have size : (frame.take length).length ≤ 64 := by
        rw [List.length_take]
        exact Nat.le_trans (Nat.min_le_left _ _) short
      have word : 0 ∉ ascii direction ∧ (ascii direction).length ≤ 2 := by
        rcases either with rfl | rfl
        · decide
        · decide
      exact line_noted rfl before (logFrame_writes _ (frame.take length) word.1 word.2 size)
  | sleep intervalMs => exact sleep_noted turns intervalMs before
  | _ => exact other_noted rfl before

/-- The application on the UART does what it does for a recorder of its calls. -/
theorem app_realizes (turns : Nat) :
    Realizes (recording LoraApp.Call) (fun call _ => LogsFit call) terminal orderly
      (appBody turns) (fun _ => True) Shows where
  waits := stable_fact True
  rests := by
    intro writer next trace shows drained
    exact ⟨trace, .refl, shows_stable trace writer next shows drained⟩
  takes := by
    intro Reply call writer trace fits shows
    obtain ⟨kept, before, stands⟩ := shows
    apply secured_mono (appBody_noted turns call fits before writer stands)
    intro answer next noted
    cases answer with
    | none => trivial
    | some answer => exact ⟨_, ⟨trace, _, .refl, rfl, .refl⟩, noted⟩

end Application

section Board

variable {Result : Type}

/-- A program of the application, down to the registers of SERCOM5. -/
def onBoard (turns : Nat) (program : App Result) :
    Program (TaskCall LogBuffer Rest) (Option Result) :=
  implement (stacked (appBody turns) writerBody) program

structure Fresh (port : Port LogBuffer) : Prop where
  represents : Represents logSizes port ⟨port.memory, [], [], none⟩
  known : Known literals port.memory

/-- The program, with the lines that it logs beside its result. -/
abbrev logged (program : App Result) : App (Result × List (List Byte)) := noting lineOf [] program

/-- The program has returned, and of the lines that its calls logged some, whole and in
order, are what has left on TX, what the registers hold and what is still to be written. -/
def Transcribed (program : App Result) (answer : Option (Result × List (List Byte)))
    (port : Port LogBuffer) : Prop :=
  ∀ result written, answer = some (result, written) →
    (∃ trace, Runs program trace result ∧ written = lines trace) ∧
      ∃ kept, List.Sublist kept written ∧
        port.out ++ port.shift.toList ++ port.data.toList ++ port.pending = kept.flatten

theorem logged_runs {program : App Result} {trace : List (Entry LoraApp.Call)}
    {answer : Result × List (List Byte)} (runs : Runs (logged program) trace answer) :
    Runs program trace answer.1 ∧ answer.2 = lines trace :=
  ensures_runs (ensures_noting (ensures_ran program) []) runs

/-- The lines are beside the program and not in it. -/
theorem onBoard_logged (turns : Nat) (program : App Result) :
    Option.map Prod.fst <$> onBoard turns (logged program) = onBoard turns program := by
  rw [onBoard, ← implement_map, noting_erased]
  rfl

/-- In every interleaving with the interrupt handler of SERCOM5. -/
theorem board_transcribes (turns : Nat) {program : App Result} (fits : program.Only LogsFit)
    {port : Port LogBuffer} (fresh : Fresh port)
    {reached : Configuration (TaskCall LogBuffer Rest) (Access LogBuffer) (Port LogBuffer)
      (Option (Result × List (List Byte)))}
    (moves : Moves (tasks logSizes Rest) sercom interruptHandler Port.requests
      ⟨onBoard turns (logged program), none, port⟩ reached) :
    reached.Shown (careful logSizes quiets) (sound logSizes) (Transcribed program) := by
  have realizes := realizes_trans (app_realizes turns) (writer_realizes logSizes quiets)
  have shows : Shows ⟨port.memory, [], [], none⟩ [] :=
    ⟨[], List.Sublist.refl [], fresh.known, rfl, .inl rfl⟩
  have only : (logged program).Only LogsFit := only_noting fits []
  have secured := secured_implement realizes ⟨_, fresh.represents, shows⟩ (recording_runs only [])
  have returns : Secured (board logSizes Rest) (attended logSizes quiets)
      (onBoard turns (logged program))
      (fun answer after => Ready logSizes after ∧ Transcribed program answer after) port := by
    apply secured_mono secured
    intro answer after finished
    cases answer with
    | none =>
        rcases finished with waits | ⟨writer, represents, _⟩
        · exact waits.elim
        · exact ⟨represents_ready represents, fun _ _ same => nomatch same⟩
    | some value =>
        obtain ⟨trace, ⟨writer, represents, kept, among, stands⟩, later, same, runs⟩ := finished
        have same : trace = later := same
        obtain ⟨ran, written⟩ := logged_runs runs
        rw [same, ← written] at among
        refine ⟨represents_ready represents, ?_⟩
        rintro result lines ⟨⟩
        refine ⟨⟨later, ran, written⟩, kept, among, ?_⟩
        rw [represents_pending represents]
        exact stands.accepted
  have shown := preempted_always (fun _ _ guarded => guarded.2) (fun _ _ ends => ends.1)
    ready_handled returns moves
  exact shown_mono shown (fun _ _ guarded => guarded.1) fun _ _ ends => ends.2

/-- `main`, followed for so many calls of `LORA_APP_Tasks`. -/
def runTasks (config : AppConfig) : Nat → AppState → App AppState
  | 0, state => return state
  | calls + 1, state => do
      let state ← LoraApp.tasks config state
      runTasks config calls state

def nodeMain (config : AppConfig) (calls : Nat) : App AppState := do
  let started ← initializeApp config .zero
  runTasks config calls started.2

theorem nodeMain_fits (config : AppConfig) (calls : Nat) :
    (nodeMain config calls).Only LogsFit := by
  apply only_bind (initializeApp_fits config .zero)
  intro started
  generalize started.2 = state
  induction calls generalizing state with
  | zero => exact only_pure state
  | succ calls induction => exact only_bind (tasks_fits config state) induction

theorem node_transcribes (config : AppConfig) (calls turns : Nat) (port : Port LogBuffer)
    (fresh : Fresh port) :
    Option.map Prod.fst <$> onBoard turns (logged (nodeMain config calls)) =
        onBoard turns (nodeMain config calls) ∧
      ∀ reached, Moves (tasks logSizes Rest) sercom interruptHandler Port.requests
        ⟨onBoard turns (logged (nodeMain config calls)), none, port⟩ reached →
        reached.Shown (careful logSizes quiets) (sound logSizes)
          (Transcribed (nodeMain config calls)) :=
  ⟨onBoard_logged turns _,
    fun _ moves => board_transcribes turns (nodeMain_fits config calls) fresh moves⟩

theorem unusedPort_fresh : Fresh (unusedPort literals) :=
  ⟨unusedPort_represents literals, fun _ _ _ found => found⟩

section Machine

def powerBench {Reply : Type} : NodePower.Access Reply → Reply
  | .usartWriteIsBusy => false
  | .usartTransmitComplete => true
  | .spiIsBusy => false
  | .setNss _ => ()
  | .spiWriteRead _ _ => true
  | .spiRx1 => 0x80
  | .rtcSyncBusy => false
  | .readCtrl => 0
  | .writeCtrl _ => ()
  | .writeCount _ => ()
  | .writeComp _ => ()
  | .writeIntenclr _ => ()
  | .writeIntenset _ => ()
  | .writeIntflag _ => ()
  | .clearPendingIrq => ()
  | .getEnableIrq => true
  | .getIpsr => 0
  | .getPrimask => false
  | .setPrimask _ => ()
  | .readScr => 0
  | .writeScr _ => ()
  | .wfi => ()
  | .readWakePending => true
  | .writeWakePending _ => ()

def staticsBench {Reply : Type} : Statics Reply → Reply
  | .read => (true, some ⟨true, ⟨1, 20, .sleep, Sx1278.Buffer.zero, 0⟩⟩)

def restBench {Reply : Type} : Rest Reply → Reply
  | .app call => (AppLoop.bench 0 call).1
  | .power call => powerBench call
  | .statics call => staticsBench call

def firstUplink : Program (TaskCall LogBuffer Rest) (Option (AppState × List (List Byte))) :=
  onBoard 1 (logged (nodeMain .default 1))

def firstUplinkRun : Option (AppState × List (List Byte)) × Port LogBuffer :=
  firstUplink.simulate (promptly (serveTask restBench) Port.turn 200) (unusedPort literals)

def firstUplinkLines : List (List Byte) :=
  [ascii "\r\nstatus: initializing LoRa-02\r\n",
    ascii "status: sensor node ready, first uplink in 5000 ms\r\n",
    ascii "status: sleep, RTC wake in 5000 ms\r\n",
    ascii "status: RTC wakeup\r\n",
    ascii "status: tx len=13 hex=02 02 00 00 04 00 FA 02 58 00 00 08 0F\r\n",
    ascii "status: RX ready, waiting for ACK\r\n"]

theorem node_transcribes_uplink :
    Moves (tasks logSizes Rest) sercom interruptHandler Port.requests
      ⟨firstUplink, none, unusedPort literals⟩
      ⟨.done firstUplinkRun.1, none, firstUplinkRun.2⟩ ∧
    firstUplinkRun.1.map Prod.snd = some firstUplinkLines ∧
    firstUplinkRun.2.out ++ firstUplinkRun.2.shift.toList ++ firstUplinkRun.2.data.toList ++
      firstUplinkRun.2.pending = firstUplinkLines.flatten ∧
    Transcribed (nodeMain .default 1) firstUplinkRun.1 firstUplinkRun.2 := by
  have moves := task_moves logSizes restBench 200 firstUplink (unusedPort literals)
  have shown : firstUplinkRun.1.map Prod.snd = some firstUplinkLines ∧
      firstUplinkRun.2.out ++ firstUplinkRun.2.shift.toList ++ firstUplinkRun.2.data.toList ++
        firstUplinkRun.2.pending = firstUplinkLines.flatten := by decide +kernel
  have transcribed := (node_transcribes .default 1 1 (unusedPort literals) unusedPort_fresh).2
    _ moves
  exact ⟨moves, shown.1, shown.2, transcribed⟩

end Machine

end Board

end LoraNode.Transcript
