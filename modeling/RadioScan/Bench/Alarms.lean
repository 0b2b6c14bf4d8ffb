import RadioScan.Alarm.Backlog

/-!
A bench for a registry of alarms. Its tasks wait in a backlog; running one only shows which alarm it
carries, and what becomes of that alarm is up to the next command.
-/

set_option autoImplicit false
set_option relaxedAutoImplicit false

namespace RadioScan

/-- `scheduled` are the numbers of all alarms so far, oldest first. -/
structure AlarmBench where
  alarms : Alarms Int
  backlog : Backlog
  scheduled : List AlarmId
  deriving DecidableEq, Repr

namespace AlarmBench

/-- Alarms are referred to by the order of their scheduling, from zero on. -/
inductive Command
  | schedule (tag : String) (delayMillis : Nat) (event : Int)
  | cancel (index : Nat)
  | trigger (index : Nat)
  | isLive (index : Nat)
  | cancelAll
  | fire (tag : String)
  | take (tag : String)
  | runHeld (index : Nat)
  deriving DecidableEq, Repr

/-- `newest` says whether an alarm's number is greater than those of all earlier ones. -/
inductive Answer
  | scheduled (id : AlarmId) (newest : Bool)
  | noSuchEvent
  | done
  | event (event : Option Int)
  | flag (value : Bool)
  | held (index : Option Nat)
  deriving DecidableEq, Repr

/-- What a command brought about: its answer, the calls to the scheduler, the alarms whose tasks
ran, and the bench afterwards. -/
structure Outcome where
  answer : Answer
  calls : List SchedulerCall
  fired : List AlarmId
  next : AlarmBench
  deriving DecidableEq, Repr

def empty : AlarmBench := ⟨.empty, .empty, []⟩

/-- Puts the registry in a new state and passes its calls on to the scheduler. -/
def commit (bench : AlarmBench) (answer : Answer) (calls : List SchedulerCall)
    (alarms : Alarms Int) : Outcome :=
  ⟨answer, calls, [], { bench with alarms, backlog := bench.backlog.receiveAll calls }⟩

/-- Does something with an alarm that has been scheduled. -/
def withAlarm (bench : AlarmBench) (index : Nat) (use : AlarmId → Outcome) : Outcome :=
  match bench.scheduled[index]? with
  | some id => use id
  | none => ⟨.noSuchEvent, [], [], bench⟩

def step (bench : AlarmBench) : Command → Outcome
  | .schedule tag delayMillis event =>
    let handle := bench.backlog.nextHandle
    let id := bench.alarms.nextId
    let newest := bench.scheduled.all fun earlier ↦ earlier.number < id.number
    { bench with scheduled := bench.scheduled ++ [id] }.commit (.scheduled id newest)
      [.schedule handle tag delayMillis id] (bench.alarms.schedule event handle)
  | .cancel index =>
    bench.withAlarm index fun id ↦
      let (calls, alarms) := bench.alarms.cancel id
      bench.commit .done calls alarms
  | .trigger index =>
    bench.withAlarm index fun id ↦
      let (event, alarms) := bench.alarms.trigger id
      bench.commit (.event event) [] alarms
  | .isLive index =>
    bench.withAlarm index fun id ↦ ⟨.flag (bench.alarms.isLive id), [], [], bench⟩
  | .cancelAll =>
    let (calls, alarms) := bench.alarms.cancelAll
    bench.commit .done calls alarms
  | .fire tag =>
    match bench.backlog.fire? tag with
    | some (id, backlog) => ⟨.flag true, [], [id], { bench with backlog }⟩
    | none => ⟨.flag false, [], [], bench⟩
  | .take tag =>
    match bench.backlog.take? tag with
    | some (index, backlog) => ⟨.held (some index), [], [], { bench with backlog }⟩
    | none => ⟨.held none, [], [], bench⟩
  | .runHeld index =>
    match bench.backlog.release? index with
    | some (id, backlog) => ⟨.flag true, [], [id], { bench with backlog }⟩
    | none => ⟨.flag false, [], [], bench⟩

/-- Which of the alarms so far are live. -/
def live (bench : AlarmBench) : List Bool := bench.scheduled.map bench.alarms.isLive

/-- The outcomes of several commands, one after the other. -/
def trace (bench : AlarmBench) : List Command → List Outcome
  | [] => []
  | command :: rest =>
    let outcome := bench.step command
    outcome :: outcome.next.trace rest

end AlarmBench

end RadioScan
