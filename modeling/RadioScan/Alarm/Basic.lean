/-!
Alarms. An event that is due later stays in the registry `Alarms`, under a number of its own, while
the scheduler only holds a task that carries the number. An alarm leaves the registry when it is
triggered or cancelled, so a task that runs after that finds nothing.
-/

set_option autoImplicit false
set_option relaxedAutoImplicit false

namespace RadioScan

/-- Numbers an alarm; later alarms have greater numbers. -/
structure AlarmId where
  number : Nat
  deriving DecidableEq, Repr

/-- Names a task towards the scheduler that holds it. -/
structure TaskHandle where
  number : Nat
  deriving DecidableEq, Repr

/-- What a scheduler is told. A task does nothing but report the number of its alarm. -/
inductive SchedulerCall
  | schedule (handle : TaskHandle) (tag : String) (delayMillis : Nat) (alarm : AlarmId)
  | cancel (handle : TaskHandle)
  deriving DecidableEq, Repr

/-- An event that is due later, and the task that will report it. -/
structure Alarm (ε : Type) where
  id : AlarmId
  event : ε
  task : TaskHandle
  deriving DecidableEq, Repr

/-- The alarms that are neither triggered nor cancelled, oldest first, and how many numbers have
been given out. -/
structure Alarms (ε : Type) where
  issued : Nat
  live : List (Alarm ε)
  deriving DecidableEq, Repr

namespace Alarms

variable {ε : Type}

def empty : Alarms ε := ⟨0, []⟩

/-- The number of the next alarm. -/
def nextId (alarms : Alarms ε) : AlarmId := ⟨alarms.issued + 1⟩

/-- Adds an event whose task the scheduler holds under `task`. -/
def schedule (alarms : Alarms ε) (event : ε) (task : TaskHandle) : Alarms ε :=
  ⟨alarms.issued + 1, alarms.live ++ [⟨alarms.nextId, event, task⟩]⟩

def find? (alarms : Alarms ε) (id : AlarmId) : Option (Alarm ε) :=
  alarms.live.find? fun alarm ↦ alarm.id = id

def isLive (alarms : Alarms ε) (id : AlarmId) : Bool := (alarms.find? id).isSome

/-- Takes an alarm out of the registry. -/
def remove (alarms : Alarms ε) (id : AlarmId) : Alarms ε :=
  { alarms with live := alarms.live.filter fun alarm ↦ alarm.id ≠ id }

/-- Hands over the event of an alarm that went off, and forgets the alarm. -/
def trigger (alarms : Alarms ε) (id : AlarmId) : Option ε × Alarms ε :=
  ((alarms.find? id).map Alarm.event, alarms.remove id)

/-- Forgets an alarm. The scheduler is told to drop its task if the alarm was still live. -/
def cancel (alarms : Alarms ε) (id : AlarmId) : List SchedulerCall × Alarms ε :=
  ((alarms.find? id).toList.map fun alarm ↦ .cancel alarm.task, alarms.remove id)

/-- Forgets every alarm and has all their tasks dropped. -/
def cancelAll (alarms : Alarms ε) : List SchedulerCall × Alarms ε :=
  (alarms.live.map fun alarm ↦ .cancel alarm.task, { alarms with live := [] })

end Alarms

end RadioScan
