import RadioScan.Alarm.Basic

/-!
A scheduler run by hand. Tasks wait in the order in which they were scheduled until somebody runs
the oldest one with a given tag, at once or after holding on to it for a while. A task that is held
can no longer be cancelled, as one that another thread has already taken off its queue.
-/

set_option autoImplicit false
set_option relaxedAutoImplicit false

namespace RadioScan

structure Task where
  handle : TaskHandle
  tag : String
  alarm : AlarmId
  deriving DecidableEq, Repr

/-- `pending` are the waiting tasks, oldest first. `held` are the tasks taken off the queue, in the
order of their taking; each can be run once. -/
structure Backlog where
  issued : Nat
  pending : List Task
  held : List (Option AlarmId)
  deriving DecidableEq, Repr

namespace Backlog

def empty : Backlog := ⟨0, [], []⟩

/-- The handle that the next scheduled task will have. -/
def nextHandle (backlog : Backlog) : TaskHandle := ⟨backlog.issued + 1⟩

def receive (backlog : Backlog) : SchedulerCall → Backlog
  | .schedule handle tag _ alarm =>
    { backlog with
      issued := backlog.issued + 1
      pending := backlog.pending ++ [⟨handle, tag, alarm⟩] }
  | .cancel handle =>
    { backlog with pending := backlog.pending.filter fun task ↦ task.handle ≠ handle }

def receiveAll (backlog : Backlog) (calls : List SchedulerCall) : Backlog :=
  calls.foldl receive backlog

/-- Removes the oldest waiting task with the tag, and gives its alarm. -/
def fire? (backlog : Backlog) (tag : String) : Option (AlarmId × Backlog) :=
  (backlog.pending.find? fun task ↦ task.tag = tag).map fun task ↦
    (task.alarm, { backlog with pending := backlog.pending.erase task })

/-- Removes the oldest waiting task with the tag without running it, and gives the number under
which it is held. -/
def take? (backlog : Backlog) (tag : String) : Option (Nat × Backlog) :=
  (backlog.fire? tag).map fun (alarm, rest) ↦
    (rest.held.length, { rest with held := rest.held ++ [some alarm] })

/-- Gives the alarm of a task that is held, which then is held no more. -/
def release? (backlog : Backlog) (index : Nat) : Option (AlarmId × Backlog) :=
  (backlog.held[index]?.join).map fun alarm ↦
    (alarm, { backlog with held := backlog.held.set index none })

end Backlog

end RadioScan
