import RadioScan.Alarm.Basic

/-!
The agenda of a worker that runs tasks when they are due. Tasks are kept in the order in which they
will run: by the time at which they are due, and those due together by handle. A second index gives
the time of each handle, which is how a task is found again when it is cancelled.
-/

set_option autoImplicit false
set_option relaxedAutoImplicit false

namespace RadioScan

/-- A task that waits. `due` is a time on the worker's clock. -/
structure Entry (α : Type) where
  due : Nat
  handle : TaskHandle
  job : α
  deriving DecidableEq, Repr

namespace Entry

variable {α : Type}

/-- Which of two tasks runs first. -/
def precedes (first second : Entry α) : Bool :=
  first.due < second.due
    || first.due == second.due && first.handle.number < second.handle.number

/-- The task has this place in the order, which no other task shares. -/
def isAt (due : Nat) (handle : TaskHandle) (entry : Entry α) : Bool :=
  entry.due == due && entry.handle == handle

end Entry

/-- `queue` are the waiting tasks in running order, and `deadlines` the times of their handles. A
closed agenda runs nothing any more. -/
structure Agenda (α : Type) where
  queue : List (Entry α)
  deadlines : List (TaskHandle × Nat)
  closed : Bool
  deriving DecidableEq, Repr

namespace Agenda

variable {α : Type}

def empty : Agenda α := ⟨[], [], false⟩

/-- Puts a task in front of the first one that does not run before it, and replaces that one if it
has the very same place. -/
def insert (entry : Entry α) : List (Entry α) → List (Entry α)
  | [] => [entry]
  | head :: rest =>
    if head.precedes entry then head :: insert entry rest
    else if head.isAt entry.due entry.handle then entry :: rest
    else entry :: head :: rest

/-- When a waiting task is due. -/
def deadline? (agenda : Agenda α) (handle : TaskHandle) : Option Nat :=
  agenda.deadlines.lookup handle

/-- Forgets the time of a handle. -/
def forget (agenda : Agenda α) (handle : TaskHandle) : List (TaskHandle × Nat) :=
  agenda.deadlines.filter fun known ↦ known.1 ≠ handle

def schedule (agenda : Agenda α) (due : Nat) (handle : TaskHandle) (job : α) : Agenda α :=
  { agenda with
    queue := insert ⟨due, handle, job⟩ agenda.queue
    deadlines := (handle, due) :: agenda.forget handle }

/-- Takes a task off the agenda and gives it back. A handle that is not waiting is nothing to
cancel. -/
def cancel (agenda : Agenda α) (handle : TaskHandle) : Option (Entry α) × Agenda α :=
  match agenda.deadline? handle with
  | none => (none, agenda)
  | some due =>
    (agenda.queue.find? (Entry.isAt due handle),
      { agenda with
        queue := agenda.queue.filter fun entry ↦ !entry.isAt due handle
        deadlines := agenda.forget handle })

/-- The time at which the first task is due. -/
def nextDue? (agenda : Agenda α) : Option Nat := agenda.queue.head?.map Entry.due

/-- Takes the first task off the agenda if it is due by now. -/
def popDue (agenda : Agenda α) (now : Nat) : Option (Entry α × Agenda α) :=
  match agenda.queue with
  | [] => none
  | first :: rest =>
    if agenda.closed ∨ now < first.due then none
    else some (first, { agenda with queue := rest, deadlines := agenda.forget first.handle })

/-- Closes the agenda and gives back what was waiting. -/
def close (agenda : Agenda α) : List (Entry α) × Agenda α := (agenda.queue, ⟨[], [], true⟩)

end Agenda

end RadioScan
