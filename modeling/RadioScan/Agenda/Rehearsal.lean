import RadioScan.Agenda.Basic

/-!
Rehearsing an agenda. Jobs that cancel others and schedule more are put on an agenda while its
worker is held back, and then run on a clock that jumps from one due time to the next.
-/

set_option autoImplicit false
set_option relaxedAutoImplicit false

namespace RadioScan

/-- A job. When it runs it cancels some of the jobs that were there from the start, and then
schedules its followers. -/
inductive Errand
  | mk (delayMillis : Nat) (cancels : List Nat) (followers : List Errand)

namespace Errand

def delayMillis : Errand → Nat
  | mk delayMillis _ _ => delayMillis

def cancels : Errand → List Nat
  | mk _ cancels _ => cancels

def followers : Errand → List Errand
  | mk _ _ followers => followers

mutual

/-- How many jobs come of a job, itself included. -/
def count : Errand → Nat
  | mk _ _ followers => countAll followers + 1

def countAll : List Errand → Nat
  | [] => 0
  | errand :: rest => count errand + countAll rest

end

end Errand

/-- What is rehearsed. The jobs in `cancelled` are cancelled before the first one runs, and with
`cancelUnknown` also one that does not exist. The agenda is closed once `expected` jobs were run or
cancelled, or, if it is `abandoned`, before any. -/
structure Script where
  errands : List Errand
  cancelled : List Nat
  cancelUnknown : Bool
  expected : Nat
  abandoned : Bool

/-- A job and the name by which it is reported. -/
structure Assignment where
  name : String
  errand : Errand

/-- Where a rehearsal stands. `issued` counts the handles given out, `opening` the jobs of the
beginning. -/
structure Rehearsal where
  agenda : Agenda Assignment
  issued : Nat
  opening : Nat
  now : Nat
  ran : List String
  cancelled : List String

/-- How a rehearsal ended. The names of cancelled jobs, and of those that were waiting at the end,
are in alphabetical order. -/
structure Rehearsed where
  handles : List TaskHandle
  ran : List String
  cancelled : List String
  discarded : List String
  deriving DecidableEq, Repr

namespace Rehearsal

/-- The first handle belongs to the job that holds the worker back. -/
def fresh (opening : Nat) : Rehearsal := ⟨.empty, 1, opening, 0, [], []⟩

def schedule (state : Rehearsal) (assignment : Assignment) : Rehearsal :=
  { state with
    agenda := state.agenda.schedule (state.now + assignment.errand.delayMillis)
      ⟨state.issued + 1⟩ assignment
    issued := state.issued + 1 }

/-- The handle of a job of the beginning. -/
def handle (index : Nat) : TaskHandle := ⟨index + 2⟩

def cancelHandle (state : Rehearsal) (handle : TaskHandle) : Rehearsal :=
  let (entry, agenda) := state.agenda.cancel handle
  { state with
    agenda
    cancelled := state.cancelled ++ (entry.map fun entry ↦ entry.job.name).toList }

/-- Cancels a job of the beginning. -/
def cancel (state : Rehearsal) (index : Nat) : Rehearsal :=
  if index < state.opening then state.cancelHandle (handle index) else state

/-- Runs a job at the current time. -/
def perform (state : Rehearsal) (assignment : Assignment) : Rehearsal :=
  let followers := assignment.errand.followers.zipIdx.map fun (errand, index) ↦
    (⟨assignment.name ++ "." ++ toString index, errand⟩ : Assignment)
  followers.foldl schedule
    (assignment.errand.cancels.foldl cancel
      { state with ran := state.ran ++ [assignment.name] })

/-- Runs up to `fuel` jobs, and no more than it takes for the expected number to be run or
cancelled. -/
def play (expected : Nat) : Nat → Rehearsal → Rehearsal
  | 0, state => state
  | fuel + 1, state =>
    if expected ≤ state.ran.length + state.cancelled.length then state
    else
      let now := max state.now (state.agenda.nextDue?.getD state.now)
      match state.agenda.popDue now with
      | none => state
      | some (entry, agenda) => play expected fuel ({ state with agenda, now }.perform entry.job)

end Rehearsal

namespace Script

/-- The rehearsal when all jobs of the beginning are scheduled. -/
def opening (script : Script) : Rehearsal :=
  (script.errands.zipIdx.map fun (errand, index) ↦
    (⟨toString index, errand⟩ : Assignment)).foldl Rehearsal.schedule
      (.fresh script.errands.length)

/-- The rehearsal when the first cancellations are done. No job has the handle zero. -/
def revised (script : Script) : Rehearsal :=
  let state := script.cancelled.foldl Rehearsal.cancel script.opening
  if script.cancelUnknown then state.cancelHandle ⟨0⟩ else state

def alphabetical (names : List String) : List String :=
  names.mergeSort fun left right ↦ left ≤ right

/-- Rehearses a script. What is cancelled while the worker is held back counts as discarded if no
job runs at all. -/
def rehearse (script : Script) : Rehearsed :=
  let last := if script.abandoned then script.revised
    else script.revised.play script.expected (Errand.countAll script.errands)
  let waiting := last.agenda.close.1.map fun entry ↦ entry.job.name
  { handles := (List.range script.errands.length).map Rehearsal.handle
    ran := last.ran
    cancelled := if script.abandoned then [] else alphabetical last.cancelled
    discarded := alphabetical (if script.abandoned then last.cancelled ++ waiting else waiting) }

end Script

end RadioScan
