import RadioScan.Agenda.Rehearsal
import RadioScan.Proofs.Fates

/-!
Rehearsals are courses of an agenda. A job that a rehearsal schedules draws its handle and enters at
once, and the job that holds the worker back has been run before any other. So what is proved of
courses holds of every rehearsal, and each job that was ever scheduled is reported once, as run, as
cancelled or as discarded (`Script.exists_course`).
-/

set_option autoImplicit false
set_option relaxedAutoImplicit false

namespace RadioScan

namespace AgendaSystem

/-- The names of the jobs of some tasks. -/
def names (tasks : List (Entry Assignment)) : List String := tasks.map fun entry ↦ entry.job.name

/-- A course leads to the system, and its jobs with another fate than to wait have these names. -/
def Charted (system : AgendaSystem Assignment) (ran cancelled discarded : List String) : Prop :=
  ∃ log, Course log system ∧ names (log.tasks system .ran) = ran ∧
    names (log.tasks system .cancelled) = cancelled ∧
    names (log.tasks system .discarded) = discarded

theorem Charted.step {system : AgendaSystem Assignment} {ran cancelled discarded : List String}
    (charted : system.Charted ran cancelled discarded) (use : Use Assignment) :
    (system.step use).next.Charted (ran ++ names (system.step use).ran.toList)
      (cancelled ++ names (system.step use).cancelled.toList)
      (discarded ++ names (system.step use).discarded) := by
  obtain ⟨log, course, rfl, rfl, rfl⟩ := charted
  obtain ⟨hran, hcancelled, hdiscarded⟩ :=
    Log.tasks_snoc log ⟨system, use⟩ system (system.step use).next
  refine ⟨_, course.snoc use, ?_, ?_, ?_⟩
  · rw [hran]
    exact List.map_append
  · rw [hcancelled]
    exact List.map_append
  · rw [hdiscarded]
    exact List.map_append

theorem Course.names_perm {log : Log Assignment} {system : AgendaSystem Assignment}
    (course : Course log system) : (names log.entered).Perm
      (names system.agenda.queue ++ (names (log.tasks system .ran) ++
        (names (log.tasks system .cancelled) ++ names (log.tasks system .discarded)))) := by
  have hperm := course.kept.tasks_perm.map fun entry ↦ entry.job.name
  rw [Log.flatMap_tasks, List.map_append, List.map_append, List.map_append] at hperm
  exact hperm

end AgendaSystem

namespace Rehearsal

open AgendaSystem

/-- The job that holds the worker back. -/
def holder : Assignment := ⟨"", .mk 0 [] []⟩

/-- A rehearsal as a system, with nobody on the way. -/
def system (state : Rehearsal) : AgendaSystem Assignment := ⟨state.issued, [], state.agenda⟩

/-- A course leads to where the rehearsal stands. -/
def Charted (state : Rehearsal) : Prop :=
  state.system.Charted (holder.name :: state.ran) state.cancelled []

variable {state : Rehearsal}

theorem charted_fresh (opening : Nat) : (fresh opening).Charted :=
  ⟨_, Course.fresh.play [.draw 0 holder, .enter ⟨1⟩ 0, .run 0], rfl, rfl, rfl⟩

theorem Charted.schedule (charted : state.Charted) (assignment : Assignment) :
    (state.schedule assignment).Charted := by
  have hdraw := AgendaSystem.Charted.step charted (.draw assignment.errand.delayMillis assignment)
  have henter := hdraw.step (.enter ⟨state.issued + 1⟩ state.now)
  show AgendaSystem.Charted ⟨state.issued + 1, [], state.agenda.schedule _ _ _⟩
    (holder.name :: state.ran) state.cancelled []
  simpa [AgendaSystem.step, system, nextTicket, Ticket.entry, names] using henter

theorem Charted.cancelHandle (charted : state.Charted) (handle : TaskHandle) :
    (state.cancelHandle handle).Charted := by
  have hcancel : AgendaSystem.Charted (state.cancelHandle handle).system
      (holder.name :: state.ran ++ []) (state.cancelled ++ names (state.agenda.cancel handle).1.toList)
      [] := AgendaSystem.Charted.step charted (.cancel handle)
  have hnames : names (state.agenda.cancel handle).1.toList =
      ((state.agenda.cancel handle).1.map fun entry ↦ entry.job.name).toList := by
    cases (state.agenda.cancel handle).1 <;> rfl
  rw [List.append_nil, hnames] at hcancel
  exact hcancel

theorem Charted.cancel (charted : state.Charted) (index : Nat) : (state.cancel index).Charted := by
  rw [Rehearsal.cancel]
  split
  · exact charted.cancelHandle (handle index)
  · exact charted

/-- What holds at first and is kept by each item holds in the end. -/
theorem Charted.foldl {β : Type} {act : Rehearsal → β → Rehearsal}
    (hact : ∀ (state : Rehearsal) (item : β), state.Charted → (act state item).Charted)
    (charted : state.Charted) (items : List β) : (items.foldl act state).Charted := by
  induction items generalizing state with
  | nil => exact charted
  | cons item rest ih => exact ih (hact state item charted)

/-- A task that is taken off to be run is counted when its job is performed. -/
theorem Charted.perform {entry : Entry Assignment} {agenda : Agenda Assignment} {now : Nat}
    (charted : state.Charted) (hpop : state.agenda.popDue now = some (entry, agenda)) :
    (({ state with agenda, now } : Rehearsal).perform entry.job).Charted := by
  have hrun := AgendaSystem.Charted.step charted (.run now)
  have hstep : state.system.step (.run now) =
      { ran := some entry, next := ⟨state.issued, [], agenda⟩ } := by
    rw [AgendaSystem.step, system, hpop]
  rw [hstep] at hrun
  have hcounted : Charted { state with agenda, now, ran := state.ran ++ [entry.job.name] } := by
    show AgendaSystem.Charted ⟨state.issued, [], agenda⟩
      (holder.name :: (state.ran ++ [entry.job.name])) state.cancelled []
    simpa [names] using hrun
  exact (hcounted.foldl (fun _ index charted ↦ charted.cancel index) _).foldl
    (fun _ assignment charted ↦ charted.schedule assignment) _

theorem Charted.play (charted : state.Charted) (expected fuel : Nat) :
    (state.play expected fuel).Charted := by
  induction fuel generalizing state with
  | zero => exact charted
  | succ fuel ih =>
    rw [Rehearsal.play]
    split
    · exact charted
    · dsimp only
      split
      next hpop => exact charted
      next entry agenda hpop => exact ih (charted.perform hpop)

end Rehearsal

namespace Script

open AgendaSystem Rehearsal

theorem charted_opening (script : Script) : script.opening.Charted :=
  (charted_fresh _).foldl (fun _ assignment charted ↦ charted.schedule assignment) _

theorem charted_revised (script : Script) : script.revised.Charted := by
  have hcancelled : (script.cancelled.foldl Rehearsal.cancel script.opening).Charted :=
    script.charted_opening.foldl (fun _ index charted ↦ charted.cancel index) _
  show Charted (if _ then _ else _)
  split
  · exact hcancelled.cancelHandle ⟨0⟩
  · exact hcancelled

/-- The rehearsal when no more jobs are run. -/
def last (script : Script) : Rehearsal :=
  if script.abandoned then script.revised
  else script.revised.play script.expected (Errand.countAll script.errands)

theorem charted_last (script : Script) : script.last.Charted := by
  rw [last]
  split
  · exact script.charted_revised
  · exact script.charted_revised.play _ _

/-- What is reported as cancelled or discarded was cancelled, or was waiting at the end. -/
theorem reported_perm (script : Script) :
    (script.rehearse.cancelled ++ script.rehearse.discarded).Perm
      (script.last.cancelled ++ names script.last.agenda.queue) := by
  have halphabetical (listed : List String) : (alphabetical listed).Perm listed :=
    List.mergeSort_perm _ _
  cases habandoned : script.abandoned with
  | true =>
    have hreported : script.rehearse.cancelled ++ script.rehearse.discarded =
        alphabetical (script.last.cancelled ++ names script.last.agenda.queue) := by
      simp only [rehearse, last, habandoned, if_true]
      rfl
    rw [hreported]
    exact halphabetical _
  | false =>
    have hreported : script.rehearse.cancelled ++ script.rehearse.discarded =
        alphabetical script.last.cancelled ++ alphabetical (names script.last.agenda.queue) := by
      simp only [rehearse, last, habandoned]
      rfl
    rw [hreported]
    exact (halphabetical _).append (halphabetical _)

/-- Every rehearsal is a course in which the agenda is closed at the end. The jobs that it reports
as run, cancelled or discarded are those that have entered the agenda, each reported once. -/
theorem exists_course (script : Script) :
    ∃ log system, Course log system ∧ system.agenda.closed = true ∧
      names (log.tasks system .ran) = holder.name :: script.rehearse.ran ∧
      (names log.entered).Perm (holder.name :: (script.rehearse.ran ++
        (script.rehearse.cancelled ++ script.rehearse.discarded))) := by
  obtain ⟨log, course, hran, hcancelled, hdiscarded⟩ :=
    AgendaSystem.Charted.step script.charted_last .close
  -- the agenda is closed, so no job waits
  have hentered := course.names_perm
  rw [hran, hcancelled, hdiscarded] at hentered
  have hlast : holder.name :: script.last.ran ++ names [] = holder.name :: script.rehearse.ran :=
    List.append_nil _
  refine ⟨log, _, course, rfl, hran.trans hlast, hentered.trans ?_⟩
  show (holder.name :: script.last.ran ++ names [] ++
    (script.last.cancelled ++ names [] ++ names script.last.agenda.queue)).Perm _
  rw [hlast, names, List.map_nil, List.append_nil]
  exact script.reported_perm.symm.append_left _

end Script

end RadioScan
