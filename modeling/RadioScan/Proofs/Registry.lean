import Mathlib.Data.List.Nodup
import RadioScan.Alarm.Backlog
import RadioScan.Proofs.Run

/-!
The books of a registry of alarms. An `AlarmSystem` is a registry with the tasks that its scheduler
was given, and a `Course` anything that can be done with the two, in any order. The scheduler may
run a task whenever it likes, also one that it was told to drop. All that is asked of it is a handle
of its own for each task.

An alarm is pending from its scheduling until it is triggered or cancelled, and the registry holds
just the alarms that are pending (`Course.mem_live_iff`). What else there is to say of a course
follows from that and is put together in `Course.accounted`.
-/

set_option autoImplicit false
set_option relaxedAutoImplicit false

namespace RadioScan

/-- The task that a scheduler is given. -/
@[simp] def SchedulerCall.task? : SchedulerCall → Option Task
  | .schedule handle tag _ alarm => some ⟨handle, tag, alarm⟩
  | .cancel _ => none

/-- The handle whose task a scheduler is to drop. -/
@[simp] def SchedulerCall.dropped? : SchedulerCall → Option TaskHandle
  | .schedule _ _ _ _ => none
  | .cancel handle => some handle

/-- A registry, and every task that its scheduler was given. Tasks stay in the list when they have
run or are dropped, since one that had left the scheduler's queue by then can still run. -/
structure AlarmSystem (ε : Type) where
  alarms : Alarms ε
  tasks : List Task

namespace AlarmSystem

variable {ε : Type}

def empty : AlarmSystem ε := ⟨.empty, []⟩

/-- Something that is done with the registry or by the scheduler. `handle` is the one that the
scheduler gives the new task. -/
inductive Use (ε : Type)
  | schedule (tag : String) (delayMillis : Nat) (event : ε) (handle : TaskHandle)
  | trigger (id : AlarmId)
  | cancel (id : AlarmId)
  | cancelAll
  | runTask (handle : TaskHandle)

namespace Use

def handle? : Use ε → Option TaskHandle
  | .schedule _ _ _ handle => some handle
  | _ => none

/-- The alarm is cancelled. -/
def Cancels (id : AlarmId) : Use ε → Prop
  | .cancel other => id = other
  | .cancelAll => True
  | _ => False

/-- The alarm is triggered or cancelled. -/
def Removes (id : AlarmId) : Use ε → Prop
  | .trigger other => id = other
  | .cancel other => id = other
  | .cancelAll => True
  | _ => False

end Use

/-- What a use brings about: the number of a new alarm, the event that is handed over, the calls to
the scheduler, the alarm that a task reports, and the system afterwards. -/
structure Outcome (ε : Type) where
  id : Option AlarmId
  event : Option ε
  calls : List SchedulerCall
  reported : Option AlarmId
  next : AlarmSystem ε

/-- Puts the registry in a new state and has its calls received by the scheduler. -/
def commit (system : AlarmSystem ε) (alarms : Alarms ε) (calls : List SchedulerCall) :
    AlarmSystem ε :=
  ⟨alarms, system.tasks ++ calls.filterMap SchedulerCall.task?⟩

def step (system : AlarmSystem ε) : Use ε → Outcome ε
  | .schedule tag delayMillis event handle =>
    let id := system.alarms.nextId
    let calls := [.schedule handle tag delayMillis id]
    ⟨some id, none, calls, none, system.commit (system.alarms.schedule event handle) calls⟩
  | .trigger id =>
    let (event, alarms) := system.alarms.trigger id
    ⟨none, event, [], none, system.commit alarms []⟩
  | .cancel id =>
    let (calls, alarms) := system.alarms.cancel id
    ⟨none, none, calls, none, system.commit alarms calls⟩
  | .cancelAll =>
    let (calls, alarms) := system.alarms.cancelAll
    ⟨none, none, calls, none, system.commit alarms calls⟩
  | .runTask handle =>
    ⟨none, none, [], (system.tasks.find? fun task ↦ task.handle = handle).map Task.alarm, system⟩

/-- One use, with the system that it found. -/
structure Entry (ε : Type) where
  system : AlarmSystem ε
  use : Use ε

namespace Entry

variable (entry : Entry ε)

def outcome : Outcome ε := entry.system.step entry.use

/-- The alarm that is scheduled: the number that the registry answers with, the event, and the
handle that the scheduler answers with. -/
def alarm? : Option (Alarm ε) :=
  match entry.use with
  | .schedule _ _ event handle => entry.outcome.id.map fun id ↦ ⟨id, event, handle⟩
  | _ => none

/-- The alarm whose event is handed over. -/
def handedOver : List AlarmId :=
  match entry.use with
  | .trigger id => entry.outcome.event.toList.map fun _ ↦ id
  | _ => []

/-- The handles whose tasks the scheduler is to drop. -/
def dropped : List TaskHandle := entry.outcome.calls.filterMap SchedulerCall.dropped?

end Entry

/-- What has been done with a system, oldest first. -/
abbrev Log (ε : Type) := List (Entry ε)

namespace Log

variable (log : Log ε)

/-- All alarms that were ever scheduled. -/
def alarms : List (Alarm ε) := log.filterMap Entry.alarm?

def handedOver : List AlarmId := log.flatMap Entry.handedOver

def dropped : List TaskHandle := log.flatMap Entry.dropped

/-- The alarm was scheduled, and has not been triggered or cancelled since. -/
def Pending (alarm : Alarm ε) : Prop :=
  ∃ earlier entry later, log = earlier ++ entry :: later ∧ entry.alarm? = some alarm ∧
    ∀ other ∈ later, ¬ other.use.Removes alarm.id

end Log

/-- The log of some uses after another log, and the system that comes of them. -/
def play (system : AlarmSystem ε) (log : Log ε) : List (Use ε) → Log ε × AlarmSystem ε
  | [] => (log, system)
  | use :: rest => (system.step use).next.play (log ++ [⟨system, use⟩]) rest

/-- What can be done with a new system, and the system that comes of it. -/
inductive Course : Log ε → AlarmSystem ε → Prop
  | fresh : Course [] .empty
  | snoc {log : Log ε} {system : AlarmSystem ε} (course : Course log system) (use : Use ε)
      (hnew : ∀ handle ∈ use.handle?, handle ∉ system.tasks.map Task.handle) :
      Course (log ++ [⟨system, use⟩]) (system.step use).next

/-- What is to be said of a log that leads to a system. -/
structure Log.Accounted (log : Log ε) (system : AlarmSystem ε) : Prop where
  /-- Each alarm has a greater number than all before it. -/
  numbers_increase :
    (log.alarms.map Alarm.id).Pairwise fun earlier later ↦ earlier.number < later.number
  /-- A counter of 64 bits is enough for fewer than `2 ^ 64` alarms. -/
  numbers_fit : log.alarms.length < UInt64.size →
    system.alarms.issued < UInt64.size ∧ ∀ alarm ∈ log.alarms, alarm.id.number < UInt64.size
  isLive_iff : ∀ id, system.alarms.isLive id = true ↔ ∃ alarm, log.Pending alarm ∧ alarm.id = id
  /-- An event is handed over when its own alarm is triggered while pending, and nothing else is. -/
  event_iff : ∀ (earlier : Log ε) (entry : Entry ε) (later : Log ε),
    log = earlier ++ entry :: later → ∀ event,
      (entry.outcome.event = some event ↔
        ∃ alarm, earlier.Pending alarm ∧ entry.use = .trigger alarm.id ∧ alarm.event = event)
  handedOver_once : log.handedOver.Nodup
  /-- The tasks of the alarms that are cancelled while pending are to be dropped, and no others. -/
  dropped_iff : ∀ (earlier : Log ε) (entry : Entry ε) (later : Log ε),
    log = earlier ++ entry :: later → ∀ handle,
      (handle ∈ entry.dropped ↔
        ∃ alarm, earlier.Pending alarm ∧ entry.use.Cancels alarm.id ∧ alarm.task = handle)
  dropped_once : log.dropped.Nodup
  tasks_distinct : (log.alarms.map Alarm.task).Nodup
  /-- A task reports the alarm that was scheduled with it, and does nothing else. -/
  task_reports : ∀ (earlier : Log ε) (entry : Entry ε) (later : Log ε),
    log = earlier ++ entry :: later → ∀ handle, entry.use = .runTask handle →
      (∀ id, entry.outcome.reported = some id ↔
        ∃ alarm ∈ earlier.alarms, alarm.task = handle ∧ alarm.id = id) ∧
      entry.outcome.event = none ∧ entry.outcome.calls = [] ∧ entry.outcome.next = entry.system

/-! ### One use -/

end AlarmSystem

/-- What is found by a key that no two entries share is the entry with that key. -/
theorem find?_eq_some_iff_of_nodup {α κ : Type} [DecidableEq κ] {key : α → κ} {entries : List α}
    (hkeys : (entries.map key).Nodup) {sought : κ} {entry : α} :
    entries.find? (fun other ↦ key other = sought) = some entry ↔
      entry ∈ entries ∧ key entry = sought := by
  constructor
  · intro hfind
    exact ⟨List.mem_of_find?_eq_some hfind, by simpa using List.find?_some hfind⟩
  · rintro ⟨hmem, rfl⟩
    have hsome : (entries.find? fun other ↦ key other = key entry).isSome :=
      List.find?_isSome.mpr ⟨entry, hmem, by simp⟩
    obtain ⟨other, hfind⟩ := Option.isSome_iff_exists.mp hsome
    have hother : key other = key entry := by simpa using List.find?_some hfind
    rw [hfind, List.inj_on_of_nodup_map hkeys (List.mem_of_find?_eq_some hfind) hmem hother]

namespace Alarms

variable {ε : Type} {alarms : Alarms ε} {alarm : Alarm ε} {id : AlarmId}

theorem mem_live_remove :
    alarm ∈ (alarms.remove id).live ↔ alarm ∈ alarms.live ∧ alarm.id ≠ id := by
  simp [remove]

theorem find?_eq_some_iff (hids : (alarms.live.map Alarm.id).Nodup) :
    alarms.find? id = some alarm ↔ alarm ∈ alarms.live ∧ alarm.id = id :=
  find?_eq_some_iff_of_nodup hids

theorem isLive_iff : alarms.isLive id = true ↔ ∃ alarm ∈ alarms.live, alarm.id = id := by
  simp [isLive, find?, List.find?_isSome]

end Alarms

namespace AlarmSystem

variable {ε : Type} {log : Log ε} {system : AlarmSystem ε} {entry : Entry ε} {alarm : Alarm ε}

theorem Use.Cancels.removes {use : Use ε} {id : AlarmId} (hcancels : use.Cancels id) :
    use.Removes id := by
  cases use with
  | cancel other => exact hcancels
  | cancelAll => trivial
  | _ => exact hcancels.elim

namespace Entry

variable (entry)

theorem of_alarm? {entry : Entry ε} (halarm : entry.alarm? = some alarm) :
    alarm.id = entry.system.alarms.nextId ∧ entry.use.handle? = some alarm.task := by
  obtain ⟨system, use⟩ := entry
  cases use with
  | schedule tag delayMillis event handle =>
    obtain rfl := Option.some.inj halarm
    exact ⟨rfl, rfl⟩
  | _ => cases halarm

theorem issued_next : entry.outcome.next.alarms.issued =
    entry.system.alarms.issued + entry.alarm?.toList.length := by
  obtain ⟨system, use⟩ := entry
  cases use <;> rfl

theorem live_next_sublist : entry.outcome.next.alarms.live.Sublist
    (entry.system.alarms.live ++ entry.alarm?.toList) := by
  obtain ⟨system, use⟩ := entry
  cases use with
  | schedule tag delayMillis event handle => exact List.Sublist.refl _
  | trigger id => exact List.filter_sublist.trans (List.sublist_append_left _ _)
  | cancel id => exact List.filter_sublist.trans (List.sublist_append_left _ _)
  | cancelAll => exact List.nil_sublist _
  | runTask handle => exact List.sublist_append_left _ _

theorem mem_live_next (alarm : Alarm ε) : alarm ∈ entry.outcome.next.alarms.live ↔
    entry.alarm? = some alarm ∨
      alarm ∈ entry.system.alarms.live ∧ ¬ entry.use.Removes alarm.id := by
  obtain ⟨system, use⟩ := entry
  cases use with
  | schedule tag delayMillis event handle =>
    simp [outcome, alarm?, step, commit, Alarms.schedule, Use.Removes, or_comm, eq_comm]
  | trigger id =>
    show alarm ∈ (system.alarms.remove id).live ↔ _
    simp [Alarms.mem_live_remove, alarm?, Use.Removes]
  | cancel id =>
    show alarm ∈ (system.alarms.remove id).live ↔ _
    simp [Alarms.mem_live_remove, alarm?, Use.Removes]
  | cancelAll => simp [outcome, alarm?, step, commit, Alarms.cancelAll, Use.Removes]
  | runTask handle => simp [outcome, alarm?, step, Use.Removes]

/-- The scheduler is given the task of the alarm that is scheduled. -/
theorem tasks_next :
    entry.outcome.next.tasks.map (fun task ↦ (task.handle, task.alarm)) =
      entry.system.tasks.map (fun task ↦ (task.handle, task.alarm)) ++
        entry.alarm?.toList.map fun alarm ↦ (alarm.task, alarm.id) := by
  obtain ⟨system, use⟩ := entry
  cases use with
  | schedule tag delayMillis event handle => exact List.map_append
  | _ => simp [outcome, alarm?, step, commit, Alarms.cancel, Alarms.cancelAll]

theorem handles_next : entry.outcome.next.tasks.map Task.handle =
    entry.system.tasks.map Task.handle ++ entry.use.handle?.toList := by
  obtain ⟨system, use⟩ := entry
  cases use with
  | schedule tag delayMillis event handle => exact List.map_append
  | _ => simp [outcome, step, commit, Alarms.cancel, Alarms.cancelAll, Use.handle?]

theorem event_eq_some_iff (hids : (entry.system.alarms.live.map Alarm.id).Nodup) (event : ε) :
    entry.outcome.event = some event ↔
      ∃ alarm ∈ entry.system.alarms.live, entry.use = .trigger alarm.id ∧ alarm.event = event := by
  obtain ⟨system, use⟩ := entry
  cases use with
  | trigger id =>
    show (system.alarms.find? id).map Alarm.event = some event ↔ _
    rw [Option.map_eq_some_iff]
    simp only [Alarms.find?_eq_some_iff hids, and_assoc, Use.trigger.injEq, eq_comm]
  | _ => simp [outcome, step]

theorem mem_dropped_iff (hids : (entry.system.alarms.live.map Alarm.id).Nodup)
    (handle : TaskHandle) :
    handle ∈ entry.dropped ↔
      ∃ alarm ∈ entry.system.alarms.live, entry.use.Cancels alarm.id ∧ alarm.task = handle := by
  obtain ⟨system, use⟩ := entry
  cases use with
  | cancel id =>
    show handle ∈ ((system.alarms.find? id).toList.map _).filterMap _ ↔ _
    simp [Alarms.find?_eq_some_iff hids, and_assoc, Use.Cancels]
  | cancelAll => simp [dropped, outcome, step, Alarms.cancelAll, Use.Cancels]
  | _ => simp [dropped, outcome, step, Use.Cancels]

theorem nodup_handedOver : entry.handedOver.Nodup := by
  obtain ⟨system, use⟩ := entry
  cases use with
  | trigger id => cases h : Entry.outcome ⟨system, .trigger id⟩ |>.event <;> simp [handedOver, h]
  | _ => exact List.nodup_nil

theorem of_mem_handedOver {id : AlarmId} (hmem : id ∈ entry.handedOver) :
    entry.use = .trigger id ∧ ∃ event, entry.outcome.event = some event := by
  obtain ⟨system, use⟩ := entry
  cases use with
  | trigger other =>
    obtain ⟨event, hevent, rfl⟩ := List.mem_map.mp hmem
    exact ⟨rfl, event, Option.mem_toList.mp hevent⟩
  | _ => cases hmem

theorem nodup_dropped (htasks : (entry.system.alarms.live.map Alarm.task).Nodup) :
    entry.dropped.Nodup := by
  obtain ⟨system, use⟩ := entry
  cases use with
  | cancel id =>
    show (((system.alarms.find? id).toList.map _).filterMap _).Nodup
    cases system.alarms.find? id <;> simp
  | cancelAll => simpa [dropped, outcome, step, Alarms.cancelAll, Function.comp_def] using htasks
  | _ => simp [dropped, outcome, step, List.filterMap_cons]

end Entry

/-! ### Courses -/

namespace Log

theorem alarms_snoc : alarms (log ++ [entry]) = log.alarms ++ entry.alarm?.toList := by
  cases halarm : entry.alarm? <;> simp [alarms, halarm]

theorem pending_snoc : Pending (log ++ [entry]) alarm ↔
    entry.alarm? = some alarm ∨ log.Pending alarm ∧ ¬ entry.use.Removes alarm.id := by
  constructor
  · rintro ⟨earlier, scheduled, later, hlog, halarm, hkept⟩
    rcases History.split_snoc hlog with ⟨-, -, rfl⟩ | ⟨rest, rfl, rfl⟩
    · exact Or.inl halarm
    · rw [List.forall_mem_append] at hkept
      exact Or.inr ⟨⟨earlier, scheduled, rest, rfl, halarm, hkept.1⟩, hkept.2 entry (by simp)⟩
  · rintro (halarm | ⟨⟨earlier, scheduled, later, rfl, halarm, hkept⟩, hlast⟩)
    · exact ⟨log, entry, [], rfl, halarm, by simp⟩
    · refine ⟨earlier, scheduled, later ++ [entry], by simp, halarm, ?_⟩
      exact List.forall_mem_append.mpr ⟨hkept, by simpa using hlast⟩

end Log

/-- The registry and the scheduler's tasks are those of the alarms that were scheduled. -/
structure Log.Kept (log : Log ε) (system : AlarmSystem ε) : Prop where
  issued_eq : system.alarms.issued = log.alarms.length
  numbers_eq : log.alarms.map (fun alarm ↦ alarm.id.number) = List.range' 1 log.alarms.length
  tasks_eq : system.tasks.map (fun task ↦ (task.handle, task.alarm)) =
    log.alarms.map fun alarm ↦ (alarm.task, alarm.id)
  nodup_tasks : (log.alarms.map Alarm.task).Nodup
  live_sublist : system.alarms.live.Sublist log.alarms

namespace Log.Kept

variable (kept : log.Kept system)
include kept

theorem nodup_ids : (log.alarms.map Alarm.id).Nodup := by
  refine List.Nodup.of_map AlarmId.number ?_
  rw [List.map_map]
  exact kept.numbers_eq ▸ List.nodup_range'

theorem nodup_live_ids : (system.alarms.live.map Alarm.id).Nodup :=
  kept.nodup_ids.sublist (kept.live_sublist.map _)

theorem nodup_live_tasks : (system.alarms.live.map Alarm.task).Nodup :=
  kept.nodup_tasks.sublist (kept.live_sublist.map _)

theorem handles_eq : system.tasks.map Task.handle = log.alarms.map Alarm.task := by
  have hhandles := congrArg (List.map Prod.fst) kept.tasks_eq
  rwa [List.map_map, List.map_map] at hhandles

theorem snoc {use : Use ε} (hnew : ∀ handle ∈ use.handle?, handle ∉ system.tasks.map Task.handle) :
    Log.Kept (log ++ [⟨system, use⟩]) (system.step use).next where
  issued_eq := by
    rw [alarms_snoc, List.length_append, ← kept.issued_eq]
    exact Entry.issued_next ⟨system, use⟩
  numbers_eq := by
    rw [alarms_snoc, List.length_append, List.map_append, kept.numbers_eq]
    cases halarm : Entry.alarm? ⟨system, use⟩ with
    | none => simp
    | some alarm =>
      show _ ++ [alarm.id.number] = List.range' 1 (log.alarms.length + 1)
      rw [(Entry.of_alarm? halarm).1, List.range'_1_concat, Alarms.nextId, kept.issued_eq,
        Nat.add_comm]
  tasks_eq := by
    rw [alarms_snoc, List.map_append, ← kept.tasks_eq]
    exact Entry.tasks_next ⟨system, use⟩
  nodup_tasks := by
    rw [alarms_snoc, List.map_append]
    cases halarm : Entry.alarm? ⟨system, use⟩ with
    | none => simpa using kept.nodup_tasks
    | some alarm =>
      have hhandle := hnew alarm.task (Entry.of_alarm? halarm).2
      rw [kept.handles_eq] at hhandle
      exact List.nodup_append.mpr ⟨kept.nodup_tasks, by simp, by simpa using hhandle⟩
  live_sublist := by
    rw [alarms_snoc]
    exact (Entry.live_next_sublist ⟨system, use⟩).trans (kept.live_sublist.append_right _)

end Log.Kept

namespace Course

theorem kept (course : Course log system) : log.Kept system := by
  induction course with
  | fresh => exact ⟨rfl, rfl, rfl, List.nodup_nil, List.Sublist.refl _⟩
  | snoc course use hnew ih => exact ih.snoc hnew

/-- What came before an entry led up to its system. -/
theorem before (course : Course log system) {earlier later : Log ε} {entry : Entry ε}
    (hlog : log = earlier ++ entry :: later) : Course earlier entry.system := by
  induction course generalizing later with
  | fresh => cases earlier <;> cases hlog
  | snoc course use hnew ih =>
    rcases History.split_snoc hlog with ⟨-, rfl, rfl⟩ | ⟨rest, -, hlog⟩
    · exact course
    · exact ih hlog

theorem mem_live_iff (course : Course log system) {alarm : Alarm ε} :
    alarm ∈ system.alarms.live ↔ log.Pending alarm := by
  induction course with
  | fresh => simp [empty, Alarms.empty, Log.Pending]
  | @snoc log system course use hnew ih =>
    rw [Log.pending_snoc, ← ih]
    exact Entry.mem_live_next ⟨system, use⟩ alarm

/-- An alarm is not scheduled again, so it is there afterwards only if it stays. -/
theorem stays (course : Course log system) {use : Use ε}
    (hnew : ∀ handle ∈ use.handle?, handle ∉ system.tasks.map Task.handle) {alarm : Alarm ε}
    (halarm : alarm ∈ log.alarms) (hnext : alarm ∈ (system.step use).next.alarms.live) :
    alarm ∈ system.alarms.live ∧ ¬ use.Removes alarm.id := by
  refine ((Entry.mem_live_next ⟨system, use⟩ alarm).mp hnext).resolve_left fun hagain ↦ ?_
  have hids := (course.snoc use hnew).kept.nodup_ids
  rw [Log.alarms_snoc, List.map_append, List.nodup_append] at hids
  exact hids.2.2 alarm.id (List.mem_map_of_mem halarm) alarm.id (by simp [hagain]) rfl

section Marks

-- what is listed of each entry marks the alarms that it takes out of the registry
variable {β : Type} {mark : Alarm ε → β} {leaving : Entry ε → List β}

/-- An alarm that has left is not in the registry any more. -/
theorem left_of_mem_flatMap (course : Course log system)
    (hleaves : ∀ entry ∈ log, ∀ x ∈ leaving entry,
      ∃ alarm ∈ entry.system.alarms.live, entry.use.Removes alarm.id ∧ mark alarm = x)
    {x : β} (hx : x ∈ log.flatMap leaving) :
    ∃ alarm ∈ log.alarms, alarm ∉ system.alarms.live ∧ mark alarm = x := by
  induction course with
  | fresh => cases hx
  | @snoc log system course use hnew ih =>
    rw [List.forall_mem_append] at hleaves
    rw [List.flatMap_append, List.flatMap_singleton] at hx
    rw [Log.alarms_snoc]
    rcases List.mem_append.mp hx with hx | hx
    · obtain ⟨alarm, halarm, hgone, hmarked⟩ := ih hleaves.1 hx
      refine ⟨alarm, List.mem_append_left _ halarm, fun hnext ↦ ?_, hmarked⟩
      exact hgone (course.stays hnew halarm hnext).1
    · obtain ⟨alarm, hlive, hremoves, hmarked⟩ := hleaves.2 _ (List.mem_singleton_self _) x hx
      have halarm := course.kept.live_sublist.subset hlive
      refine ⟨alarm, List.mem_append_left _ halarm, fun hnext ↦ ?_, hmarked⟩
      exact (course.stays hnew halarm hnext).2 hremoves

/-- An alarm leaves the registry once, and so its mark is listed once, if no other has the same. -/
theorem nodup_flatMap (course : Course log system) (hmark : (log.alarms.map mark).Nodup)
    (hnodup : ∀ entry ∈ log, (leaving entry).Nodup)
    (hleaves : ∀ entry ∈ log, ∀ x ∈ leaving entry,
      ∃ alarm ∈ entry.system.alarms.live, entry.use.Removes alarm.id ∧ mark alarm = x) :
    (log.flatMap leaving).Nodup := by
  induction course with
  | fresh => exact List.nodup_nil
  | @snoc log system course use hnew ih =>
    rw [Log.alarms_snoc, List.map_append, List.nodup_append] at hmark
    rw [List.forall_mem_append] at hnodup hleaves
    rw [List.flatMap_append, List.flatMap_singleton, List.nodup_append]
    refine ⟨ih hmark.1 hnodup.1 hleaves.1, hnodup.2 _ (List.mem_singleton_self _), ?_⟩
    rintro x hx _ hlast rfl
    obtain ⟨first, hfirst, hgone, rfl⟩ := course.left_of_mem_flatMap hleaves.1 hx
    obtain ⟨second, hlive, -, heq⟩ := hleaves.2 _ (List.mem_singleton_self _) _ hlast
    have hsecond := course.kept.live_sublist.subset hlive
    exact hgone (List.inj_on_of_nodup_map hmark.1 hsecond hfirst heq ▸ hlive)

end Marks

theorem numbers_increase (course : Course log system) :
    (log.alarms.map Alarm.id).Pairwise fun earlier later ↦ earlier.number < later.number := by
  have hincrease : (log.alarms.map fun alarm ↦ alarm.id.number).Pairwise (· < ·) :=
    course.kept.numbers_eq ▸ List.pairwise_lt_range'
  rw [List.pairwise_map] at hincrease ⊢
  exact hincrease

theorem number_le (course : Course log system) {alarm : Alarm ε} (hmem : alarm ∈ log.alarms) :
    alarm.id.number ≤ log.alarms.length := by
  have hnumber : alarm.id.number ∈ log.alarms.map fun alarm ↦ alarm.id.number :=
    List.mem_map_of_mem hmem
  rw [course.kept.numbers_eq, List.mem_range'_1] at hnumber
  omega

theorem handedOver_once (course : Course log system) : log.handedOver.Nodup := by
  refine course.nodup_flatMap course.kept.nodup_ids (fun entry _ ↦ entry.nodup_handedOver)
    fun entry hmem id hid ↦ ?_
  obtain ⟨earlier, later, hlog⟩ := List.append_of_mem hmem
  obtain ⟨huse, event, hevent⟩ := entry.of_mem_handedOver hid
  obtain ⟨alarm, hlive, htrigger, -⟩ :=
    (entry.event_eq_some_iff (course.before hlog).kept.nodup_live_ids event).mp hevent
  obtain rfl := Use.trigger.inj (huse.symm.trans htrigger)
  exact ⟨alarm, hlive, htrigger ▸ rfl, rfl⟩

theorem dropped_once (course : Course log system) : log.dropped.Nodup := by
  have hkept {entry : Entry ε} (hmem : entry ∈ log) : ∃ earlier, Log.Kept earlier entry.system := by
    obtain ⟨earlier, later, hlog⟩ := List.append_of_mem hmem
    exact ⟨earlier, (course.before hlog).kept⟩
  refine course.nodup_flatMap course.kept.nodup_tasks (fun entry hmem ↦ ?_)
    fun entry hmem handle hhandle ↦ ?_
  · obtain ⟨earlier, kept⟩ := hkept hmem
    exact entry.nodup_dropped kept.nodup_live_tasks
  · obtain ⟨earlier, kept⟩ := hkept hmem
    obtain ⟨alarm, hlive, hcancels, htask⟩ :=
      (entry.mem_dropped_iff kept.nodup_live_ids handle).mp hhandle
    exact ⟨alarm, hlive, hcancels.removes, htask⟩

theorem reported_iff (course : Course log system) (handle : TaskHandle) (id : AlarmId) :
    (system.step (.runTask handle)).reported = some id ↔
      ∃ alarm ∈ log.alarms, alarm.task = handle ∧ alarm.id = id := by
  have hhandles : (system.tasks.map Task.handle).Nodup :=
    course.kept.handles_eq ▸ course.kept.nodup_tasks
  have hmem : (handle, id) ∈ system.tasks.map (fun task ↦ (task.handle, task.alarm)) ↔
      (handle, id) ∈ log.alarms.map fun alarm ↦ (alarm.task, alarm.id) := by
    rw [course.kept.tasks_eq]
  rw [List.mem_map, List.mem_map] at hmem
  simp only [Prod.mk.injEq] at hmem
  rw [← hmem]
  show (system.tasks.find? _).map Task.alarm = some id ↔ _
  simp only [Option.map_eq_some_iff, find?_eq_some_iff_of_nodup hhandles, and_assoc]

/-- Any uses make a course if the scheduler gives each task a handle of its own. -/
theorem play (course : Course log system) (uses : List (Use ε))
    (hhandles : (system.tasks.map Task.handle ++ uses.filterMap Use.handle?).Nodup) :
    Course (system.play log uses).1 (system.play log uses).2 := by
  induction uses generalizing log system with
  | nil => exact course
  | cons use rest ih =>
    have hnew : ∀ handle ∈ use.handle?, handle ∉ system.tasks.map Task.handle := by
      intro handle hhandle htask
      refine (List.nodup_append.mp hhandles).2.2 handle htask handle ?_ rfl
      exact List.mem_filterMap.mpr ⟨use, List.mem_cons_self, hhandle⟩
    have hnext : (system.step use).next.tasks.map Task.handle =
        system.tasks.map Task.handle ++ use.handle?.toList := Entry.handles_next ⟨system, use⟩
    refine ih (course.snoc use hnew) ?_
    rw [hnext, List.append_assoc]
    cases hhandle : use.handle? with
    | none => rwa [List.filterMap_cons_none hhandle] at hhandles
    | some handle => rwa [List.filterMap_cons_some hhandle] at hhandles

/-- The books of every course balance. -/
theorem accounted (course : Course log system) : log.Accounted system where
  numbers_increase := course.numbers_increase
  numbers_fit := by
    intro hcount
    rw [course.kept.issued_eq]
    exact ⟨hcount, fun alarm hmem ↦ Nat.lt_of_le_of_lt (course.number_le hmem) hcount⟩
  isLive_iff := by
    intro id
    simp only [Alarms.isLive_iff, course.mem_live_iff]
  event_iff := by
    intro earlier entry later hlog event
    have hbefore := course.before hlog
    simp only [entry.event_eq_some_iff hbefore.kept.nodup_live_ids, hbefore.mem_live_iff]
  handedOver_once := course.handedOver_once
  dropped_iff := by
    intro earlier entry later hlog handle
    have hbefore := course.before hlog
    simp only [entry.mem_dropped_iff hbefore.kept.nodup_live_ids, hbefore.mem_live_iff]
  dropped_once := course.dropped_once
  tasks_distinct := course.kept.nodup_tasks
  task_reports := by
    rintro earlier ⟨system, _⟩ later hlog handle rfl
    exact ⟨(course.before hlog).reported_iff handle, rfl, rfl, rfl⟩

/-- Of two alarms the first is cancelled, and its task runs all the same. -/
def lateTask : List (Use Nat) :=
  [.schedule "timeout" 15000 8 ⟨4⟩, .schedule "report" 0 9 ⟨2⟩, .cancel ⟨1⟩, .runTask ⟨4⟩,
    .trigger ⟨1⟩, .trigger ⟨2⟩, .cancelAll]

theorem accounted_lateTask :
    let (log, system) := AlarmSystem.empty.play [] lateTask
    (lateTask.filterMap Use.handle?).Nodup ∧
      log.alarms = [⟨⟨1⟩, 8, ⟨4⟩⟩, ⟨⟨2⟩, 9, ⟨2⟩⟩] ∧
      log.filterMap (fun entry ↦ entry.outcome.reported) = [⟨1⟩] ∧
      log.dropped = [⟨4⟩] ∧ log.handedOver = [⟨2⟩] ∧ log.Accounted system := by
  have hhandles : (lateTask.filterMap Use.handle?).Nodup := by decide
  have course := Course.fresh.play lateTask hhandles
  exact ⟨hhandles, by decide, by decide, by decide, by decide, course.accounted⟩

end Course

end AlarmSystem

end RadioScan
