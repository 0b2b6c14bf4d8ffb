import RadioScan.Bench.Alarms
import RadioScan.Proofs.Registry

/-!
The bench for alarms is no different from other systems of alarms. Each of its commands does one
thing with its registry or nothing (`AlarmBench.use?`), and the handles that its backlog gives out
are new ones. So whatever is done on the bench is a course (`AlarmBench.exists_course`), and the
books of that course are those of the bench.
-/

set_option autoImplicit false
set_option relaxedAutoImplicit false

namespace RadioScan

namespace AlarmBench

/-- What a command does with the registry, if anything. -/
def use? (bench : AlarmBench) : Command → Option (AlarmSystem.Use Int)
  | .schedule tag delayMillis event =>
    some (.schedule tag delayMillis event bench.backlog.nextHandle)
  | .cancel index => bench.scheduled[index]?.map .cancel
  | .trigger index => bench.scheduled[index]?.map .trigger
  | .cancelAll => some .cancelAll
  | _ => none

/-- The bench after several commands, one after the other. -/
def after (bench : AlarmBench) (commands : List Command) : AlarmBench :=
  commands.foldl (fun bench command ↦ (bench.step command).next) bench

/-- The bench has the registry of the system, and has given out the handles of all its tasks. -/
structure Follows (bench : AlarmBench) (system : AlarmSystem Int) : Prop where
  alarms_eq : bench.alarms = system.alarms
  handles_le : ∀ task ∈ system.tasks, task.handle.number ≤ bench.backlog.issued

variable {bench : AlarmBench} {system : AlarmSystem Int} {command : Command}

theorem issued_receiveAll_cancel {ε : Type} (backlog : Backlog) (alarms : List (Alarm ε)) :
    (backlog.receiveAll (alarms.map fun alarm ↦ .cancel alarm.task)).issued = backlog.issued := by
  induction alarms generalizing backlog with
  | nil => rfl
  | cons alarm rest ih => exact ih _

theorem Follows.of_issued_eq (hfollows : bench.Follows system) {backlog : Backlog}
    (hissued : backlog.issued = bench.backlog.issued) :
    Follows { bench with backlog } system :=
  ⟨hfollows.alarms_eq, fun task hmem ↦ hissued ▸ hfollows.handles_le task hmem⟩

theorem Follows.commit (hfollows : bench.Follows system) (answer : Answer) (alarms : Alarms Int)
    (dropped : List (Alarm Int)) :
    Follows (bench.commit answer (dropped.map fun alarm ↦ .cancel alarm.task) alarms).next
      (system.commit alarms (dropped.map fun alarm ↦ .cancel alarm.task)) where
  alarms_eq := rfl
  handles_le := by
    intro task hmem
    have htask : task ∈ system.tasks := by simpa [AlarmSystem.commit] using hmem
    show _ ≤ (bench.backlog.receiveAll _).issued
    rw [issued_receiveAll_cancel]
    exact hfollows.handles_le task htask

/-- What is not done with the registry leaves it as it is, and tells the scheduler nothing. -/
theorem Follows.step_of_none (hfollows : bench.Follows system) (huse : bench.use? command = none) :
    (bench.step command).calls = [] ∧ (bench.step command).next.Follows system := by
  cases command with
  | schedule tag delayMillis event => cases huse
  | cancelAll => cases huse
  | cancel index =>
    have hindex : bench.scheduled[index]? = none := Option.map_eq_none_iff.mp huse
    rw [step, withAlarm, hindex]
    exact ⟨rfl, hfollows⟩
  | trigger index =>
    have hindex : bench.scheduled[index]? = none := Option.map_eq_none_iff.mp huse
    rw [step, withAlarm, hindex]
    exact ⟨rfl, hfollows⟩
  | isLive index =>
    rw [step, withAlarm]
    cases bench.scheduled[index]? <;> exact ⟨rfl, hfollows⟩
  | fire tag =>
    rw [step]
    cases hfire : bench.backlog.fire? tag with
    | none => exact ⟨rfl, hfollows⟩
    | some fired =>
      obtain ⟨task, -, rfl⟩ := Option.map_eq_some_iff.mp hfire
      exact ⟨rfl, hfollows.of_issued_eq rfl⟩
  | take tag =>
    rw [step]
    cases htake : bench.backlog.take? tag with
    | none => exact ⟨rfl, hfollows⟩
    | some taken =>
      obtain ⟨fired, hfire, rfl⟩ := Option.map_eq_some_iff.mp htake
      obtain ⟨task, -, rfl⟩ := Option.map_eq_some_iff.mp hfire
      exact ⟨rfl, hfollows.of_issued_eq rfl⟩
  | runHeld index =>
    rw [step]
    cases hrelease : bench.backlog.release? index with
    | none => exact ⟨rfl, hfollows⟩
    | some released =>
      obtain ⟨id, -, rfl⟩ := Option.map_eq_some_iff.mp hrelease
      exact ⟨rfl, hfollows.of_issued_eq rfl⟩

/-- What is done with the registry is done as in the system. -/
theorem Follows.step_of_some (hfollows : bench.Follows system) {use : AlarmSystem.Use Int}
    (huse : bench.use? command = some use) :
    (bench.step command).calls = (system.step use).calls ∧
      (bench.step command).next.Follows (system.step use).next ∧
      ∀ handle ∈ use.handle?, handle ∉ system.tasks.map Task.handle := by
  obtain ⟨alarms, backlog, scheduled⟩ := bench
  obtain rfl : alarms = system.alarms := hfollows.alarms_eq
  cases command with
  | schedule tag delayMillis event =>
    obtain rfl := Option.some.inj huse
    refine ⟨rfl, ⟨rfl, fun task hmem ↦ ?_⟩, fun handle hhandle htask ↦ ?_⟩
    · rcases List.mem_append.mp hmem with hold | hnew
      · exact Nat.le_succ_of_le (hfollows.handles_le task hold)
      · rw [List.mem_singleton.mp hnew]
        exact Nat.le_refl _
    · obtain rfl := Option.some.inj hhandle
      obtain ⟨task, hmem, heq⟩ := List.mem_map.mp htask
      have hle := hfollows.handles_le task hmem
      rw [heq] at hle
      exact Nat.not_succ_le_self _ hle
  | cancel index =>
    obtain ⟨id, hindex, rfl⟩ := Option.map_eq_some_iff.mp huse
    rw [step, withAlarm, hindex]
    exact ⟨rfl, hfollows.commit .done _ _, fun handle hhandle ↦ nomatch hhandle⟩
  | trigger index =>
    obtain ⟨id, hindex, rfl⟩ := Option.map_eq_some_iff.mp huse
    rw [step, withAlarm, hindex]
    exact ⟨rfl, hfollows.commit (.event _) _ [], fun handle hhandle ↦ nomatch hhandle⟩
  | cancelAll =>
    obtain rfl := Option.some.inj huse
    exact ⟨rfl, hfollows.commit .done _ _, fun handle hhandle ↦ nomatch hhandle⟩
  | _ => cases huse

/-- A bench that follows a system goes on as a course of that system. -/
theorem Follows.exists_course (hfollows : bench.Follows system) {log : AlarmSystem.Log Int}
    (course : AlarmSystem.Course log system) (commands : List Command) :
    ∃ (later : AlarmSystem.Log Int) (next : AlarmSystem Int),
      AlarmSystem.Course (log ++ later) next ∧ (bench.after commands).Follows next ∧
        (bench.trace commands).flatMap Outcome.calls =
          later.flatMap fun entry ↦ entry.outcome.calls := by
  induction commands generalizing bench system log with
  | nil => exact ⟨[], system, by rwa [List.append_nil], hfollows, rfl⟩
  | cons command rest ih =>
    cases huse : bench.use? command with
    | none =>
      obtain ⟨hcalls, hnext⟩ := hfollows.step_of_none huse
      obtain ⟨later, next, hcourse, hafter, htrace⟩ := ih hnext course
      refine ⟨later, next, hcourse, hafter, ?_⟩
      rw [← htrace, trace, List.flatMap_cons, hcalls, List.nil_append]
    | some use =>
      obtain ⟨hcalls, hnext, hnew⟩ := hfollows.step_of_some huse
      obtain ⟨later, next, hcourse, hafter, htrace⟩ := ih hnext (course.snoc use hnew)
      refine ⟨⟨system, use⟩ :: later, next, ?_, hafter, ?_⟩
      · rwa [List.append_assoc] at hcourse
      · rw [List.flatMap_cons, ← htrace, trace, List.flatMap_cons, hcalls]
        rfl

/-- Whatever is done on the bench, its registry goes through a course, and the scheduler of that
course is told what that of the bench is told. -/
theorem exists_course (commands : List Command) :
    ∃ (log : AlarmSystem.Log Int) (system : AlarmSystem Int), AlarmSystem.Course log system ∧
      (empty.after commands).alarms = system.alarms ∧
      (empty.trace commands).flatMap Outcome.calls =
        log.flatMap fun entry ↦ entry.outcome.calls := by
  have hempty : empty.Follows .empty := ⟨rfl, fun _ hmem ↦ absurd hmem List.not_mem_nil⟩
  obtain ⟨log, system, hcourse, hafter, hcalls⟩ := hempty.exists_course .fresh commands
  exact ⟨log, system, hcourse, hafter.alarms_eq, hcalls⟩

end AlarmBench

end RadioScan
