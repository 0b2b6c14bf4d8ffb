import RadioScan.Proofs.Standing

/-!
What becomes of tasks. While a request occupies the session its task is waiting, the only one that
has neither run nor been dropped; a vacant session leaves none behind (`Run.pending_tasks`). A task
may run at any time, and acts only while its own request is in the session
(`Run.step_task`).
-/

set_option autoImplicit false
set_option relaxedAutoImplicit false

namespace RadioScan

namespace Booking

variable {booking : Booking}

/-- What the listener is told when the request's task runs: that time is up, if the driver took the
request, and why it did not otherwise. -/
def verdict (booking : Booking) : Reason :=
  if (booking.request.channels booking.scanner.radio).isEmpty then .unspecified
  else booking.around.scanRefusal.getD .timeout

theorem reason_alarm_event : booking.alarm.event.reason = booking.verdict := by
  rw [alarm, deferred, Deferred.reason_ofRefusal, refusal?, ScanRequest.refusal?, verdict]
  by_cases hchannels : (booking.request.channels booking.scanner.radio).isEmpty <;>
    simp [hchannels]

/-- A request that the driver took has a timeout, and any other one a task that reports its failure
without delay. -/
def Timed (booking : Booking) : Prop :=
  (booking.Taken ∧ booking.alarm.event = .scanTimeout ∧
      booking.task.tag = Deferred.timeoutTag ∧ booking.task.delayMillis = 15000) ∨
    (¬ booking.Taken ∧ booking.alarm.event = .failureReport booking.verdict ∧
      booking.task.tag = Deferred.failureTag ∧ booking.task.delayMillis = 0)

theorem timed (booking : Booking) : booking.Timed := by
  have hreason := booking.reason_alarm_event
  rw [alarm, deferred] at hreason
  rw [Timed, taken_iff, alarm, task, deferred]
  cases hrefusal : booking.refusal? with
  | none => exact Or.inl ⟨rfl, rfl, rfl, rfl⟩
  | some reason =>
    rw [hrefusal] at hreason
    obtain rfl : reason = booking.verdict := hreason
    exact Or.inr ⟨by simp, rfl, rfl, rfl⟩

/-- What comes of the task of the request in the session: its listener is told that it has failed,
the session is idle, and its alarm is out of the registry. -/
def failedReply (booking : Booking) (scanner : Coordinator) : Reply Coordinator where
  rejection := none
  effects := [.notify booking.listener (.scan (.failed booking.verdict))]
  next :=
    { scanner with
      single :=
        { scanner.single with
          phase := .idle
          alarms := scanner.single.alarms.remove booking.alarm.id } }

theorem Occupies.vacated_eq {session : SingleSession} (hoccupies : booking.Occupies session) :
    session.vacated =
      { session with phase := .idle, alarms := session.alarms.remove booking.alarm.id } := by
  rw [SingleSession.vacated, Alarms.remove_of_live_eq_singleton hoccupies.live_eq]

theorem Occupies.step_runTask {scanner : Coordinator}
    (hoccupies : booking.Occupies scanner.single) (around : Surroundings) :
    scanner.step around (.runTask booking.alarm.id) = booking.failedReply scanner := by
  rw [Coordinator.step, hoccupies.serves.alarmRings_self, hoccupies.vacated_eq,
    booking.reason_alarm_event]
  rfl

end Booking

/-- The task has run, or the scheduler was told to drop it. -/
def ScheduledTask.Settled (task : ScheduledTask) (past : History) : Prop :=
  task.alarm ∈ past.ran ∨ task.handle ∈ past.dropped

/-- The request is in the session. The registry holds its alarm and nothing else, its task is the
only one that is not settled, and ends the request when it runs. -/
structure Booking.Pending (booking : Booking) (past : History) (scanner : Coordinator) : Prop where
  occupies : booking.Occupies scanner.single
  timed : booking.Timed
  scheduled : booking.task ∈ past.tasks
  waiting : ¬ booking.task.Settled past
  others_settled : ∀ task ∈ past.tasks, task ≠ booking.task → task.Settled past
  step_runTask : ∀ around,
    scanner.step around (.runTask booking.task.alarm) = booking.failedReply scanner

namespace SingleSession

variable {session : SingleSession}

/-- An alarm that goes off is the one of the current request. -/
theorem Sound.occupant?_of_trigger (hsound : session.Sound) {id : AlarmId} {event : Deferred}
    (htrigger : (session.alarms.trigger id).1 = some event) :
    session.phase.occupant?.map Prod.snd = some id := by
  rcases hsound with hvacant | ⟨scan, alarm, hserves⟩
  · rw [Alarms.trigger_of_not_live (by simp [hvacant.live_eq])] at htrigger
    cases htrigger
  · by_cases hid : alarm.id = id
    · rw [hserves.occupant_eq, ← hid]
      rfl
    · rw [Alarms.trigger_of_not_live (by simpa [hserves.live_eq] using hid)] at htrigger
      cases htrigger

/-- Nothing is in the registry once the current request has failed. -/
theorem Sound.live_fail (hsound : session.Sound) (reason : Reason) :
    (session.fail reason).next.alarms.live = [] := by
  rcases hsound with hvacant | ⟨scan, alarm, hserves⟩
  · rw [fail_of_idle hvacant.phase_eq]
    exact hvacant.live_eq
  · rw [hserves.fail]
    rfl

end SingleSession

/-- What the driver says of single scans does nothing while none is in the session. -/
theorem Coordinator.step_driverEvent_of_idle {scanner : Coordinator}
    (hidle : scanner.single.phase = .idle) (around : Surroundings) :
    (∀ reason, scanner.step around (.driverEvent (.scanFailed reason)) = ⟨none, [], scanner⟩) ∧
      scanner.step around (.driverEvent .scanResultsAvailable) = ⟨none, [], scanner⟩ := by
  refine ⟨fun reason ↦ ?_, ?_⟩
  · rw [Coordinator.step, Coordinator.handle, SingleSession.fail_of_idle hidle]
    rfl
  · rw [Coordinator.step, Coordinator.handle, SingleSession.deliver_of_idle hidle]
    rfl

namespace Run

variable {radio : Radio} {fallbackBatch : Nat} {past : History} {scanner : Coordinator}

theorem settled_iff (run : Run radio fallbackBatch past scanner) {booking : Booking}
    (hmem : booking.toEpisode ∈ past) :
    booking.task.Settled past ↔ ¬ booking.Occupies scanner.single := by
  cases run.standing hmem with
  | current hoccupies _ hran hdropped =>
    exact iff_of_false (not_or.mpr ⟨hran, hdropped⟩) (not_not_intro hoccupies)
  | ended hlistener _ _ hgone =>
    exact iff_of_true hgone fun hoccupies ↦ hlistener hoccupies.listener?_eq

/-- Of two requests that were accepted in a run, at most one occupies the session. -/
theorem eq_of_occupies (run : Run radio fallbackBatch past scanner) {first second : Booking}
    (hfirst : first.toEpisode ∈ past) (hsecond : second.toEpisode ∈ past)
    (hoccupies : first.Occupies scanner.single) (hother : second.Occupies scanner.single) :
    first = second :=
  run.eq_of_alarm hfirst hsecond
    (congrArg Alarm.id (hother.serves.unique hoccupies.serves).2)

theorem pending_of_occupies (run : Run radio fallbackBatch past scanner) {booking : Booking}
    (hmem : booking.toEpisode ∈ past) (hoccupies : booking.Occupies scanner.single) :
    booking.Pending past scanner where
  occupies := hoccupies
  timed := booking.timed
  scheduled := booking.task_mem_tasks hmem
  waiting := fun hsettled ↦ (run.settled_iff hmem).mp hsettled hoccupies
  others_settled := by
    intro task htask hne
    obtain ⟨other, hother, rfl⟩ := run.task_booked htask
    refine (run.settled_iff hother).mpr fun hsecond ↦ hne ?_
    rw [run.eq_of_occupies hother hmem hsecond hoccupies]
  step_runTask := hoccupies.step_runTask

/-- A session that is idle has no alarm and no task left. One that is not serves a request whose
alarm is the only one in the registry and whose task is the only one that still waits. Hence an
alarm that goes off is always the current request's, and a cleanup that has failed the current
request finds no other alarm to cancel. -/
theorem pending_tasks (run : Run radio fallbackBatch past scanner) :
    (scanner.single.phase = .idle →
        scanner.single.alarms.live = [] ∧ ∀ task ∈ past.tasks, task.Settled past) ∧
      (scanner.single.phase ≠ .idle →
        ∃ booking : Booking, booking.toEpisode ∈ past ∧ booking.Pending past scanner) ∧
      (∀ id event, (scanner.single.alarms.trigger id).1 = some event →
        scanner.single.phase.occupant?.map Prod.snd = some id) ∧
      (scanner.single.fail .unspecified).next.alarms.cancelAll.1 = [] := by
  refine ⟨fun hidle ↦ ?_, fun hbusy ↦ ?_, fun id event ↦ run.sound.occupant?_of_trigger, ?_⟩
  · rcases run.vacant_or_occupied with hvacant | ⟨booking, _, hoccupies⟩
    · refine ⟨hvacant.live_eq, fun task htask ↦ ?_⟩
      obtain ⟨booking, hmem, rfl⟩ := run.task_booked htask
      exact (run.settled_iff hmem).mpr fun hoccupies ↦ hvacant.not_serves hoccupies.serves
    · exact absurd hidle hoccupies.serves.phase_ne_idle
  · rcases run.vacant_or_occupied with hvacant | ⟨booking, hmem, hoccupies⟩
    · exact absurd hvacant.phase_eq hbusy
    · exact ⟨booking, hmem, run.pending_of_occupies hmem hoccupies⟩
  · rw [Alarms.cancelAll_of_live_eq_nil (run.sound.live_fail .unspecified)]

/-- One request ends with results, and the driver refuses the next one. -/
def secondRefused : List (Surroundings × Action) :=
  [(.calm 1, .startScan (.ofChannel 2412 0#32) ⟨1⟩),
    (.calm 2, .driverEvent .scanResultsAvailable),
    ({ Surroundings.calm 2 with scanRefusal := some .busy },
      .startScan (.ofChannel 2412 0#32) ⟨2⟩)]

theorem pending_tasks_secondRefused :
    let (past, scanner) := Coordinator.play [] .specimen secondRefused
    Coordinator.Playable [] .specimen secondRefused ∧
      past.tasks =
        [⟨⟨1⟩, Deferred.timeoutTag, 15000, ⟨1⟩⟩, ⟨⟨2⟩, Deferred.failureTag, 0, ⟨2⟩⟩] ∧
      ∃ booking : Booking, booking.toEpisode ∈ past ∧ booking.Pending past scanner := by
  have hplayable : Coordinator.Playable [] .specimen secondRefused := by decide
  have hpending := pending_tasks (Run.fresh.play secondRefused hplayable)
  exact ⟨hplayable, by decide, hpending.2.1 (by decide)⟩

theorem step_runTask_of_not_occupies (run : Run radio fallbackBatch past scanner)
    {booking : Booking} (hmem : booking.toEpisode ∈ past)
    (hleft : ¬ booking.Occupies scanner.single) (around : Surroundings) :
    scanner.step around (.runTask booking.alarm.id) = ⟨none, [], scanner⟩ := by
  cases run.standing hmem with
  | current hoccupies _ _ _ => exact absurd hoccupies hleft
  | ended _ hlive _ _ =>
    rw [Coordinator.step, SingleSession.alarmRings_of_not_live hlive]
    rfl

/-- Every task belongs to one request. When it runs, at whatever time, it does something exactly if
that request occupies the session: it tells the request's listener why the request has failed, and
takes the request and its alarm away. What the driver says of single scans while none is in the
session does nothing either. -/
theorem task_acts_on_own_request (run : Run radio fallbackBatch past scanner) :
    (∀ task ∈ past.tasks, ∃ booking : Booking, booking.toEpisode ∈ past ∧ booking.task = task ∧
        (∀ other : Booking, other.toEpisode ∈ past → other.task.alarm = task.alarm →
          other = booking) ∧
        ∀ around,
          (booking.Occupies scanner.single →
            scanner.step around (.runTask task.alarm) = booking.failedReply scanner) ∧
          (¬ booking.Occupies scanner.single →
            scanner.step around (.runTask task.alarm) = ⟨none, [], scanner⟩)) ∧
      (scanner.single.phase = .idle → ∀ around,
        (∀ reason, scanner.step around (.driverEvent (.scanFailed reason)) =
          ⟨none, [], scanner⟩) ∧
        scanner.step around (.driverEvent .scanResultsAvailable) = ⟨none, [], scanner⟩) := by
  refine ⟨fun task htask ↦ ?_, Coordinator.step_driverEvent_of_idle⟩
  obtain ⟨booking, hmem, rfl⟩ := run.task_booked htask
  refine ⟨booking, hmem, rfl, fun other hother ↦ run.eq_of_alarm hother hmem, fun around ↦ ?_⟩
  refine ⟨fun hoccupies ↦ hoccupies.step_runTask around, fun hleft ↦ ?_⟩
  exact run.step_runTask_of_not_occupies hmem hleft around

theorem task_acts_on_own_request_secondRefused :
    let (past, scanner) := Coordinator.play [] .specimen secondRefused
    Coordinator.Playable [] .specimen secondRefused ∧
      past.tasks.map ScheduledTask.alarm = [⟨1⟩, ⟨2⟩] ∧
      scanner.step (.calm 3) (.runTask ⟨1⟩) = ⟨none, [], scanner⟩ ∧
      scanner.step (.calm 3) (.runTask ⟨2⟩) =
        ⟨none, [.notify ⟨2⟩ (.scan (.failed .busy))],
          { scanner with
            single := { scanner.single with phase := .idle, alarms := ⟨2, []⟩ } }⟩ := by
  have hplayable : Coordinator.Playable [] .specimen secondRefused := by decide
  have hclaim := (task_acts_on_own_request (Run.fresh.play secondRefused hplayable)).1
  have hmem (index : Nat)
      (hindex : index < (Coordinator.play [] .specimen secondRefused).1.length) :=
    List.getElem_mem hindex
  refine ⟨hplayable, by decide, ?_, ?_⟩
  · obtain ⟨booking, _, _, hunique, hacts⟩ :=
      hclaim ⟨⟨1⟩, Deferred.timeoutTag, 15000, ⟨1⟩⟩ (by decide)
    obtain rfl := hunique ⟨_, _, _, rfl, rfl⟩ (hmem 0 (by decide)) rfl
    exact (hacts (.calm 3)).2 fun hoccupies ↦ absurd hoccupies.phase_eq (by decide)
  · obtain ⟨booking, _, _, hunique, hacts⟩ :=
      hclaim ⟨⟨2⟩, Deferred.failureTag, 0, ⟨2⟩⟩ (by decide)
    obtain rfl := hunique ⟨_, _, _, rfl, rfl⟩ (hmem 2 (by decide)) rfl
    exact (hacts (.calm 3)).1 ⟨rfl, rfl⟩

end Run

end RadioScan
