import RadioScan.Proofs.Ledger

/-!
How an accepted request stands. It either occupies the session, has been told nothing, and its task
is waiting; or it is over, its listener has been told one outcome, and its task has run or was
dropped. `Booking.Standing` is that alternative, `Standing.next` carries it over one turn, and
`Run.standing` over whole runs.
-/

set_option autoImplicit false
set_option relaxedAutoImplicit false

namespace RadioScan

/-- What the listener of a request has been told when the request has ended: one failure, or the
results, preceded by all of them if it wanted those. -/
def Concluded (wantsFullResults : Bool) (notices : List Notice) : Prop :=
  (∃ reason, notices = [.scan (.failed reason)]) ∨
    ∃ results, notices =
      (if wantsFullResults then [.scan (.fullResults results 0)] else [])
        ++ [.scan .resultsAvailable]

theorem concluded_failed (wantsFullResults : Bool) (reason : Reason) :
    Concluded wantsFullResults [.scan (.failed reason)] :=
  Or.inl ⟨reason, rfl⟩

theorem concluded_resultNotices (scan : ActiveScan) (around : Surroundings) :
    Concluded scan.wantsFullResults ((scan.resultNotices around).map .scan) := by
  refine Or.inr ⟨scan.kept around, ?_⟩
  by_cases hfull : scan.wantsFullResults <;> simp [ActiveScan.resultNotices, hfull]

theorem Concluded.ne_nil {wantsFullResults : Bool} {notices : List Notice}
    (hconcluded : Concluded wantsFullResults notices) : notices ≠ [] := by
  rcases hconcluded with ⟨reason, rfl⟩ | ⟨results, rfl⟩ <;> simp

namespace Booking

variable {booking : Booking} {session : SingleSession} {radio : Radio} {around : Surroundings}
variable {action : Action} {turn : Turn SingleSession} {heard : List Notice}
variable {ran : List AlarmId} {dropped : List TaskHandle}

/-- How an accepted request stands, given the session, what its listener has heard, and which tasks
have run and were dropped. -/
inductive Standing (booking : Booking) (session : SingleSession) (heard : List Notice)
    (ran : List AlarmId) (dropped : List TaskHandle) : Prop
  | current (hoccupies : booking.Occupies session) (hheard : heard = [])
      (hran : booking.alarm.id ∉ ran) (hdropped : booking.alarm.task ∉ dropped)
  | ended (hlistener : session.listener? ≠ some booking.listener)
      (hlive : ∀ alarm ∈ session.alarms.live, alarm.id ≠ booking.alarm.id)
      (hheard : Concluded booking.scan.wantsFullResults heard)
      (hgone : booking.alarm.id ∈ ran ∨ booking.alarm.task ∈ dropped)

/-- Nothing of a request is left in a vacant session. -/
theorem Standing.of_vacant (hvacant : session.Vacant)
    (hheard : Concluded booking.scan.wantsFullResults heard)
    (hgone : booking.alarm.id ∈ ran ∨ booking.alarm.task ∈ dropped) :
    booking.Standing session heard ran dropped := by
  refine .ended ?_ ?_ hheard hgone
  · simp [SingleSession.listener?, hvacant.phase_eq, Phase.occupant?]
  · simp [hvacant.live_eq]

/-- Being told of a failure is an outcome. -/
theorem concluded_tell (booking : Booking) (reason : Reason) :
    Concluded booking.scan.wantsFullResults
      (noticesTo booking.listener [booking.scan.tell (.failed reason)]) := by
  have hheard : noticesTo booking.scan.listener [booking.scan.tell (.failed reason)] =
      [.scan (.failed reason)] := noticesTo_cons_tell_self _ _
  exact hheard ▸ concluded_failed _ reason

/-- A request that occupies the session goes on doing so, or ends with one outcome. -/
theorem Occupies.next (hoccupies : booking.Occupies session)
    (hpassage : session.Passage radio around action turn) (hran : booking.alarm.id ∉ ran)
    (hdropped : booking.alarm.task ∉ dropped) :
    booking.Standing turn.next (noticesTo booking.listener turn.effects)
      (ran ++ action.task?.toList) (dropped ++ turn.effects.filterMap Effect.dropped?) := by
  cases hpassage with
  | kept rotation hquiet =>
    refine .current ⟨hoccupies.phase_eq, hoccupies.live_eq⟩ rfl ?_ (by simpa using hdropped)
    have haction : booking.alarm.id ∉ action.task?.toList := by
      intro htask
      cases action with
      | runTask id =>
        obtain rfl := List.mem_singleton.mp htask
        exact hquiet _ _ hoccupies.serves rfl
      | _ => cases htask
    exact fun hmem ↦ (List.mem_append.mp hmem).elim hran haction
  | begun hvacant _ => exact absurd hoccupies.serves hvacant.not_serves
  | rung hserves =>
    obtain ⟨rfl, rfl⟩ := hoccupies.serves.unique hserves
    exact .of_vacant ⟨rfl, rfl⟩ (booking.concluded_tell _) (Or.inl (by simp [Action.task?]))
  | failed hserves reason _ =>
    obtain ⟨rfl, rfl⟩ := hoccupies.serves.unique hserves
    exact .of_vacant ⟨rfl, rfl⟩ (booking.concluded_tell reason)
      (Or.inr (by simp [Effect.dropped?]))
  | delivered hserves =>
    obtain ⟨rfl, rfl⟩ := hoccupies.serves.unique hserves
    have hheard := SingleSession.noticesTo_delivered_self session radio around booking.scan
      booking.alarm
    exact .of_vacant ⟨rfl, rfl⟩ (hheard ▸ concluded_resultNotices _ _) (Or.inr (by simp))

/-- How a request stands after a turn. A later request has a listener and an alarm of its own. -/
theorem Standing.next (hstanding : booking.Standing session heard ran dropped)
    (hpassage : session.Passage radio around action turn)
    (hissued : booking.alarm.id.number ≤ session.alarms.issued)
    (hlistener : action.listener? ≠ some booking.listener) :
    booking.Standing turn.next (heard ++ noticesTo booking.listener turn.effects)
      (ran ++ action.task?.toList) (dropped ++ turn.effects.filterMap Effect.dropped?) := by
  cases hstanding with
  | current hoccupies hheard hran hdropped =>
    rw [hheard, List.nil_append]
    exact hoccupies.next hpassage hran hdropped
  | ended hother hlive hheard hgone =>
    have hgone : booking.alarm.id ∈ ran ++ action.task?.toList ∨
        booking.alarm.task ∈ dropped ++ turn.effects.filterMap Effect.dropped? :=
      hgone.imp (List.mem_append_left _) (List.mem_append_left _)
    rw [hpassage.noticesTo_eq_nil hother, List.append_nil]
    cases hpassage with
    | kept _ _ => exact .ended hother hlive hheard hgone
    | @begun request listener hvacant hfit =>
      refine .ended ?_ ?_ hheard hgone
      · simpa [SingleSession.begun, SingleSession.listener?, ScanRequest.scan,
          Action.listener?] using hlistener
      · intro alarm hmem heq
        simp only [SingleSession.begun, Alarms.schedule, hvacant.live_eq, List.nil_append,
          List.mem_singleton] at hmem
        rw [← heq, hmem, Alarms.nextId] at hissued
        exact Nat.not_succ_le_self _ hissued
    | rung _ => exact .of_vacant ⟨rfl, rfl⟩ hheard hgone
    | failed _ _ _ => exact .of_vacant ⟨rfl, rfl⟩ hheard hgone
    | delivered _ => exact .of_vacant ⟨rfl, rfl⟩ hheard hgone

end Booking

namespace Run

variable {radio : Radio} {fallbackBatch : Nat} {past : History} {scanner : Coordinator}

/-- A request that is being taken on has been told nothing, and its task is new. -/
theorem standing_of_begun {booking : Booking}
    (run : Run radio fallbackBatch past booking.scanner)
    (hpossible : Possible past booking.around booking.action) :
    booking.Standing (booking.scanner.single.begun booking.scanner.radio booking.around
        booking.request booking.listener).next
      (past.heardBy booking.listener) past.ran past.dropped := by
  refine .current (Booking.occupies_begun ?_) ?_ ?_ ?_
  · rcases run.vacant_or_occupied with hvacant | ⟨_, _, hoccupies⟩
    · exact hvacant.live_eq
    · exact absurd booking.idle hoccupies.serves.phase_ne_idle
  · exact run.heardBy_eq_nil_of_new (hpossible.listener_new _ booking.listener?_eq)
  · intro hran
    obtain ⟨task, htask, heq⟩ := List.mem_map.mp (run.ran_scheduled hran)
    obtain ⟨earlier, hmem, rfl⟩ := run.task_booked htask
    have hle := run.number_le_issued hmem
    rw [show earlier.alarm.id = booking.alarm.id from heq, Booking.alarm] at hle
    exact Nat.not_succ_le_self _ hle
  · exact fun hdropped ↦ hpossible.handle_new (run.dropped_scheduled hdropped)

/-- The listener of an accepted request for a single scan came with no other request. -/
theorem ne_startOffload (run : Run radio fallbackBatch past scanner) {booking : Booking}
    (hmem : booking.toEpisode ∈ past) {episode : Episode} (hepisode : episode ∈ past)
    (request : OffloadRequest) : episode.action ≠ .startOffload request booking.listener := by
  intro heq
  have hsame := run.eq_of_listener hepisode hmem (heq ▸ rfl) booking.listener?_eq
  rw [hsame, booking.action_eq] at heq
  cases heq

/-- How each accepted request stands in a run. -/
theorem standing (run : Run radio fallbackBatch past scanner) {booking : Booking}
    (hmem : booking.toEpisode ∈ past) :
    booking.Standing scanner.single (past.heardBy booking.listener) past.ran past.dropped := by
  induction run with
  | fresh => cases hmem
  | @snoc past scanner around action run hpossible ih =>
    have hoffload {episode : Episode} (hepisode : episode ∈ past ++ [⟨scanner, around, action⟩]) :=
      (run.snoc hpossible).ne_startOffload hmem hepisode
    have hsilent : noticesTo booking.listener
        (scanner.offload.turn scanner.radio around action).effects = [] :=
      run.noticesTo_offload
        (fun lookout hlookout heq ↦
          hoffload (List.mem_append_left _ hlookout) lookout.request (heq ▸ lookout.action_eq))
        (hoffload (List.mem_append_right _ (List.mem_singleton_self _)))
    rw [History.heardBy_snoc, History.ran_snoc, History.dropped_snoc,
      Episode.filterMap_dropped?_effects, Episode.effects_eq, noticesTo_append, hsilent,
      List.append_nil, Coordinator.single_next_step]
    rcases List.mem_append.mp hmem with hold | hnew
    · exact (ih hold).next (run.passage around action) (run.number_le_issued hold) fun heq ↦
        hpossible.listener_new _ heq (mem_listeners hold booking.listener?_eq)
    · have hepisode : booking.toEpisode = ⟨scanner, around, action⟩ := List.mem_singleton.mp hnew
      obtain rfl : booking.scanner = scanner := congrArg Episode.scanner hepisode
      obtain rfl : booking.around = around := congrArg Episode.around hepisode
      obtain rfl : booking.action = action := congrArg Episode.action hepisode
      have htask : booking.action.task? = none := by
        rw [booking.action_eq]
        rfl
      simpa [booking.turn_eq, htask] using run.standing_of_begun hpossible

end Run

end RadioScan
