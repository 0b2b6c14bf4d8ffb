import RadioScan.Proofs.Lookout
import RadioScan.Proofs.Notices

/-!
The books of a run. Whatever occupies the session of single scans, is in its registry or is held by
the scheduler goes back to one accepted request of the history: the session is vacant or occupied
by a booking (`Run.vacant_or_occupied`), every task is the task of a booking (`Run.task_booked`),
and no number or handle is given out twice.
-/

set_option autoImplicit false
set_option relaxedAutoImplicit false

namespace RadioScan

/-- An idle session accepts every request that has not too many buckets. -/
theorem Coordinator.accepts_of_idle {scanner : Coordinator} {around : Surroundings}
    {request : ScanRequest} {listener : ListenerId} (hidle : scanner.single.phase = .idle)
    (hfit : request.buckets.length ≤ Capabilities.standard.buckets) :
    (scanner.step around (.startScan request listener)).rejection = none := by
  rw [step, SingleSession.start_of_idle hidle hfit]
  rfl

namespace Booking

variable {booking : Booking} {session : SingleSession}

/-- The booking's request occupies the session, and only its alarm is in the registry. -/
structure Occupies (booking : Booking) (session : SingleSession) : Prop where
  phase_eq : session.phase = .ofRefusal booking.scan booking.alarm.id booking.refusal?
  live_eq : session.alarms.live = [booking.alarm]

theorem Occupies.serves (hoccupies : booking.Occupies session) :
    session.Serves booking.scan booking.alarm := by
  refine ⟨?_, hoccupies.live_eq⟩
  rw [hoccupies.phase_eq, Phase.occupant?_ofRefusal]

theorem Occupies.listener?_eq (hoccupies : booking.Occupies session) :
    session.listener? = some booking.listener :=
  hoccupies.serves.listener?_eq

/-- A request that is taken on occupies the session at once. -/
theorem occupies_begun (hlive : booking.scanner.single.alarms.live = []) :
    booking.Occupies (booking.scanner.single.begun booking.scanner.radio booking.around
      booking.request booking.listener).next := by
  refine ⟨rfl, ?_⟩
  rw [SingleSession.begun, Alarms.schedule, hlive]
  rfl

theorem tasks_eq (booking : Booking) :
    booking.effects.filterMap Effect.task? = [booking.task] := by
  rw [Episode.filterMap_task?_effects, booking.turn_eq, SingleSession.tasks_begun]
  rfl

theorem task_mem_tasks {past : History} (hmem : booking.toEpisode ∈ past) :
    booking.task ∈ past.tasks := by
  rw [History.tasks, History.effects, List.filterMap_flatMap]
  refine List.mem_flatMap.mpr ⟨booking.toEpisode, hmem, ?_⟩
  rw [booking.tasks_eq]
  exact List.mem_singleton_self _

/-! ### Requests that the driver took -/

/-- The driver was asked to scan for the request, and agreed. -/
structure Taken (booking : Booking) : Prop where
  asked : ∃ order, booking.scanner.radio.call (.scan order) ∈ booking.effects
  agreed : booking.around.scanRefusal = none

theorem effects_eq_begun (booking : Booking) :
    booking.effects = (booking.scanner.single.begun booking.scanner.radio booking.around
      booking.request booking.listener).effects := by
  have hoffload : (booking.scanner.offload.turn booking.scanner.radio booking.around
      booking.action).effects = [] := by
    rw [booking.action_eq]
    rfl
  rw [Episode.effects_eq, booking.turn_eq, hoffload, List.append_nil]

/-- The driver is asked to scan for every request that names a channel. -/
theorem exists_scan_mem_effects_iff :
    (∃ order, booking.scanner.radio.call (.scan order) ∈ booking.effects) ↔
      (booking.request.channels booking.scanner.radio).isEmpty = false := by
  rw [effects_eq_begun]
  constructor
  · rintro ⟨order, hmem⟩
    simp [SingleSession.begun, SingleSession.openingCalls, Radio.call] at hmem
    exact hmem.1
  · intro hchannels
    refine ⟨booking.request.order booking.scanner.radio (booking.scanner.single.pickProbes
      booking.request.hidden booking.around.probeLimit).chosen, ?_⟩
    simp [SingleSession.begun, SingleSession.openingCalls, Radio.call, hchannels]

theorem taken_iff : booking.Taken ↔ booking.refusal? = none := by
  rw [refusal?, ScanRequest.refusal?]
  constructor
  · rintro ⟨hasked, hagreed⟩
    rw [exists_scan_mem_effects_iff.mp hasked]
    exact hagreed
  · intro hrefusal
    by_cases hchannels : (booking.request.channels booking.scanner.radio).isEmpty
    · simp [hchannels] at hrefusal
    · rw [if_neg hchannels] at hrefusal
      exact ⟨exists_scan_mem_effects_iff.mpr (by simpa using hchannels), hrefusal⟩

end Booking

namespace Run

variable {radio : Radio} {fallbackBatch : Nat} {past : History} {scanner : Coordinator}

/-! ### The session -/

/-- The session is vacant or occupied by a request that was accepted before. -/
theorem vacant_or_occupied (run : Run radio fallbackBatch past scanner) :
    scanner.single.Vacant ∨
      ∃ booking : Booking, booking.toEpisode ∈ past ∧ booking.Occupies scanner.single := by
  induction run with
  | fresh => exact Or.inl ⟨rfl, rfl⟩
  | @snoc past scanner around action run hpossible ih =>
    have hsound : scanner.single.Sound := ih.imp_right fun ⟨booking, _, hoccupies⟩ ↦
      ⟨_, _, hoccupies.serves⟩
    have hpassage : scanner.single.Passage scanner.radio around action _ :=
      hsound.turn_passage action
    rw [Coordinator.single_next_step]
    generalize scanner.single.turn scanner.radio around action = turn at hpassage
    cases hpassage with
    | kept rotation _ =>
      rcases ih with hvacant | ⟨booking, hmem, hoccupies⟩
      · exact Or.inl ⟨hvacant.phase_eq, hvacant.live_eq⟩
      · exact Or.inr ⟨booking, List.mem_append_left _ hmem, hoccupies.phase_eq,
          hoccupies.live_eq⟩
    | begun hvacant hfit =>
      exact Or.inr ⟨⟨⟨scanner, around, _⟩, _, _, rfl,
          Coordinator.accepts_of_idle hvacant.phase_eq hfit⟩,
        List.mem_append_right _ (List.mem_singleton_self _),
        Booking.occupies_begun hvacant.live_eq⟩
    | rung _ => exact Or.inl ⟨rfl, rfl⟩
    | failed _ _ _ => exact Or.inl ⟨rfl, rfl⟩
    | delivered _ => exact Or.inl ⟨rfl, rfl⟩

theorem sound (run : Run radio fallbackBatch past scanner) : scanner.single.Sound :=
  run.vacant_or_occupied.imp_right fun ⟨_, _, hoccupies⟩ ↦ ⟨_, _, hoccupies.serves⟩

/-- What a step of a run can come to for the session of single scans. -/
theorem passage (run : Run radio fallbackBatch past scanner) (around : Surroundings)
    (action : Action) :
    scanner.single.Passage scanner.radio around action
      (scanner.single.turn scanner.radio around action) :=
  run.sound.turn_passage action

/-- What an episode of a run came to for the session of single scans. -/
theorem passage_of_mem (run : Run radio fallbackBatch past scanner) {episode : Episode}
    (hmem : episode ∈ past) :
    episode.scanner.single.Passage episode.scanner.radio episode.around episode.action
      (episode.scanner.single.turn episode.scanner.radio episode.around episode.action) := by
  obtain ⟨_, _, _, hrun, _⟩ := run.split hmem
  exact hrun.passage episode.around episode.action

/-- The request that a session serves was accepted before. -/
theorem booking_of_serves (run : Run radio fallbackBatch past scanner) {scan : ActiveScan}
    {alarm : Alarm Deferred} (hserves : scanner.single.Serves scan alarm) :
    ∃ booking : Booking, booking.toEpisode ∈ past ∧ booking.Occupies scanner.single ∧
      booking.scan = scan ∧ booking.alarm = alarm := by
  rcases run.vacant_or_occupied with hvacant | ⟨booking, hmem, hoccupies⟩
  · exact absurd hserves hvacant.not_serves
  · exact ⟨booking, hmem, hoccupies, hserves.unique hoccupies.serves⟩

/-! ### Tasks, handles and numbers -/

/-- Every task that the scheduler was given belongs to a request that was accepted. -/
theorem task_booked (run : Run radio fallbackBatch past scanner) {task : ScheduledTask}
    (htask : task ∈ past.tasks) :
    ∃ booking : Booking, booking.toEpisode ∈ past ∧ booking.task = task := by
  induction run with
  | fresh => cases htask
  | @snoc past scanner around action run hpossible ih =>
    rw [History.tasks_snoc, Episode.filterMap_task?_effects] at htask
    rcases List.mem_append.mp htask with hold | hnew
    · obtain ⟨booking, hmem, heq⟩ := ih hold
      exact ⟨booking, List.mem_append_left _ hmem, heq⟩
    · have hpassage := run.passage around action
      dsimp only at hnew
      generalize scanner.single.turn scanner.radio around action = turn at hpassage hnew
      cases hpassage with
      | kept _ _ => cases hnew
      | begun hvacant hfit =>
        rw [SingleSession.tasks_begun, List.mem_singleton] at hnew
        exact ⟨⟨⟨scanner, around, _⟩, _, _, rfl,
          Coordinator.accepts_of_idle hvacant.phase_eq hfit⟩,
          List.mem_append_right _ (List.mem_singleton_self _), hnew.symm⟩
      | rung _ => cases hnew
      | failed _ _ _ => cases hnew
      | delivered _ =>
        rw [SingleSession.tasks_delivered] at hnew
        cases hnew

/-- No booking's alarm has a number that is still to be given out. -/
theorem number_le_issued (run : Run radio fallbackBatch past scanner) {booking : Booking}
    (hmem : booking.toEpisode ∈ past) :
    booking.alarm.id.number ≤ scanner.single.alarms.issued := by
  induction run with
  | fresh => cases hmem
  | @snoc past scanner around action run hpossible ih =>
    rw [Coordinator.single_next_step]
    rcases List.mem_append.mp hmem with hold | hnew
    · exact Nat.le_trans (ih hold) (run.passage around action).issued_le
    · have hepisode : booking.toEpisode = ⟨scanner, around, action⟩ := List.mem_singleton.mp hnew
      have hturn := booking.turn_eq
      rw [hepisode] at hturn
      rw [hturn, Booking.alarm, hepisode]
      exact Nat.le_refl _

theorem ran_scheduled (run : Run radio fallbackBatch past scanner) {alarm : AlarmId}
    (hran : alarm ∈ past.ran) : alarm ∈ past.tasks.map ScheduledTask.alarm := by
  induction run with
  | fresh => cases hran
  | @snoc past scanner around action run hpossible ih =>
    rw [History.ran_snoc] at hran
    rw [History.tasks_snoc, List.map_append]
    refine List.mem_append_left _ ?_
    rcases List.mem_append.mp hran with hold | hnew
    · exact ih hold
    · exact (hpossible.task_waits alarm (Option.mem_toList.mp hnew)).1

/-- Only tasks that the scheduler was given are dropped. -/
theorem dropped_scheduled (run : Run radio fallbackBatch past scanner) {handle : TaskHandle}
    (hdropped : handle ∈ past.dropped) : handle ∈ past.tasks.map ScheduledTask.handle := by
  induction run with
  | fresh => cases hdropped
  | @snoc past scanner around action run hpossible ih =>
    rw [History.dropped_snoc, Episode.filterMap_dropped?_effects] at hdropped
    rw [History.tasks_snoc, List.map_append]
    refine List.mem_append_left _ ?_
    rcases List.mem_append.mp hdropped with hold | hnew
    · exact ih hold
    · obtain ⟨scan, alarm, hserves, rfl⟩ :=
        (run.passage around action).exists_serves_of_mem_dropped hnew
      obtain ⟨booking, hmem, _, _, rfl⟩ := run.booking_of_serves hserves
      exact List.mem_map_of_mem (f := ScheduledTask.handle) (Booking.task_mem_tasks hmem)

/-- An alarm tells which request it was set for. -/
theorem eq_of_alarm (run : Run radio fallbackBatch past scanner) {first second : Booking}
    (hfirst : first.toEpisode ∈ past) (hsecond : second.toEpisode ∈ past)
    (heq : first.alarm.id = second.alarm.id) : first = second := by
  refine Booking.eq_of_toEpisode ?_
  induction run with
  | fresh => cases hfirst
  | @snoc past scanner around action run hpossible ih =>
    -- A booking of the last step has a greater number than those before it.
    have hlast {old new : Booking} (hold : old.toEpisode ∈ past)
        (hnew : new.toEpisode = ⟨scanner, around, action⟩) : old.alarm.id ≠ new.alarm.id := by
      intro hid
      have hle := run.number_le_issued hold
      rw [hid, Booking.alarm, hnew] at hle
      exact Nat.not_succ_le_self _ hle
    rcases List.mem_append.mp hfirst with hfirst | hfirst <;>
      rcases List.mem_append.mp hsecond with hsecond | hsecond
    · exact ih hfirst hsecond
    · exact absurd heq (hlast hfirst (List.mem_singleton.mp hsecond))
    · exact absurd heq.symm (hlast hsecond (List.mem_singleton.mp hfirst))
    · exact (List.mem_singleton.mp hfirst).trans (List.mem_singleton.mp hsecond).symm

/-! ### Listeners -/

/-- A listener that came with no accepted request for a single scan hears nothing of single
scans. -/
theorem noticesTo_single (run : Run radio fallbackBatch past scanner) {listener : ListenerId}
    (hpast : ∀ booking : Booking, booking.toEpisode ∈ past → booking.listener ≠ listener)
    (around : Surroundings) (action : Action) :
    noticesTo listener (scanner.single.turn scanner.radio around action).effects = [] := by
  refine (run.passage around action).noticesTo_eq_nil ?_
  rcases run.vacant_or_occupied with hvacant | ⟨booking, hmem, hoccupies⟩
  · simp [SingleSession.listener?, hvacant.phase_eq, Phase.occupant?]
  · simpa [hoccupies.listener?_eq] using hpast booking hmem

/-- A listener that came with no accepted request for an offloaded scan, and comes with none, hears
nothing of offloaded scans. -/
theorem noticesTo_offload (run : Run radio fallbackBatch past scanner) {around : Surroundings}
    {action : Action} {listener : ListenerId}
    (hpast : ∀ lookout : Lookout, lookout.toEpisode ∈ past → lookout.listener ≠ listener)
    (haction : ∀ request, action ≠ .startOffload request listener) :
    noticesTo listener (scanner.offload.turn scanner.radio around action).effects = [] := by
  refine (scanner.offload.turn_passage action).noticesTo_eq_nil (fun scan hactive ↦ ?_) haction
  obtain ⟨lookout, ⟨earlier, later, rfl, -⟩, rfl⟩ := run.exists_lookout_of_active hactive
  exact hpast lookout (by simp)

/-- A listener that came with no accepted request is told nothing. -/
theorem heardBy_eq_nil (run : Run radio fallbackBatch past scanner) {listener : ListenerId}
    (hbooking : ∀ booking : Booking, booking.toEpisode ∈ past → booking.listener ≠ listener)
    (hlookout : ∀ lookout : Lookout, lookout.toEpisode ∈ past → lookout.listener ≠ listener) :
    past.heardBy listener = [] := by
  induction run with
  | fresh => rfl
  | @snoc past scanner around action run hpossible ih =>
    have hold {episode : Episode} (hmem : episode ∈ past) :
        episode ∈ past ++ [⟨scanner, around, action⟩] := List.mem_append_left _ hmem
    have hbefore := ih (fun booking hmem ↦ hbooking booking (hold hmem)) fun lookout hmem ↦
      hlookout lookout (hold hmem)
    rw [History.heardBy_snoc, hbefore, List.nil_append]
    by_cases haccepted : (scanner.step around action).rejection = none
    · have haction (request : OffloadRequest) : action ≠ .startOffload request listener :=
        fun heq ↦ hlookout ⟨⟨scanner, around, action⟩, request, listener, heq, haccepted⟩
          (List.mem_append_right _ (List.mem_singleton_self _)) rfl
      rw [Episode.effects_eq, noticesTo_append,
        run.noticesTo_single (fun booking hmem ↦ hbooking booking (hold hmem)),
        run.noticesTo_offload (fun lookout hmem ↦ hlookout lookout (hold hmem)) haction]
      rfl
    · have hsilent : Episode.effects ⟨scanner, around, action⟩ = [] :=
        (scanner.step_of_rejected around haccepted).1
      rw [hsilent]
      rfl

/-- A listener is told nothing before its request is made. -/
theorem heardBy_eq_nil_of_new (run : Run radio fallbackBatch past scanner) {listener : ListenerId}
    (hnew : listener ∉ past.listeners) : past.heardBy listener = [] := by
  refine run.heardBy_eq_nil (fun booking hmem heq ↦ ?_) fun lookout hmem heq ↦ ?_
  · exact hnew (mem_listeners hmem (heq ▸ booking.listener?_eq))
  · exact hnew (mem_listeners hmem (heq ▸ lookout.listener?_eq))

/-- The listener of a request that was turned down is told nothing. -/
theorem heardBy_eq_nil_of_turned_down (run : Run radio fallbackBatch past scanner)
    {episode : Episode} (hmem : episode ∈ past) {listener : ListenerId}
    (hlistener : episode.action.listener? = some listener)
    (hrejected : episode.reply.rejection ≠ none) : past.heardBy listener = [] := by
  refine run.heardBy_eq_nil (fun booking hbooking heq ↦ ?_) fun lookout hlookout heq ↦ ?_
  · have hsame := run.eq_of_listener hbooking hmem (heq ▸ booking.listener?_eq) hlistener
    exact hrejected (hsame ▸ booking.accepted)
  · have hsame := run.eq_of_listener hlookout hmem (heq ▸ lookout.listener?_eq) hlistener
    exact hrejected (hsame ▸ lookout.accepted)

end Run

end RadioScan
