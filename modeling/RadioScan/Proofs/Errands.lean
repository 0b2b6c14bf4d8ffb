import RadioScan.Proofs.Calls

/-!
What the driver is asked about offloaded scans. Each episode makes at most one such call, and
`Episode.KeepsDiscipline` says which: it starts what the caller asks for if nothing runs, fetches
the results announced for what runs, and stops whenever a request is withdrawn or the scanner is
cleaned up. So a scan that the driver has started is stopped, or has failed, before the next one is
started (`Run.offload_calls_disciplined`).
-/

set_option autoImplicit false
set_option relaxedAutoImplicit false

namespace RadioScan

/-- The episode has the radio stop: a request is withdrawn, or the scanner is cleaned up. -/
def Episode.StopsOffload (episode : Episode) : Prop :=
  episode.action = .resetOffload ∧ episode.reply.rejection = none ∨ episode.action = .cleanup

instance (episode : Episode) : Decidable episode.StopsOffload :=
  inferInstanceAs (Decidable (episode.action = .resetOffload ∧ episode.reply.rejection = none ∨
    episode.action = .cleanup))

/-- What the episode asks of the driver about offloaded scans, given whether one runs at its
beginning. -/
structure Episode.KeepsDiscipline (episode : Episode) (searching : Prop) : Prop where
  start_iff : ∀ request, .startOffload request ∈ episode.calls ↔
    (∃ listener, episode.action = .startOffload request listener) ∧ ¬ searching ∧
      request.connected = false ∧ episode.around.backgroundScanning = true
  fetch_iff : .fetchOffloadResults ∈ episode.calls ↔
    episode.action = .driverEvent .offloadResultsAvailable ∧ searching
  stop_iff : .stopOffload ∈ episode.calls ↔ episode.StopsOffload
  one_call : (episode.calls.filter DriverCall.isOffload).length ≤ 1
  idle_of_stop : .stopOffload ∈ episode.calls → episode.reply.next.offload.networks? = none

/-- Offloaded scans are ended by what has the radio stop, and by a failure that the driver
reports. -/
theorem Episode.endsOffload_iff {episode : Episode} :
    episode.endsOffload = true ↔
      episode.StopsOffload ∨ episode.action = .driverEvent .offloadFailed := by
  rw [endsOffload, StopsOffload]
  cases episode.action with
  | driverEvent event => cases event <;> simp
  | _ => simp

/-- Everything that the driver has been asked. -/
def History.calls (past : History) : List DriverCall := past.flatMap Episode.calls

/-! ### One episode -/

namespace Episode

variable (episode : Episode)

theorem length_offloadCalls_le : episode.offloadCalls.length ≤ 1 := by
  rw [offloadCalls, OffloadSession.callsIn_turn]
  split
  · split <;> simp
  · split <;> simp
  · split <;> simp
  · simp
  · simp

/-- What the session of offloaded scans asks of the driver in an episode. -/
theorem mem_offloadCalls {call : DriverCall} :
    call ∈ episode.offloadCalls ↔
      (∃ request listener, call = .startOffload request ∧
        episode.action = .startOffload request listener ∧
          episode.scanner.offload.active = none ∧
            episode.around.requiresOffload request.connected = true) ∨
      (call = .fetchOffloadResults ∧ episode.action = .driverEvent .offloadResultsAvailable ∧
        episode.scanner.offload.active ≠ none) ∨
      (call = .stopOffload ∧ episode.StopsOffload) := by
  rw [offloadCalls, OffloadSession.callsIn_turn, StopsOffload]
  cases haction : episode.action with
  | startOffload request listener =>
    dsimp only
    constructor
    · intro hcall
      split at hcall
      · next hstarts =>
        exact Or.inl ⟨request, listener, List.mem_singleton.mp hcall, rfl, hstarts⟩
      · cases hcall
    · rintro (⟨other, _, rfl, hsame, hstarts⟩ | ⟨-, hother, -⟩ | ⟨-, ⟨hother, -⟩ | hother⟩)
      · obtain ⟨rfl, -⟩ := Action.startOffload.inj hsame
        rw [if_pos hstarts]
        exact List.mem_singleton_self _
      · cases hother
      · cases hother
      · cases hother
  | resetOffload =>
    rw [reply, haction, Coordinator.rejection_resetOffload]
    by_cases hactive : episode.scanner.offload.active = none <;> simp [hactive]
  | driverEvent event =>
    cases event with
    | offloadResultsAvailable =>
      by_cases hactive : episode.scanner.offload.active = none <;> simp [hactive]
    | _ => simp
  | _ => simp

theorem startOffload_mem_offloadCalls {request : OffloadRequest} :
    .startOffload request ∈ episode.offloadCalls ↔
      (∃ listener, episode.action = .startOffload request listener) ∧
        episode.scanner.offload.active = none ∧
          episode.around.requiresOffload request.connected = true := by
  simp [mem_offloadCalls]

/-- What has the radio stop leaves nothing running, whether or not the driver obeys. -/
theorem active_next_of_stops (hstops : episode.StopsOffload) :
    episode.reply.next.offload.active = none :=
  active_next_of_ends (endsOffload_iff.mpr (Or.inl hstops))

end Episode

theorem Episode.KeepsDiscipline.count_stopOffload {episode : Episode} {searching : Prop}
    (hkeeps : episode.KeepsDiscipline searching) :
    episode.calls.count .stopOffload = if episode.StopsOffload then 1 else 0 := by
  have hle : episode.calls.count .stopOffload ≤ 1 :=
    calc episode.calls.count .stopOffload
        = (episode.calls.filter DriverCall.isOffload).count .stopOffload :=
          (List.count_filter rfl).symm
      _ ≤ (episode.calls.filter DriverCall.isOffload).length := List.count_le_length
      _ ≤ 1 := hkeeps.one_call
  by_cases hstops : episode.StopsOffload
  · have hpos := List.count_pos_iff.mpr (hkeeps.stop_iff.mpr hstops)
    rw [if_pos hstops]
    exact Nat.le_antisymm hle hpos
  · rw [if_neg hstops]
    exact List.count_eq_zero.mpr fun hcall ↦ hstops (hkeeps.stop_iff.mp hcall)

/-! ### Runs -/

namespace Run

variable {radio : Radio} {fallbackBatch : Nat} {past : History} {scanner : Coordinator}

theorem keepsDiscipline (run : Run radio fallbackBatch past scanner) {earlier later : History}
    {episode : Episode} (hpast : past = earlier ++ episode :: later) :
    episode.KeepsDiscipline earlier.Searching := by
  have hmem : episode ∈ past := by simp [hpast]
  have hsearching := (run.before hpast).1.searching_iff
  have hstop : .stopOffload ∈ episode.calls ↔ episode.StopsOffload := by
    rw [run.mem_calls_of_offload hmem rfl, episode.mem_offloadCalls]
    simp
  refine ⟨fun request ↦ ?_, ?_, hstop, ?_, fun hcall ↦ ?_⟩
  · rw [run.mem_calls_of_offload hmem rfl, episode.startOffload_mem_offloadCalls, hsearching]
    simp [Surroundings.requiresOffload]
  · rw [run.mem_calls_of_offload hmem rfl, episode.mem_offloadCalls, hsearching]
    simp
  · rw [run.filter_isOffload_calls hmem]
    exact episode.length_offloadCalls_le
  · rw [OffloadSession.networks?, episode.active_next_of_stops (hstop.mp hcall)]
    rfl

theorem count_stopOffload (run : Run radio fallbackBatch past scanner) :
    past.calls.count .stopOffload = past.countP fun episode ↦ episode.StopsOffload := by
  induction run with
  | fresh => rfl
  | @snoc past scanner around action run hpossible ih =>
    have hlast := ((run.snoc hpossible).keepsDiscipline rfl).count_stopOffload
    rw [History.calls, List.flatMap_append, List.count_append, List.flatMap_singleton, hlast,
      List.countP_append, List.countP_singleton, ← ih]
    simp [History.calls]

/-- A request that the driver is asked to start is accepted. -/
theorem exists_lookout_of_start (run : Run radio fallbackBatch past scanner)
    {earlier later : History} {episode : Episode} {request : OffloadRequest}
    (hpast : past = earlier ++ episode :: later) (hstart : .startOffload request ∈ episode.calls) :
    ∃ lookout : Lookout, lookout.toEpisode = episode := by
  have hmem : episode ∈ past := by simp [hpast]
  obtain ⟨⟨listener, haction⟩, hidle, hrequired⟩ := episode.startOffload_mem_offloadCalls.mp
    ((run.mem_calls_of_offload hmem rfl).mp hstart)
  exact ⟨⟨episode, request, listener, haction,
    Episode.accepted_of_idle haction hidle hrequired⟩, rfl⟩

/-- Between two starts, what the driver took on at the first is stopped or fails. -/
theorem ended_between_starts (run : Run radio fallbackBatch past scanner)
    {earlier middle later : History} {first second : Episode} {request next : OffloadRequest}
    (hpast : past = earlier ++ first :: middle ++ second :: later)
    (hfirst : .startOffload request ∈ first.calls) (htaken : first.around.offloadRefusal = none)
    (hsecond : .startOffload next ∈ second.calls) :
    ∃ episode ∈ middle,
      .stopOffload ∈ episode.calls ∨ episode.action = .driverEvent .offloadFailed := by
  have hsplit : past = earlier ++ first :: (middle ++ second :: later) := by simp [hpast]
  obtain ⟨lookout, rfl⟩ := run.exists_lookout_of_start hsplit hfirst
  -- The second start finds nothing running, so the first request has not run through `middle`.
  obtain ⟨-, hidle, -⟩ := ((run.keepsDiscipline hpast).start_iff next).mp hsecond
  have hover : ¬ lookout.RunsIn middle := fun hruns ↦
    hidle ⟨lookout, earlier, middle, rfl, hruns⟩
  have hends : ∃ episode ∈ middle, episode.endsOffload = true := by
    simpa [Lookout.RunsIn, htaken] using hover
  obtain ⟨episode, hmem, hends⟩ := hends
  refine ⟨episode, hmem, (Episode.endsOffload_iff.mp hends).imp_left fun hstops ↦ ?_⟩
  obtain ⟨before, after, rfl⟩ := List.append_of_mem hmem
  have hepisode : past = earlier ++ lookout.toEpisode :: before ++
      episode :: (after ++ second :: later) := by simp [hpast]
  exact (run.keepsDiscipline hepisode).stop_iff.mpr hstops

/-- In every episode the driver is asked about offloaded scans only as it should be. Once it has
started one, it is asked to start another only after it was asked to stop or reported a failure. It
is asked to stop once for each request that is withdrawn and once for each cleanup. -/
theorem offload_calls_disciplined (run : Run radio fallbackBatch past scanner) :
    (∀ (earlier later : History) (episode : Episode), past = earlier ++ episode :: later →
      episode.KeepsDiscipline earlier.Searching) ∧
    (∀ (earlier middle later : History) (first second : Episode) (request next : OffloadRequest),
      past = earlier ++ first :: middle ++ second :: later →
        .startOffload request ∈ first.calls → first.around.offloadRefusal = none →
          .startOffload next ∈ second.calls →
            ∃ episode ∈ middle,
              .stopOffload ∈ episode.calls ∨ episode.action = .driverEvent .offloadFailed) ∧
    past.calls.count .stopOffload = past.countP fun episode ↦ episode.StopsOffload :=
  ⟨fun _ _ _ hpast ↦ run.keepsDiscipline hpast,
    fun _ _ _ _ _ _ _ hpast ↦ run.ended_between_starts hpast,
    run.count_stopOffload⟩

/-- A request to look for any network without a connection. -/
def forAnyNetwork : OffloadRequest := ⟨false, 20000, -80, -80, -80, []⟩

/-- The radio is not to look for networks at first, then the driver refuses to, then it looks for
them until it is asked to stop, which it refuses, and after that until a cleanup. -/
def stopRefused : List (Surroundings × Action) :=
  [({ Surroundings.calm 1 with backgroundScanning := false }, .startOffload forAnyNetwork ⟨1⟩),
    ({ Surroundings.calm 1 with offloadRefusal := some .busy }, .startOffload forAnyNetwork ⟨2⟩),
    (.calm 1, .startOffload forAnyNetwork ⟨3⟩),
    ({ Surroundings.calm 1 with backgroundScanning := false },
      .driverEvent .offloadResultsAvailable),
    ({ Surroundings.calm 1 with stopRefusal := some .busy }, .resetOffload),
    (.calm 1, .startOffload forAnyNetwork ⟨4⟩),
    (.calm 1, .cleanup)]

theorem offload_calls_disciplined_stopRefused :
    let (past, scanner) := Coordinator.play [] .specimen stopRefused
    Run Coordinator.specimen.radio 16 past scanner ∧
      past.map Episode.calls = [[], [.startOffload forAnyNetwork], [.startOffload forAnyNetwork],
        [.fetchOffloadResults], [.stopOffload], [.startOffload forAnyNetwork], [.stopOffload]] ∧
      (∃ episode ∈ (past.drop 3).take 2,
        .stopOffload ∈ episode.calls ∨ episode.action = .driverEvent .offloadFailed) ∧
      (past.take 5).getLast?.map (fun episode ↦ episode.reply.next.offload.networks?) =
        some none ∧
      past.calls.count .stopOffload = 2 := by
  have hrun : Run Coordinator.specimen.radio 16 _ _ := Run.fresh.play stopRefused (by decide)
  obtain ⟨hkeeps, hbetween, hcount⟩ := offload_calls_disciplined hrun
  let past := (Coordinator.play [] .specimen stopRefused).1
  have hended := hbetween (past.take 2) ((past.drop 3).take 2) (past.drop 6) past[2] past[5]
    forAnyNetwork forAnyNetwork rfl (by decide) rfl (by decide)
  have hidle := (hkeeps (past.take 4) (past.drop 5) past[4] rfl).idle_of_stop (by decide)
  exact ⟨hrun, by decide, hended, congrArg some hidle, hcount.trans (by decide)⟩

end Run

end RadioScan
