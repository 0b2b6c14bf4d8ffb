import RadioScan.Proofs.Outcome

/-!
Who is told of results. Results that the driver announces end whatever request occupies the
session, so a listener is told of results rightly only if the driver took its request. The request
that is there may also be one that the driver refused, or was never asked about, and whose failure
has yet to be reported. A run is `Honest` exactly when no announcement of the driver meets such a
request (`Run.honest_iff`).
-/

set_option autoImplicit false
set_option relaxedAutoImplicit false

namespace RadioScan

/-- The notice tells of the results of a single scan. -/
def Notice.announces : Notice → Bool
  | .scan .resultsAvailable => true
  | .scan (.fullResults _ _) => true
  | .scan (.failed _) => false
  | .offload _ => false

/-- The session holds a request that the driver did not take. -/
def Phase.isRefused : Phase → Bool
  | .refused _ _ => true
  | _ => false

namespace Booking

variable {booking : Booking}

/-- A request that occupies the session was taken unless it is there as one that was refused. -/
theorem Occupies.taken_iff {session : SingleSession} (hoccupies : booking.Occupies session) :
    booking.Taken ↔ session.phase.isRefused = false := by
  rw [Booking.taken_iff, hoccupies.phase_eq]
  cases booking.refusal? <;> simp [Phase.ofRefusal, Phase.isRefused]

end Booking

/-! ### Where announcements come from -/

theorem OffloadSession.Passage.announces_eq_false {session : OffloadSession} {radio : Radio}
    {around : Surroundings} {action : Action} {turn : Turn OffloadSession} {listener : ListenerId}
    {notice : Notice} (hpassage : session.Passage radio around action turn)
    (hnotice : notice ∈ noticesTo listener turn.effects) : notice.announces = false := by
  cases hpassage with
  | kept => cases hnotice
  | started _ _ _ => cases hnotice
  | refused _ _ _ =>
    obtain ⟨_, rfl⟩ : listener = _ ∧ notice = .offload .failed := by
      simpa [noticesTo, Effect.noticeTo?, Radio.call, eq_comm] using hnotice
    rfl
  | withdrawn _ => cases hnotice
  | @found scan _ =>
    obtain ⟨_, rfl⟩ : listener = scan.listener ∧ notice = .offload (.networkFound _) := by
      simpa [noticesTo, Effect.noticeTo?, Radio.call, eq_comm] using hnotice
    rfl
  | @failed scan _ =>
    obtain ⟨_, rfl⟩ : listener = scan.listener ∧ notice = .offload .failed := by
      simpa [noticesTo, Effect.noticeTo?, eq_comm] using hnotice
    rfl
  | cleaned => cases hnotice

namespace SingleSession.Passage

variable {session : SingleSession} {radio : Radio} {around : Surroundings} {action : Action}
variable {turn : Turn SingleSession} {listener : ListenerId} {notice : Notice}

/-- Results are announced to the listener of the current request, and only when the driver
announces them. -/
theorem exists_serves_of_announces (hpassage : session.Passage radio around action turn)
    (hnotice : notice ∈ noticesTo listener turn.effects) (hannounces : notice.announces) :
    action = .driverEvent .scanResultsAvailable ∧
      ∃ scan alarm, session.Serves scan alarm ∧ scan.listener = listener := by
  have hlistener : session.listener? = some listener := by
    by_cases hlistener : session.listener? = some listener
    · exact hlistener
    · rw [hpassage.noticesTo_eq_nil hlistener] at hnotice
      cases hnotice
  cases hpassage with
  | kept _ _ => cases hnotice
  | begun _ _ =>
    rw [noticesTo_begun] at hnotice
    cases hnotice
  | rung hserves =>
    obtain rfl := Option.some.inj (hserves.listener?_eq.symm.trans hlistener)
    rw [noticesTo_cons_tell_self] at hnotice
    obtain rfl := List.mem_singleton.mp hnotice
    cases hannounces
  | failed hserves _ _ =>
    obtain rfl := Option.some.inj (hserves.listener?_eq.symm.trans hlistener)
    rw [noticesTo_cons_scheduler, noticesTo_cons_tell_self] at hnotice
    obtain rfl := List.mem_singleton.mp hnotice
    cases hannounces
  | delivered hserves =>
    have hsame := Option.some.inj (hserves.listener?_eq.symm.trans hlistener)
    exact ⟨rfl, _, _, hserves, hsame⟩

/-- The presented results are replaced for the current request, and only when the driver announces
results. -/
theorem exists_serves_of_latest_ne (hpassage : session.Passage radio around action turn)
    (hlatest : turn.next.latest ≠ session.latest) :
    action = .driverEvent .scanResultsAvailable ∧ ∃ scan alarm, session.Serves scan alarm := by
  cases hpassage with
  | kept _ _ => exact absurd rfl hlatest
  | begun _ _ => exact absurd rfl hlatest
  | rung _ => exact absurd rfl hlatest
  | failed _ _ _ => exact absurd rfl hlatest
  | delivered hserves => exact ⟨rfl, _, _, hserves⟩

end SingleSession.Passage

theorem History.mem_heardBy {past : History} {listener : ListenerId} {notice : Notice} :
    notice ∈ past.heardBy listener ↔
      ∃ episode ∈ past, notice ∈ noticesTo listener episode.effects := by
  rw [heardBy, noticesTo, effects, List.filterMap_flatMap, List.mem_flatMap]
  rfl

/-- An announcement of the driver tells whoever is in the session of results. -/
theorem Booking.Occupies.resultsAvailable_mem_heardBy {past : History} {booking : Booking}
    {episode : Episode} (hoccupies : booking.Occupies episode.scanner.single)
    (hmem : episode ∈ past) (haction : episode.action = .driverEvent .scanResultsAvailable) :
    .scan .resultsAvailable ∈ past.heardBy booking.listener := by
  refine History.mem_heardBy.mpr ⟨episode, hmem, ?_⟩
  have hheard := SingleSession.noticesTo_delivered_self episode.scanner.single
    episode.scanner.radio episode.around booking.scan booking.alarm
  rw [Episode.effects_eq, noticesTo_append, haction, SingleSession.turn, hoccupies.serves.deliver]
  refine List.mem_append_left _ (hheard ▸ ?_)
  simp [ActiveScan.resultNotices]

/-! ### Honest runs -/

/-- Nobody is told of results, and none are presented, but for a request that the driver took; the
listener of any other accepted request is told of nothing but a failure. -/
structure Honest (past : History) : Prop where
  announced : ∀ listener, ∀ notice ∈ past.heardBy listener, notice.announces →
    ∃ booking : Booking, booking.toEpisode ∈ past ∧ booking.listener = listener ∧ booking.Taken
  presented : ∀ episode ∈ past,
    episode.reply.next.single.latest ≠ episode.scanner.single.latest →
      ∃ booking : Booking, booking.toEpisode ∈ past ∧
        booking.Occupies episode.scanner.single ∧ booking.Taken
  failed : ∀ booking : Booking, booking.toEpisode ∈ past → ¬ booking.Taken →
    past.heardBy booking.listener = [] ∨
      ∃ reason, past.heardBy booking.listener = [.scan (.failed reason)]

/-- The driver announces no results while a request that it did not take is in the session. -/
def Timely (past : History) : Prop :=
  ∀ episode ∈ past, episode.action = .driverEvent .scanResultsAvailable →
    episode.scanner.single.phase.isRefused = false

instance (past : History) : Decidable (Timely past) :=
  inferInstanceAs (Decidable (∀ episode ∈ past,
    episode.action = .driverEvent .scanResultsAvailable →
      episode.scanner.single.phase.isRefused = false))

namespace Run

variable {radio : Radio} {fallbackBatch : Nat} {past : History} {scanner : Coordinator}

/-- The request that an episode of a run found in the session was accepted in that run. -/
theorem exists_occupies (run : Run radio fallbackBatch past scanner) {episode : Episode}
    (hmem : episode ∈ past) {scan : ActiveScan} {alarm : Alarm Deferred}
    (hserves : episode.scanner.single.Serves scan alarm) :
    ∃ booking : Booking, booking.toEpisode ∈ past ∧ booking.Occupies episode.scanner.single ∧
      booking.scan = scan := by
  obtain ⟨earlier, later, rfl, hrun, _⟩ := run.split hmem
  obtain ⟨booking, hbooking, hoccupies, hscan, _⟩ := hrun.booking_of_serves hserves
  exact ⟨booking, List.mem_append_left _ hbooking, hoccupies, hscan⟩

/-- Whoever is told of results is told on an announcement of the driver, as the listener of the
request that then is in the session. -/
theorem exists_occupies_of_announces (run : Run radio fallbackBatch past scanner)
    {listener : ListenerId} {notice : Notice} (hnotice : notice ∈ past.heardBy listener)
    (hannounces : notice.announces) :
    ∃ episode ∈ past, episode.action = .driverEvent .scanResultsAvailable ∧
      ∃ booking : Booking, booking.toEpisode ∈ past ∧ booking.listener = listener ∧
        booking.Occupies episode.scanner.single := by
  obtain ⟨episode, hmem, hnotice⟩ := History.mem_heardBy.mp hnotice
  rw [Episode.effects_eq, noticesTo_append] at hnotice
  rcases List.mem_append.mp hnotice with hsingle | hoffload
  · obtain ⟨haction, scan, alarm, hserves, hlistener⟩ :=
      (run.passage_of_mem hmem).exists_serves_of_announces hsingle hannounces
    obtain ⟨booking, hbooking, hoccupies, hscan⟩ := run.exists_occupies hmem hserves
    refine ⟨episode, hmem, haction, booking, hbooking, ?_, hoccupies⟩
    rw [← hlistener, ← hscan]
    rfl
  · have hsilent := (episode.scanner.offload.turn_passage episode.action).announces_eq_false
      hoffload
    rw [hannounces] at hsilent
    cases hsilent

theorem failed_of_not_announced (run : Run radio fallbackBatch past scanner) {booking : Booking}
    (hmem : booking.toEpisode ∈ past)
    (hsilent : ∀ notice ∈ past.heardBy booking.listener, notice.announces = false) :
    past.heardBy booking.listener = [] ∨
      ∃ reason, past.heardBy booking.listener = [.scan (.failed reason)] := by
  rcases run.eq_nil_or_concluded hmem with hnil | hfailed | ⟨results, hresults⟩
  · exact Or.inl hnil
  · exact Or.inr hfailed
  · have hlast := hsilent (.scan .resultsAvailable) (hresults ▸ by simp)
    cases hlast

theorem exists_taken_of_announces (run : Run radio fallbackBatch past scanner)
    (htimely : Timely past) {listener : ListenerId} {notice : Notice}
    (hnotice : notice ∈ past.heardBy listener) (hannounces : notice.announces) :
    ∃ booking : Booking, booking.toEpisode ∈ past ∧ booking.listener = listener ∧
      booking.Taken := by
  obtain ⟨episode, hmem, haction, booking, hbooking, hlistener, hoccupies⟩ :=
    run.exists_occupies_of_announces hnotice hannounces
  have hnotRefused := htimely episode hmem haction
  exact ⟨booking, hbooking, hlistener, hoccupies.taken_iff.mpr hnotRefused⟩

theorem honest_of_timely (run : Run radio fallbackBatch past scanner) (htimely : Timely past) :
    Honest past := by
  refine ⟨fun listener notice ↦ run.exists_taken_of_announces htimely,
    fun episode hmem hlatest ↦ ?_, fun booking hmem hrefused ↦ ?_⟩
  · rw [Episode.reply, Coordinator.single_next_step] at hlatest
    obtain ⟨haction, scan, alarm, hserves⟩ :=
      (run.passage_of_mem hmem).exists_serves_of_latest_ne hlatest
    obtain ⟨booking, hbooking, hoccupies, _⟩ := run.exists_occupies hmem hserves
    exact ⟨booking, hbooking, hoccupies,
      hoccupies.taken_iff.mpr (htimely episode hmem haction)⟩
  · refine run.failed_of_not_announced hmem fun notice hnotice ↦ ?_
    by_cases hannounces : notice.announces
    · obtain ⟨other, hother, hlistener, htaken⟩ :=
        run.exists_taken_of_announces htimely hnotice hannounces
      obtain rfl := run.booking_eq_of_listener hother hmem hlistener
      exact absurd htaken hrefused
    · simpa using hannounces

/-- Honesty already fails where one announcement meets a request that the driver did not take. -/
theorem timely_of_honest (run : Run radio fallbackBatch past scanner) (hhonest : Honest past) :
    Timely past := by
  intro episode hmem haction
  obtain ⟨earlier, later, rfl, hrun, _⟩ := run.split hmem
  rcases hrun.vacant_or_occupied with hvacant | ⟨booking, hbooking, hoccupies⟩
  · rw [hvacant.phase_eq]
    rfl
  · have hheard := hoccupies.resultsAvailable_mem_heardBy hmem haction
    obtain ⟨other, hother, hlistener, htaken⟩ :=
      hhonest.announced booking.listener (.scan .resultsAvailable) hheard rfl
    obtain rfl := run.booking_eq_of_listener hother (List.mem_append_left _ hbooking) hlistener
    exact hoccupies.taken_iff.mp htaken

/-- The runs in which nobody is told of results on behalf of a request that the driver did not take
are those in which no announcement comes while such a request is in the session. -/
theorem honest_iff (run : Run radio fallbackBatch past scanner) : Honest past ↔ Timely past :=
  ⟨run.timely_of_honest, run.honest_of_timely⟩

/-- One request is taken by the driver and ends with results, the next one is refused and told so
before the driver announces results again. -/
def refusalReported : List (Surroundings × Action) :=
  [(.calm 1, .startScan (.ofChannel 2412 0#32) ⟨1⟩),
    (.calm 2, .driverEvent .scanResultsAvailable),
    ({ Surroundings.calm 2 with scanRefusal := some .busy },
      .startScan (.ofChannel 2412 0#32) ⟨2⟩),
    (.calm 3, .runTask ⟨2⟩),
    (.calm 3, .driverEvent .scanResultsAvailable)]

theorem honest_iff_refusalReported :
    let (past, _) := Coordinator.play [] .specimen refusalReported
    Coordinator.Playable [] .specimen refusalReported ∧ Timely past ∧ Honest past := by
  have hplayable : Coordinator.Playable [] .specimen refusalReported := by decide
  have htimely : Timely (Coordinator.play [] .specimen refusalReported).1 := by decide
  have hiff := honest_iff (Run.fresh.play refusalReported hplayable)
  exact ⟨hplayable, htimely, hiff.mpr htimely⟩

/-- The driver refuses a request for a whole band, and announces results before its listener has
been told of the refusal. -/
def earlyAnnouncement : List (Surroundings × Action) :=
  [({ Surroundings.calm 1 with scanRefusal := some .busy },
      .startScan { ScanRequest.ofChannel 2412 0#32 with
        buckets := [⟨Band.ghz2.mask, [], 0#32⟩] } ⟨1⟩),
    (.calm 2, .driverEvent .scanResultsAvailable)]

/-- The listener of a refused request is told of results, and results are presented as its own. -/
theorem not_honest_earlyAnnouncement :
    let (past, scanner) := Coordinator.play [] .specimen earlyAnnouncement
    Coordinator.Playable [] .specimen earlyAnnouncement ∧
      past.heardBy ⟨1⟩ = [.scan .resultsAvailable] ∧
      scanner.single.latest.scannedBands = Band.ghz2.mask ∧
      ¬ Honest past := by
  have hplayable : Coordinator.Playable [] .specimen earlyAnnouncement := by decide
  refine ⟨hplayable, by decide, by decide, fun hhonest ↦ ?_⟩
  have htimely := (Run.fresh.play earlyAnnouncement hplayable).timely_of_honest hhonest
  exact absurd htimely (by decide)

end Run

end RadioScan
