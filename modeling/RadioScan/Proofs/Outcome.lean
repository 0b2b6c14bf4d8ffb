import RadioScan.Proofs.Standing

/-!
The outcome of a request for a single scan. A listener is told nothing as long as its request
occupies the session, one outcome when the request leaves it, and nothing after that; a listener
whose request was turned down is told nothing at all (`Run.told_one_outcome`).
-/

set_option autoImplicit false
set_option relaxedAutoImplicit false

namespace RadioScan

/-- An outcome is complete. No notice can follow it, so that there is an outcome again. -/
theorem Concluded.eq_nil_of_append {wantsFullResults : Bool} {heard more : List Notice}
    (hheard : Concluded wantsFullResults heard)
    (hmore : Concluded wantsFullResults (heard ++ more)) : more = [] := by
  rcases hheard with ⟨reason, rfl⟩ | ⟨results, rfl⟩
  · rcases hmore with ⟨_, heq⟩ | ⟨_, heq⟩
    · exact (List.cons.inj heq).2
    · by_cases hfull : wantsFullResults <;> simp [hfull] at heq
  · rcases hmore with ⟨_, heq⟩ | ⟨_, heq⟩
    · by_cases hfull : wantsFullResults <;> simp [hfull] at heq
    · by_cases hfull : wantsFullResults
      · simpa [hfull] using congrArg (List.drop 2) heq
      · simpa [hfull] using heq

theorem History.heardBy_append (past later : History) (listener : ListenerId) :
    heardBy (past ++ later) listener = past.heardBy listener ++ later.heardBy listener := by
  simp [heardBy, noticesTo, effects]

namespace Run

variable {radio : Radio} {fallbackBatch : Nat} {past : History} {scanner : Coordinator}

/-- A request that has not ended occupies the session, and the other way round. -/
theorem heardBy_eq_nil_iff (run : Run radio fallbackBatch past scanner) {booking : Booking}
    (hmem : booking.toEpisode ∈ past) :
    past.heardBy booking.listener = [] ↔ booking.Occupies scanner.single := by
  constructor
  · intro hnil
    cases run.standing hmem with
    | current hoccupies _ _ _ => exact hoccupies
    | ended _ _ hheard _ => exact absurd hnil hheard.ne_nil
  · intro hoccupies
    cases run.standing hmem with
    | current _ hheard _ _ => exact hheard
    | ended hlistener _ _ _ => exact absurd hoccupies.listener?_eq hlistener

theorem eq_nil_or_concluded (run : Run radio fallbackBatch past scanner) {booking : Booking}
    (hmem : booking.toEpisode ∈ past) :
    past.heardBy booking.listener = [] ∨
      Concluded booking.scan.wantsFullResults (past.heardBy booking.listener) := by
  cases run.standing hmem with
  | current _ hheard _ _ => exact Or.inl hheard
  | ended _ _ hheard _ => exact Or.inr hheard

/-- Nothing follows an outcome, however long the run goes on. -/
theorem heardBy_append_of_ne_nil (run : Run radio fallbackBatch past scanner) {booking : Booking}
    (hmem : booking.toEpisode ∈ past) (hheard : past.heardBy booking.listener ≠ [])
    {later : History} {scanner' : Coordinator}
    (run' : Run radio fallbackBatch (past ++ later) scanner') :
    later.heardBy booking.listener = [] := by
  have hconcluded := (run.eq_nil_or_concluded hmem).resolve_left hheard
  have hlater := (run'.eq_nil_or_concluded (List.mem_append_left _ hmem)).resolve_left fun hnil ↦
    hheard (List.append_eq_nil_iff.mp (History.heardBy_append past later _ ▸ hnil)).1
  rw [History.heardBy_append] at hlater
  exact hconcluded.eq_nil_of_append hlater

theorem heardBy_eq_nil_of_rejected (run : Run radio fallbackBatch past scanner)
    {episode : Episode} (hmem : episode ∈ past) {request : ScanRequest} {listener : ListenerId}
    (haction : episode.action = .startScan request listener)
    (hrejected : episode.reply.rejection ≠ none) : past.heardBy listener = [] := by
  have hlistener : episode.action.listener? = some listener := by
    rw [haction]
    rfl
  exact run.heardBy_eq_nil_of_turned_down hmem hlistener hrejected

/-- The listener of a request that was turned down is never told anything. The listener of one that
was accepted is told nothing as long as that request occupies the session; from then on it has been
told one outcome, to which nothing is added. -/
theorem told_one_outcome (run : Run radio fallbackBatch past scanner) {episode : Episode}
    (hmem : episode ∈ past) {request : ScanRequest} {listener : ListenerId}
    (haction : episode.action = .startScan request listener) :
    (episode.reply.rejection ≠ none → past.heardBy listener = []) ∧
      ∀ haccepted : episode.reply.rejection = none,
        (past.heardBy listener = [] ∨
          Concluded (request.buckets.any Bucket.wantsFullResults) (past.heardBy listener)) ∧
        (past.heardBy listener = [] ↔
          Booking.Occupies ⟨episode, request, listener, haction, haccepted⟩ scanner.single) ∧
        (past.heardBy listener ≠ [] → ∀ later scanner',
          Run radio fallbackBatch (past ++ later) scanner' → later.heardBy listener = []) := by
  refine ⟨run.heardBy_eq_nil_of_rejected hmem haction, fun haccepted ↦ ?_⟩
  let booking : Booking := ⟨episode, request, listener, haction, haccepted⟩
  have hbooking : booking.toEpisode ∈ past := hmem
  refine ⟨run.eq_nil_or_concluded hbooking, run.heardBy_eq_nil_iff hbooking, ?_⟩
  intro hheard later scanner' run'
  exact run.heardBy_append_of_ne_nil hbooking hheard run'

/-- A request fails after another was turned down, and the task of its alarm runs late, during the
next request. -/
def lateTask : List (Surroundings × Action) :=
  [(.calm 1, .startScan (.ofChannel 2412 0#32) ⟨1⟩),
    (.calm 2, .startScan (.ofChannel 2437 0#32) ⟨2⟩),
    (.calm 2, .driverEvent (.scanFailed .aborted)),
    (.calm 2, .startScan (.ofChannel 2437 Bucket.fullResults) ⟨3⟩),
    (.calm 3, .runTask ⟨1⟩),
    (.calm 3, .driverEvent .scanResultsAvailable)]

theorem told_one_outcome_lateTask :
    let (past, _) := Coordinator.play [] .specimen lateTask
    Coordinator.Playable [] .specimen lateTask ∧
      past.heardBy ⟨3⟩ = [.scan (.fullResults [] 0), .scan .resultsAvailable] ∧
      Concluded true (past.heardBy ⟨3⟩) ∧
      ∀ later scanner', Run ⟨"wlan0", .standard⟩ 16 (past ++ later) scanner' →
        later.heardBy ⟨3⟩ = [] := by
  have hplayable : Coordinator.Playable [] .specimen lateTask := by decide
  have hheard : (Coordinator.play [] .specimen lateTask).1.heardBy ⟨3⟩ =
      [.scan (.fullResults [] 0), .scan .resultsAvailable] := by decide
  have hne : (Coordinator.play [] .specimen lateTask).1.heardBy ⟨3⟩ ≠ [] := by simp [hheard]
  have hclaim := told_one_outcome (Run.fresh.play lateTask hplayable)
    (List.getElem_mem (by decide : 3 < (Coordinator.play [] .specimen lateTask).1.length)) rfl
  obtain ⟨hconcluded, _, hlater⟩ := hclaim.2 rfl
  exact ⟨hplayable, hheard, hconcluded.resolve_left hne, hlater hne⟩

end Run

end RadioScan
