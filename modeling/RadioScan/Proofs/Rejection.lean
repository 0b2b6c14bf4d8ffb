import RadioScan.Proofs.Offloading
import RadioScan.Proofs.Run

/-!
Requests that are turned down. For each kind of request the reasons are checked in a fixed order,
and where one applies the session is still as it was and nothing has been done outwardly
(`SingleSession.start_of_rejected`, `OffloadSession.start_of_rejected`,
`OffloadSession.reset_of_rejected`; for the scanner `Coordinator.step_of_rejected`). A run is
therefore also a run without such requests, with the same effects and the same scanner in the end
(`Run.accepted`), and `Run.rejections` says when each kind of request is turned down.
-/

set_option autoImplicit false
set_option relaxedAutoImplicit false

namespace RadioScan

/-! ### One request -/

/-- The session is looked at first: not even the rotation has moved when a request is turned
down. -/
theorem SingleSession.start_of_rejected (session : SingleSession) (radio : Radio)
    (around : Surroundings) {request : ScanRequest} {listener : ListenerId}
    (hrejected : (session.start radio around request listener).rejection ≠ none) :
    (session.start radio around request listener).effects = [] ∧
      (session.start radio around request listener).next = session := by
  by_cases hbusy : session.phase ≠ .idle
  · rw [start, if_pos hbusy]
    exact ⟨rfl, rfl⟩
  · by_cases hmany : Capabilities.standard.buckets < request.buckets.length
    · rw [start, if_neg hbusy, if_pos hmany]
      exact ⟨rfl, rfl⟩
    · rw [start_of_idle (Decidable.not_not.mp hbusy) (Nat.le_of_not_lt hmany)] at hrejected
      exact absurd rfl hrejected

namespace OffloadSession

variable (session : OffloadSession) (radio : Radio)

theorem start_of_rejected (around : Surroundings) {request : OffloadRequest}
    {listener : ListenerId}
    (hrejected : (session.start radio around request listener).rejection ≠ none) :
    (session.start radio around request listener).effects = [] ∧
      (session.start radio around request listener).next = session := by
  by_cases hactive : session.active.isSome = true
  · rw [start, if_pos hactive]
    exact ⟨rfl, rfl⟩
  · by_cases hneedless : (!around.requiresOffload request.connected) = true
    · rw [start, if_neg hactive, if_pos hneedless]
      exact ⟨rfl, rfl⟩
    · rw [start, if_neg hactive, if_neg hneedless] at hrejected
      exact absurd rfl hrejected

/-- The session has been emptied when the request is turned down, but there was nothing in it. -/
theorem reset_of_rejected (hrejected : (session.reset radio).rejection ≠ none) :
    (session.reset radio).effects = [] ∧ (session.reset radio).next = session := by
  cases hactive : session.active with
  | none =>
    rw [reset_of_idle hactive]
    exact ⟨rfl, rfl⟩
  | some scan =>
    rw [reset, if_neg (by simp [hactive])] at hrejected
    exact absurd rfl hrejected

end OffloadSession

namespace Coordinator

variable (scanner : Coordinator) (around : Surroundings)

/-- A request that is turned down does nothing and leaves the scanner as it was: each session's
requests do. -/
theorem step_of_rejected {action : Action}
    (hrejected : (scanner.step around action).rejection ≠ none) :
    (scanner.step around action).effects = [] ∧
      (scanner.step around action).next = scanner := by
  cases action with
  | startScan request listener =>
    obtain ⟨hsilent, hkept⟩ := scanner.single.start_of_rejected scanner.radio around hrejected
    exact ⟨hsilent, by rw [step, Reply.map, hkept]⟩
  | startBatchedScan request listener => exact ⟨rfl, rfl⟩
  | startOffload request listener =>
    obtain ⟨hsilent, hkept⟩ := scanner.offload.start_of_rejected scanner.radio around hrejected
    exact ⟨hsilent, by rw [step, Reply.map, hkept]⟩
  | resetOffload =>
    obtain ⟨hsilent, hkept⟩ := scanner.offload.reset_of_rejected scanner.radio hrejected
    exact ⟨hsilent, by rw [step, Reply.map, hkept]⟩
  | driverEvent event => exact absurd rfl hrejected
  | runTask alarm => exact absurd rfl hrejected
  | cleanup => exact absurd rfl hrejected

/-- A single scan is turned down while another occupies the session, and then for its size. -/
theorem rejection_startScan (request : ScanRequest) (listener : ListenerId) :
    (scanner.step around (.startScan request listener)).rejection =
      if scanner.single.phase ≠ .idle then some .scanInProgress
      else if 16 < request.buckets.length then some .tooManyBuckets
      else none := by
  have hlimit : Capabilities.standard.buckets = 16 := rfl
  rw [step, SingleSession.start, hlimit]
  by_cases hbusy : scanner.single.phase ≠ .idle
  · rw [if_pos hbusy, if_pos hbusy]
    rfl
  · rw [if_neg hbusy, if_neg hbusy]
    by_cases hmany : 16 < request.buckets.length
    · rw [if_pos hmany, if_pos hmany]
      rfl
    · rw [if_neg hmany, if_neg hmany]
      rfl

/-- An offloaded scan is turned down while another runs, and then if the radio is not to look for
networks by itself. What the driver answers does not matter. -/
theorem rejection_startOffload (request : OffloadRequest) (listener : ListenerId) :
    (scanner.step around (.startOffload request listener)).rejection =
      if scanner.offload.active ≠ none then some .offloadInProgress
      else if request.connected = true ∨ around.backgroundScanning = false then
        some (.offloadNotRequired request.connected)
      else none := by
  rw [step, OffloadSession.start, Surroundings.requiresOffload]
  by_cases hactive : scanner.offload.active = none
  · rw [if_neg (by simp [hactive]), if_neg (not_not_intro hactive)]
    by_cases hrequired : request.connected = true ∨ around.backgroundScanning = false
    · rw [if_pos (by simpa [or_comm] using hrequired), if_pos hrequired]
      rfl
    · rw [if_neg (by simpa [or_comm] using hrequired), if_neg hrequired]
      rfl
  · rw [if_pos (Option.isSome_iff_ne_none.mpr hactive), if_pos hactive]
    rfl

theorem rejection_resetOffload :
    (scanner.step around .resetOffload).rejection =
      if scanner.offload.active = none then some .noOffloadRunning else none := by
  rw [step, OffloadSession.reset]
  by_cases hactive : scanner.offload.active = none
  · rw [if_pos (Option.isNone_iff_eq_none.mpr hactive), if_pos hactive]
    rfl
  · rw [if_neg (by simpa using hactive), if_neg hactive]
    rfl

end Coordinator

/-! ### Runs -/

/-- What has happened, without the requests that were turned down. -/
def History.accepted (past : History) : History :=
  past.filter fun episode ↦ episode.reply.rejection.isNone

namespace History

variable (past : History) (episode : Episode)

theorem accepted_snoc_of_accepted (haccepted : episode.reply.rejection = none) :
    accepted (past ++ [episode]) = past.accepted ++ [episode] := by
  simp [accepted, haccepted]

theorem accepted_snoc_of_rejected (hrejected : episode.reply.rejection ≠ none) :
    accepted (past ++ [episode]) = past.accepted := by
  simpa [accepted] using hrejected

theorem effects_accepted : past.accepted.effects = past.effects := by
  induction past with
  | nil => rfl
  | cons episode rest ih =>
    simp only [accepted, effects] at ih
    by_cases haccepted : episode.reply.rejection = none
    · simp [accepted, effects, haccepted, ih]
    · have hsilent : episode.effects = [] :=
        (episode.scanner.step_of_rejected episode.around haccepted).1
      simp [accepted, effects, haccepted, hsilent, ih]

end History

/-- What is possible after a history was already possible without the requests turned down. -/
theorem Possible.accepted {past : History} {around : Surroundings} {action : Action}
    (hpossible : Possible past around action) : Possible past.accepted around action := by
  have htasks : past.accepted.tasks = past.tasks := by
    rw [History.tasks, History.tasks, past.effects_accepted]
  have hsub : past.accepted.Sublist past := List.filter_sublist
  refine ⟨fun listener hlistener hmem ↦ ?_, ?_, fun alarm halarm ↦ ⟨?_, fun hran ↦ ?_⟩⟩
  · exact hpossible.listener_new listener hlistener ((hsub.filterMap _).subset hmem)
  · rw [htasks]
    exact hpossible.handle_new
  · rw [htasks]
    exact (hpossible.task_waits alarm halarm).1
  · exact (hpossible.task_waits alarm halarm).2 ((hsub.filterMap _).subset hran)

namespace Run

variable {radio : Radio} {fallbackBatch : Nat} {past : History} {scanner : Coordinator}

/-- A scanner cannot be told from one that never received the requests that were turned down. -/
theorem accepted (run : Run radio fallbackBatch past scanner) :
    Run radio fallbackBatch past.accepted scanner := by
  induction run with
  | fresh => exact .fresh
  | @snoc past scanner around action run hpossible ih =>
    by_cases haccepted : (scanner.step around action).rejection = none
    · rw [History.accepted_snoc_of_accepted past ⟨scanner, around, action⟩ haccepted]
      exact ih.snoc hpossible.accepted
    · rw [History.accepted_snoc_of_rejected past ⟨scanner, around, action⟩ haccepted,
        (scanner.step_of_rejected around haccepted).2]
      exact ih

/-- Each kind of request is turned down for the reasons given here, checked in this order, and in no
other case. One that is turned down does nothing and leaves the scanner as it was, so that the
whole run could have gone without it. -/
theorem rejections (run : Run radio fallbackBatch past scanner) :
    (∀ around,
      (∀ request listener, (scanner.step around (.startScan request listener)).rejection =
        if scanner.single.phase ≠ .idle then some .scanInProgress
        else if 16 < request.buckets.length then some .tooManyBuckets
        else none) ∧
      (∀ request listener, (scanner.step around (.startOffload request listener)).rejection =
        if scanner.offload.active ≠ none then some .offloadInProgress
        else if request.connected = true ∨ around.backgroundScanning = false then
          some (.offloadNotRequired request.connected)
        else none) ∧
      ((scanner.step around .resetOffload).rejection =
        if scanner.offload.active = none then some .noOffloadRunning else none) ∧
      (∀ request listener, (scanner.step around (.startBatchedScan request listener)).rejection =
        some .batchedScanUnsupported) ∧
      ∀ action, (scanner.step around action).rejection ≠ none →
        (scanner.step around action).effects = [] ∧
          (scanner.step around action).next = scanner) ∧
    Run radio fallbackBatch past.accepted scanner ∧ past.accepted.effects = past.effects := by
  refine ⟨fun around ↦ ⟨?_, ?_, ?_, ?_, ?_⟩, run.accepted, past.effects_accepted⟩
  · exact scanner.rejection_startScan around
  · exact scanner.rejection_startOffload around
  · exact scanner.rejection_resetOffload around
  · intro request listener
    rfl
  · intro action hrejected
    exact scanner.step_of_rejected around hrejected

/-- While a request that names hidden networks is in the session and networks are looked for, each
kind of request is turned down once; the next request for a single scan then is too large. -/
def turnedDown : List (Surroundings × Action) :=
  [({ Surroundings.calm 1 with probeLimit := 2 },
      .startScan { ScanRequest.ofChannel 2412 0#32 with hidden := some [[1], [2]] } ⟨1⟩),
    (.calm 2, .resetOffload),
    (.calm 2, .startOffload ⟨false, 0, 0, 0, 0, []⟩ ⟨2⟩),
    (.calm 2, .startScan { ScanRequest.ofChannel 2437 0#32 with hidden := some [[1], [2]] } ⟨3⟩),
    (.calm 2, .startOffload ⟨true, 0, 0, 0, 0, []⟩ ⟨4⟩),
    (.calm 2, .startBatchedScan (.ofChannel 2437 0#32) ⟨5⟩),
    (.calm 2, .driverEvent .scanResultsAvailable)]

/-- The rotation still stands where the one accepted request left it. -/
theorem rejections_turnedDown :
    let (past, scanner) := Coordinator.play [] .specimen turnedDown
    let large := { ScanRequest.ofChannel 2412 0#32 with buckets := List.replicate 17 ⟨0, [], 0⟩ }
    Coordinator.Playable [] .specimen turnedDown ∧ past.length = 7 ∧ past.accepted.length = 3 ∧
      scanner.single.rotation = ⟨16, some 1, 1⟩ ∧
      (scanner.step (.calm 2) (.startScan large ⟨6⟩)).rejection = some .tooManyBuckets ∧
      (scanner.step (.calm 2) (.startScan large ⟨6⟩)).effects = [] ∧
      Run ⟨"wlan0", .standard⟩ 16 past.accepted scanner := by
  have hplayable : Coordinator.Playable [] .specimen turnedDown := by decide
  have hclaim := rejections (Run.fresh.play turnedDown hplayable)
  obtain ⟨hscan, _, _, _, hquiet⟩ := hclaim.1 (.calm 2)
  have hlarge := hscan
    { ScanRequest.ofChannel 2412 0#32 with buckets := List.replicate 17 ⟨0, [], 0⟩ } ⟨6⟩
  rw [if_neg (by decide), if_pos (by decide)] at hlarge
  refine ⟨hplayable, by decide, by decide, by decide, hlarge, ?_, hclaim.2.1⟩
  exact (hquiet _ (by rw [hlarge]; simp)).1

end Run

end RadioScan
