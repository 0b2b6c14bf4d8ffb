import RadioScan.Proofs.Results

/-!
What the listener of an offloaded scan is told. As long as its request runs, each announcement of
results brings it those that belong to the request (`Lookout.findings`), and if the driver refuses
the request or reports a failure while it runs, a failure ends the tale (`Lookout.Told`). A reset
and a cleanup end it without a word, and nothing that comes later adds to it (`Run.lookouts_told`).
-/

set_option autoImplicit false
set_option relaxedAutoImplicit false

namespace RadioScan

namespace Lookout

variable (lookout : Lookout)

/-- The driver's results that belong to the request, in the driver's order: those seen no earlier
than the microsecond in which it was made. -/
def share (results : List RawSighting) : List Sighting :=
  (results.map RawSighting.sighting).filter fun sighting ↦
    lookout.around.nanos / 1000 ≤ sighting.timestampMicros

/-- What the listener is told of an episode that the request runs through. -/
def finding? (episode : Episode) : Option Notice :=
  if episode.action = .driverEvent .offloadResultsAvailable then
    some (.offload (.networkFound (lookout.share episode.around.offloadResults)))
  else none

/-- The episodes of `later` that the request runs through. -/
def tenure (later : History) : History :=
  if lookout.around.offloadRefusal = none then
    later.takeWhile fun episode ↦ !episode.endsOffload
  else []

/-- What the listener is told of the episodes of `later` that the request runs through. -/
def findings (later : History) : List Notice := (lookout.tenure later).filterMap lookout.finding?

/-- The driver refused the request, or reported a failure in `later` while it ran. -/
def FailsIn (later : History) : Prop :=
  lookout.around.offloadRefusal ≠ none ∨
    ∃ before episode after, later = before ++ episode :: after ∧ lookout.RunsIn before ∧
      episode.action = .driverEvent .offloadFailed

/-- What the listener has been told after `later`: the findings, and a failure at the end if the
driver failed the request. -/
structure Told (later : History) (notices : List Notice) : Prop where
  of_fails : lookout.FailsIn later → notices = lookout.findings later ++ [.offload .failed]
  of_not_fails : ¬ lookout.FailsIn later → notices = lookout.findings later

variable {lookout} {later : History} {episode : Episode}

theorem kept_scan (lookout : Lookout) (results : List RawSighting) :
    (Screened.ofOffload lookout.scan.startNanos results).kept = lookout.share results :=
  Screened.kept_ofRule _ _

/-! ### While the request runs -/

theorem tenure_append_of_runsIn (hruns : lookout.RunsIn later) (more : History) :
    lookout.tenure (later ++ more) =
      later ++ more.takeWhile fun episode ↦ !episode.endsOffload := by
  rw [tenure, if_pos hruns.1, List.takeWhile_append_of_pos]
  intro episode hmem
  rw [hruns.2 episode hmem]
  rfl

theorem finding?_of_ends (hends : episode.endsOffload = true) :
    lookout.finding? episode = none := by
  rw [finding?, if_neg]
  intro haction
  simp [Episode.endsOffload, haction] at hends

theorem findings_snoc_of_runsIn (hruns : lookout.RunsIn later) :
    lookout.findings (later ++ [episode]) =
      lookout.findings later ++ (lookout.finding? episode).toList := by
  have hbefore : lookout.tenure later = later := by
    simpa using tenure_append_of_runsIn hruns []
  rw [findings, findings, tenure_append_of_runsIn hruns, hbefore, List.filterMap_append]
  congr 1
  cases hends : episode.endsOffload with
  | true => simp [hends, finding?_of_ends hends]
  | false => cases hfinding : lookout.finding? episode <;> simp [hends, hfinding]

theorem not_failsIn_of_runsIn (hruns : lookout.RunsIn later) : ¬ lookout.FailsIn later := by
  rintro (hrefused | ⟨before, episode, after, rfl, -, haction⟩)
  · exact hrefused hruns.1
  · have hends := hruns.2 episode (by simp)
    simp [Episode.endsOffload, haction] at hends

theorem failsIn_snoc :
    lookout.FailsIn (later ++ [episode]) ↔
      lookout.FailsIn later ∨
        lookout.RunsIn later ∧ episode.action = .driverEvent .offloadFailed := by
  constructor
  · rintro (hrefused | ⟨before, failure, after, hlater, hruns, haction⟩)
    · exact Or.inl (Or.inl hrefused)
    · rcases History.split_snoc hlater with ⟨-, rfl, rfl⟩ | ⟨rest, -, hsplit⟩
      · exact Or.inr ⟨hruns, haction⟩
      · exact Or.inl (Or.inr ⟨before, failure, rest, hsplit, hruns, haction⟩)
  · rintro ((hrefused | ⟨before, failure, after, rfl, hruns, haction⟩) | ⟨hruns, haction⟩)
    · exact Or.inl hrefused
    · exact Or.inr ⟨before, failure, after ++ [episode], by simp, hruns, haction⟩
    · exact Or.inr ⟨later, episode, [], rfl, hruns, haction⟩

/-- What the listener is told of an episode in which the request runs. -/
theorem noticesTo_of_active (hactive : episode.scanner.offload.active = some lookout.scan) :
    noticesTo lookout.listener (episode.scanner.offload.turn episode.scanner.radio episode.around
        episode.action).effects =
      (lookout.finding? episode).toList ++
        if episode.action = .driverEvent .offloadFailed then [.offload .failed] else [] := by
  have hlistener : lookout.scan.listener = lookout.listener := rfl
  rw [OffloadSession.turn_of_active hactive, kept_scan, hlistener, finding?]
  cases episode.action with
  | driverEvent event => cases event <;> simp
  | _ => simp

/-- What the listener is told of the request itself: that the driver refused it, if it did. -/
theorem noticesTo_turn (lookout : Lookout) :
    noticesTo lookout.listener (lookout.scanner.offload.turn lookout.scanner.radio lookout.around
        lookout.action).effects =
      if lookout.around.offloadRefusal = none then [] else [.offload .failed] := by
  obtain ⟨hidle, hrequired⟩ := lookout.idle_and_required
  rw [OffloadSession.turn_of_idle hidle, lookout.action_eq]
  simp only [if_pos hrequired]
  split <;> simp

theorem told_nil (lookout : Lookout) :
    lookout.Told [] (if lookout.around.offloadRefusal = none then [] else [.offload .failed]) := by
  have hfindings : lookout.findings [] = [] := by simp [findings, tenure]
  by_cases htaken : lookout.around.offloadRefusal = none
  · have hunfailed := not_failsIn_of_runsIn (runsIn_nil.mpr htaken)
    rw [if_pos htaken]
    exact ⟨fun hfailed ↦ absurd hfailed hunfailed, fun _ ↦ hfindings.symm⟩
  · rw [if_neg htaken]
    exact ⟨fun _ ↦ by rw [hfindings]; rfl, fun hunfailed ↦ absurd (Or.inl htaken) hunfailed⟩

theorem Told.snoc_of_runsIn {heard : List Notice} (htold : lookout.Told later heard)
    (hruns : lookout.RunsIn later) :
    lookout.Told (later ++ [episode]) (heard ++ ((lookout.finding? episode).toList ++
      if episode.action = .driverEvent .offloadFailed then [.offload .failed] else [])) := by
  have hheard := htold.of_not_fails (not_failsIn_of_runsIn hruns)
  have hfails : lookout.FailsIn (later ++ [episode]) ↔
      episode.action = .driverEvent .offloadFailed := by
    rw [failsIn_snoc, or_iff_right (not_failsIn_of_runsIn hruns), and_iff_right hruns]
  constructor
  · intro hfailed
    rw [if_pos (hfails.mp hfailed), hheard, findings_snoc_of_runsIn hruns, List.append_assoc]
  · intro hunfailed
    rw [if_neg fun haction ↦ hunfailed (hfails.mpr haction), hheard,
      findings_snoc_of_runsIn hruns, List.append_nil]

/-! ### When the request has ended -/

theorem findings_append_of_not_runsIn (hover : ¬ lookout.RunsIn later) (more : History) :
    lookout.findings (later ++ more) = lookout.findings later := by
  rw [findings, findings, tenure, tenure]
  by_cases htaken : lookout.around.offloadRefusal = none
  · rw [if_pos htaken, if_pos htaken, List.takeWhile_append, if_neg]
    -- If nothing were cut off, no episode of `later` would have ended the request.
    intro hlength
    have hwhole := (List.takeWhile_prefix _).eq_of_length hlength
    have hall := List.all_takeWhile (p := fun episode : Episode ↦ !episode.endsOffload) (l := later)
    rw [hwhole, List.all_eq_true] at hall
    exact hover ⟨htaken, fun episode hmem ↦ by simpa using hall episode hmem⟩
  · rw [if_neg htaken, if_neg htaken]

theorem Told.snoc_of_not_runsIn {heard : List Notice} (htold : lookout.Told later heard)
    (hover : ¬ lookout.RunsIn later) : lookout.Told (later ++ [episode]) heard := by
  have hfails : lookout.FailsIn (later ++ [episode]) ↔ lookout.FailsIn later := by
    rw [failsIn_snoc]
    exact or_iff_left fun hruns ↦ hover hruns.1
  have hfindings := findings_append_of_not_runsIn hover [episode]
  constructor
  · intro hfailed
    rw [hfindings]
    exact htold.of_fails (hfails.mp hfailed)
  · intro hunfailed
    rw [hfindings]
    exact htold.of_not_fails fun hfailed ↦ hunfailed (hfails.mpr hfailed)

end Lookout

/-! ### Runs -/

namespace Run

variable {radio : Radio} {fallbackBatch : Nat} {past : History} {scanner : Coordinator}

/-- The listener of an accepted request for an offloaded scan hears nothing of single scans. -/
theorem noticesTo_single_of_lookout (run : Run radio fallbackBatch past scanner)
    {lookout : Lookout} (hmem : lookout.toEpisode ∈ past) (around : Surroundings)
    (action : Action) :
    noticesTo lookout.listener (scanner.single.turn scanner.radio around action).effects = [] := by
  refine run.noticesTo_single (fun booking hbooking heq ↦ ?_) around action
  have hsame := run.eq_of_listener hbooking hmem booking.listener?_eq
    (heq ▸ lookout.listener?_eq)
  have haction := booking.action_eq
  rw [hsame, lookout.action_eq] at haction
  cases haction

/-- Nothing is told on behalf of a request that has ended. -/
theorem noticesTo_of_not_runsIn (run : Run radio fallbackBatch past scanner)
    {around : Surroundings} {action : Action} (hpossible : Possible past around action)
    {lookout : Lookout} {earlier later : History}
    (hpast : past = earlier ++ lookout.toEpisode :: later) (hover : ¬ lookout.RunsIn later) :
    noticesTo lookout.listener (Episode.effects ⟨scanner, around, action⟩) = [] := by
  have hmem : lookout.toEpisode ∈ past := by simp [hpast]
  have haction (request : OffloadRequest) : action ≠ .startOffload request lookout.listener :=
    fun heq ↦ hpossible.listener_new lookout.listener (by rw [heq]; rfl)
      (mem_listeners hmem lookout.listener?_eq)
  rw [Episode.effects_eq, noticesTo_append, run.noticesTo_single_of_lookout hmem]
  cases run.lookout_standing hpast with
  | running hruns _ => exact absurd hruns hover
  | ended _ hlistener =>
    exact (scanner.offload.turn_passage action).noticesTo_eq_nil hlistener haction

/-- What a listener has been told when its request has just been accepted. -/
theorem told_of_accepted {lookout : Lookout} (run : Run radio fallbackBatch past lookout.scanner)
    (hpossible : Possible past lookout.around lookout.action) :
    lookout.Told []
      (past.heardBy lookout.listener ++ noticesTo lookout.listener lookout.effects) := by
  have hnew := hpossible.listener_new _ lookout.listener?_eq
  have hsingle := run.noticesTo_single (fun booking hmem (heq : _ = lookout.listener) ↦
    hnew (mem_listeners hmem (heq ▸ booking.listener?_eq))) lookout.around lookout.action
  rw [run.heardBy_eq_nil_of_new hnew, Episode.effects_eq, noticesTo_append, hsingle,
    lookout.noticesTo_turn]
  exact lookout.told_nil

/-- What the listener of each accepted request for an offloaded scan has been told. -/
theorem lookout_told (run : Run radio fallbackBatch past scanner) {lookout : Lookout}
    {earlier later : History} (hpast : past = earlier ++ lookout.toEpisode :: later) :
    lookout.Told later (past.heardBy lookout.listener) := by
  induction run generalizing later with
  | fresh => cases earlier <;> cases hpast
  | @snoc past scanner around action run hpossible ih =>
    rw [History.heardBy_snoc]
    rcases History.split_snoc hpast with ⟨rfl, -, hlast⟩ | ⟨rest, rfl, hsplit⟩
    · rw [hlast]
      obtain rfl : scanner = lookout.scanner := congrArg Episode.scanner hlast
      obtain rfl : around = lookout.around := congrArg Episode.around hlast
      obtain rfl : action = lookout.action := congrArg Episode.action hlast
      exact run.told_of_accepted hpossible
    · have htold := ih hsplit
      cases run.lookout_standing hsplit with
      | running hruns hactive =>
        have hmem : lookout.toEpisode ∈ past := by simp [hsplit]
        rw [Episode.effects_eq, noticesTo_append, run.noticesTo_single_of_lookout hmem,
          List.nil_append, Lookout.noticesTo_of_active hactive]
        exact htold.snoc_of_runsIn hruns
      | ended hover _ =>
        rw [run.noticesTo_of_not_runsIn hpossible hsplit hover, List.append_nil]
        exact htold.snoc_of_not_runsIn hover

/-- Nothing is added to what the listener has been told when its request ended. -/
theorem heardBy_after_lookout (run : Run radio fallbackBatch past scanner) {lookout : Lookout}
    {earlier later more : History} (hpast : past = earlier ++ lookout.toEpisode :: (later ++ more))
    (hover : ¬ lookout.RunsIn later) : more.heardBy lookout.listener = [] := by
  rw [History.heardBy, noticesTo, History.effects, List.filterMap_flatMap,
    List.flatMap_eq_nil_iff]
  intro episode hmem
  obtain ⟨first, rest, rfl⟩ := List.append_of_mem hmem
  have hsplit : past = earlier ++ lookout.toEpisode :: (later ++ first) ++ episode :: rest := by
    simp [hpast]
  obtain ⟨hrun, hpossible⟩ := run.before hsplit
  exact hrun.noticesTo_of_not_runsIn hpossible rfl fun hruns ↦
    hover ⟨hruns.1, fun other hother ↦ hruns.2 other (List.mem_append_left _ hother)⟩

theorem networks?_eq_some_iff (run : Run radio fallbackBatch past scanner)
    {networks : List OffloadNetwork} :
    scanner.offload.networks? = some networks ↔
      ∃ lookout : Lookout, lookout.Runs past ∧ lookout.request.networks = networks := by
  rw [OffloadSession.networks?, Option.map_eq_some_iff]
  constructor
  · rintro ⟨scan, hactive, rfl⟩
    obtain ⟨lookout, hruns, rfl⟩ := run.active_eq_some_iff.mp hactive
    exact ⟨lookout, hruns, rfl⟩
  · rintro ⟨lookout, hruns, rfl⟩
    exact ⟨lookout.scan, run.active_eq_some_iff.mpr ⟨lookout, hruns, rfl⟩, rfl⟩

/-- The listener of a request for an offloaded scan that was turned down is never told anything. The
listener of one that was accepted is told, for each announcement of results while the request runs,
which of them belong to it, and a failure after that if the driver fails the request; once the
request no longer runs, nothing is added to that. The networks that are looked for are at all times
those of the request that runs. -/
theorem lookouts_told (run : Run radio fallbackBatch past scanner) :
    (∀ episode ∈ past, ∀ request listener, episode.action = .startOffload request listener →
      episode.reply.rejection ≠ none → past.heardBy listener = []) ∧
    (∀ (lookout : Lookout) (earlier later : History),
      past = earlier ++ lookout.toEpisode :: later →
        lookout.Told later (past.heardBy lookout.listener)) ∧
    (∀ (lookout : Lookout) (earlier later more : History),
      past = earlier ++ lookout.toEpisode :: (later ++ more) → ¬ lookout.RunsIn later →
        more.heardBy lookout.listener = []) ∧
    ∀ networks, scanner.offload.networks? = some networks ↔
      ∃ lookout : Lookout, lookout.Runs past ∧ lookout.request.networks = networks := by
  refine ⟨?_, fun _ _ _ hpast ↦ run.lookout_told hpast,
    fun _ _ _ _ hpast ↦ run.heardBy_after_lookout hpast, fun _ ↦ run.networks?_eq_some_iff⟩
  intro episode hmem request listener haction
  have hlistener : episode.action.listener? = some listener := by
    rw [haction]
    rfl
  exact run.heardBy_eq_nil_of_turned_down hmem hlistener

/-- A request to look for one network. -/
def forNetwork (connected : Bool) : OffloadRequest :=
  ⟨connected, 20000, -80, -80, -80, [⟨[1], 0, 0, [2412]⟩]⟩

/-- The driver has found what is given. -/
def finding (results : List RawSighting) : Surroundings × Action :=
  ({ Surroundings.calm 1 with offloadResults := results }, .driverEvent .offloadResultsAvailable)

/-- One request is turned down, the driver fails the next one, and the third runs. Results come in
while the second and the third run, and once in between. -/
def failedBetween : List (Surroundings × Action) :=
  [(.calm 1, .startOffload (forNetwork true) ⟨1⟩),
    ({ Surroundings.calm 1 with nanos := 5999 }, .startOffload (forNetwork false) ⟨2⟩),
    finding [sighted 2412 4, sighted 2437 5],
    (.calm 1, .driverEvent .offloadFailed),
    finding [sighted 2437 9],
    ({ Surroundings.calm 1 with nanos := 8000 }, .startOffload (forNetwork false) ⟨3⟩),
    finding [sighted 2437 8, sighted 2412 7]]

theorem lookouts_told_failedBetween :
    let (past, scanner) := Coordinator.play [] .specimen failedBetween
    Run Coordinator.specimen.radio 16 past scanner ∧ past.heardBy ⟨1⟩ = [] ∧
      past.heardBy ⟨2⟩ =
        [.offload (.networkFound [(sighted 2437 5).sighting]), .offload .failed] ∧
      History.heardBy (past.drop 4) ⟨2⟩ = [] ∧
      past.heardBy ⟨3⟩ = [.offload (.networkFound [(sighted 2437 8).sighting])] ∧
      scanner.offload.networks? = some (forNetwork false).networks := by
  have hrun : Run Coordinator.specimen.radio 16 _ _ := Run.fresh.play failedBetween (by decide)
  obtain ⟨hturnedDown, htold, hover, hnetworks⟩ := lookouts_told hrun
  let past := (Coordinator.play [] .specimen failedBetween).1
  let second : Lookout := ⟨past[1], forNetwork false, ⟨2⟩, rfl, rfl⟩
  let third : Lookout := ⟨past[5], forNetwork false, ⟨3⟩, rfl, rfl⟩
  have hfirst := hturnedDown past[0] (List.getElem_mem _) _ _ rfl (by decide)
  have hsecond := (htold second (past.take 1) (past.drop 2) rfl).of_fails
    (Or.inr ⟨[past[2]], past[3], past.drop 4, rfl, by decide, rfl⟩)
  have hsilent := hover second (past.take 1) [past[2], past[3]] (past.drop 4) rfl (by decide)
  have hlooking := (hnetworks _).mpr ⟨third, ⟨past.take 5, past.drop 6, rfl, by decide⟩, rfl⟩
  have hthird := (htold third (past.take 5) (past.drop 6) rfl).of_not_fails
    (Lookout.not_failsIn_of_runsIn (by decide))
  exact ⟨hrun, hfirst, hsecond, hsilent, hthird, hlooking⟩

end Run

end RadioScan
