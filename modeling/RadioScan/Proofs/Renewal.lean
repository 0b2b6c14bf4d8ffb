import RadioScan.Proofs.Mirror

/-!
A cleanup makes a scanner as good as new. Whatever happens to it from then on, it does what a fresh
scanner does, apart from the names of alarms and tasks, and tasks from before the cleanup do
nothing. It goes on showing the old results until there are others of the same kind
(`Run.cleanup_renews`).
-/

set_option autoImplicit false
set_option relaxedAutoImplicit false

namespace RadioScan

namespace Coordinator

variable (scanner : Coordinator) (script : List (Surroundings × Action))

/-- What happens does not depend on what has happened before. -/
theorem play_eq (past : History) :
    scanner.play past script =
      (past ++ (scanner.play [] script).1, (scanner.play [] script).2) := by
  induction script generalizing past scanner with
  | nil => simp [play]
  | cons head rest ih =>
    obtain ⟨around, action⟩ := head
    have hhead := ih (scanner.step around action).next [⟨scanner, around, action⟩]
    rw [play, ih, play, List.nil_append, hhead, List.append_assoc]

theorem play_cons (around : Surroundings) (action : Action) :
    scanner.play [] ((around, action) :: script) =
      (⟨scanner, around, action⟩ :: ((scanner.step around action).next.play [] script).1,
        ((scanner.step around action).next.play [] script).2) := by
  rw [play, play_eq]
  rfl

end Coordinator

/-- What is seen of an episode from outside. -/
def Episode.outward (episode : Episode) : Option Rejection × List Effect :=
  (episode.reply.rejection, episode.effects)

namespace Renaming

variable (names : Renaming)

/-- The same as seen on the other scanner. -/
def outward : Option Rejection × List Effect → Option Rejection × List Effect
  | (rejection, effects) => (rejection, effects.map names.effect)

/-- What is done to the other scanner during a script, with the same answers. -/
def script (script : List (Surroundings × Action)) : List (Surroundings × Action) :=
  script.filterMap fun (around, action) ↦
    (names.action? action).map fun other ↦ (names.surroundings around, other)

/-- The episode is not the run of a task of which the other scanner knows nothing. -/
def knows (episode : Episode) : Bool := (names.action? episode.action).isSome

variable {around : Surroundings} {action : Action}

theorem script_cons_of_none (haction : names.action? action = none)
    (rest : List (Surroundings × Action)) :
    names.script ((around, action) :: rest) = names.script rest := by
  simp [script, haction]

theorem script_cons_of_some {other : Action} (haction : names.action? action = some other)
    (rest : List (Surroundings × Action)) :
    names.script ((around, action) :: rest) =
      (names.surroundings around, other) :: names.script rest := by
  simp [script, haction]

end Renaming

/-! ### Two scanners in the same position -/

/-- What is seen of one history is what is seen of the other, and in the episodes of which only the
first one has nothing happens. -/
structure History.Matches (names : Renaming) (later afresh : History) : Prop where
  outward_eq : (later.filter names.knows).map (fun episode ↦ names.outward episode.outward) =
    afresh.map Episode.outward
  idle : ∀ episode ∈ later, names.knows episode = false →
    episode.reply = ⟨none, [], episode.scanner⟩

namespace Coordinator.Mirrors

variable {names : Renaming} {used new : Coordinator}

/-- The same script does the same to both scanners, and leaves them in the same position. -/
theorem play (hmirrors : used.Mirrors names new) (script : List (Surroundings × Action)) :
    History.Matches names (used.play [] script).1 (new.play [] (names.script script)).1 ∧
      (used.play [] script).2.Mirrors names (new.play [] (names.script script)).2 := by
  induction script generalizing used new with
  | nil => exact ⟨⟨rfl, by simp [Coordinator.play]⟩, hmirrors⟩
  | cons head rest ih =>
    obtain ⟨around, action⟩ := head
    rw [play_cons]
    cases haction : names.action? action with
    | none =>
      have hstep : used.step around action = ⟨none, [], used⟩ :=
        hmirrors.step_of_action?_eq_none haction
      have hunknown : names.knows ⟨used, around, action⟩ = false := by
        simp [Renaming.knows, haction]
      rw [names.script_cons_of_none haction, hstep]
      obtain ⟨hmatches, hnext⟩ := ih hmirrors
      refine ⟨⟨?_, ?_⟩, hnext⟩
      · rw [List.filter_cons_of_neg (by simp [hunknown])]
        exact hmatches.outward_eq
      · exact List.forall_mem_cons.mpr ⟨fun _ ↦ hstep, hmatches.idle⟩
    | some other =>
      have hknown : names.knows ⟨used, around, action⟩ = true := by
        simp [Renaming.knows, haction]
      rw [names.script_cons_of_some haction, play_cons]
      obtain ⟨hmatches, hnext⟩ := ih (hmirrors.next_step haction)
      refine ⟨⟨?_, ?_⟩, hnext⟩
      · rw [List.filter_cons_of_pos hknown, List.map_cons, List.map_cons, hmatches.outward_eq]
        congr 1
        exact Prod.ext (hmirrors.rejection_step haction) (hmirrors.effects_step haction)
      · refine List.forall_mem_cons.mpr ⟨fun hunknown ↦ ?_, hmatches.idle⟩
        rw [hknown] at hunknown
        cases hunknown

end Coordinator.Mirrors

/-! ### What there is to show -/

/-- A part of the scanner that is written when the driver reports something, in the episodes marked
by `writes`, and that nothing reads. -/
structure Coordinator.Shelf {β : Type} (part : Coordinator → β) (writes : Episode → Bool) :
    Prop where
  reported : ∀ {episode : Episode}, writes episode = true →
    ∃ event, episode.action = .driverEvent event
  kept : ∀ {episode : Episode}, episode.scanner.single.Sound → writes episode = false →
    part episode.reply.next = part episode.scanner
  alike : ∀ {names : Renaming} {used new : Coordinator}, used.Mirrors names new →
    ∀ {action other : Action}, names.action? action = some other → ∀ around,
      writes ⟨new, names.surroundings around, other⟩ = writes ⟨used, around, action⟩
  written : ∀ {names : Renaming} {used new : Coordinator}, used.Mirrors names new →
    ∀ {action other : Action}, names.action? action = some other → ∀ around,
      writes ⟨used, around, action⟩ = true →
        part (used.step around action).next =
          part (new.step (names.surroundings around) other).next

namespace Coordinator.Shelf

variable {β : Type} {part : Coordinator → β} {writes : Episode → Bool}
variable {names : Renaming} {used new : Coordinator}

/-- Once the shelves of two scanners hold the same, they do so from then on. -/
theorem play_eq_of_eq (hshelf : Shelf part writes) (hmirrors : used.Mirrors names new)
    (heq : part used = part new) (script : List (Surroundings × Action)) :
    part (used.play [] script).2 = part (new.play [] (names.script script)).2 := by
  induction script generalizing used new with
  | nil => exact heq
  | cons head rest ih =>
    obtain ⟨around, action⟩ := head
    rw [play_cons]
    cases haction : names.action? action with
    | none =>
      rw [names.script_cons_of_none haction, hmirrors.step_of_action?_eq_none haction]
      exact ih hmirrors heq
    | some other =>
      rw [names.script_cons_of_some haction, play_cons]
      refine ih (hmirrors.next_step haction) ?_
      cases hwrites : writes ⟨used, around, action⟩ with
      | true => exact hshelf.written hmirrors haction around hwrites
      | false =>
        have hnew := (hshelf.alike hmirrors haction around).trans hwrites
        exact (hshelf.kept hmirrors.single.sound.1 hwrites).trans
          (heq.trans (hshelf.kept hmirrors.single.sound.2 hnew).symm)

/-- The shelf keeps what it holds until it is written, and holds what the other one does from then
on. -/
theorem play_eq (hshelf : Shelf part writes) (hmirrors : used.Mirrors names new)
    (script : List (Surroundings × Action)) :
    part (used.play [] script).2 =
      if (used.play [] script).1.filter writes = [] then part used
      else part (new.play [] (names.script script)).2 := by
  induction script generalizing used new with
  | nil => rfl
  | cons head rest ih =>
    obtain ⟨around, action⟩ := head
    rw [play_cons]
    cases hwrites : writes ⟨used, around, action⟩ with
    | true =>
      obtain ⟨event, rfl⟩ := hshelf.reported hwrites
      have haction : names.action? (.driverEvent event) = some (.driverEvent event) := rfl
      rw [List.filter_cons_of_pos hwrites, if_neg (List.cons_ne_nil _ _),
        names.script_cons_of_some haction, play_cons]
      exact hshelf.play_eq_of_eq (hmirrors.next_step haction)
        (hshelf.written hmirrors haction around hwrites) rest
    | false =>
      have hkept : part (used.step around action).next = part used :=
        @kept _ _ _ hshelf ⟨used, around, action⟩ hmirrors.single.sound.1 hwrites
      rw [List.filter_cons_of_neg (by simp [hwrites])]
      cases haction : names.action? action with
      | none =>
        rw [names.script_cons_of_none haction, hmirrors.step_of_action?_eq_none haction]
        exact ih hmirrors
      | some other =>
        rw [names.script_cons_of_some haction, play_cons, ← hkept]
        exact ih (hmirrors.next_step haction)

end Coordinator.Shelf

/-! ### Results as shelves -/

theorem Renaming.eq_driverEvent_iff {names : Renaming} {action other : Action}
    (haction : names.action? action = some other) (event : DriverEvent) :
    other = .driverEvent event ↔ action = .driverEvent event := by
  cases action with
  | runTask id =>
    obtain ⟨_, rfl⟩ := names.of_action?_runTask haction
    exact iff_of_false Action.noConfusion Action.noConfusion
  | _ =>
    obtain rfl := Option.some.inj haction
    rfl

/-- The radio reports what it has found for the request that runs. -/
def Episode.finds (episode : Episode) : Bool :=
  decide (episode.action = .driverEvent .offloadResultsAvailable ∧
    episode.scanner.offload.active ≠ none)

/-- The episodes in which networks were found. -/
def History.findings (past : History) : List Episode := past.filter Episode.finds

namespace OffloadSession

variable {session : OffloadSession} {radio : Radio} {around : Surroundings} {action : Action}

/-- What was fetched changes only when the radio reports something for a request. -/
theorem Passage.fetched_eq {turn : Turn OffloadSession}
    (hpassage : session.Passage radio around action turn)
    (hquiet : ¬ (action = .driverEvent .offloadResultsAvailable ∧ session.active ≠ none)) :
    turn.next.fetched = session.fetched := by
  cases hpassage with
  | found hactive => exact absurd ⟨rfl, by simp [hactive]⟩ hquiet
  | _ => rfl

theorem fetched_deliver (hactive : session.active ≠ none) :
    (session.deliver radio around).next.fetched = some around.offloadResults := by
  rw [deliver]
  split
  · next hnone => exact absurd hnone hactive
  · rfl

end OffloadSession

namespace Coordinator

theorem shelf_results :
    Shelf (fun scanner ↦ (scanner.single.latest, scanner.single.fetched)) Episode.harvests where
  reported := fun hharvests ↦ ⟨_, (of_decide_eq_true hharvests).1⟩
  kept := by
    intro episode hsound hquiet
    obtain ⟨hlatest, hfetched⟩ :=
      (hsound.turn_passage episode.action).results_eq (of_decide_eq_false hquiet)
    exact Prod.ext ((congrArg _ (single_next_step _ _ _)).trans hlatest)
      ((congrArg _ (single_next_step _ _ _)).trans hfetched)
  alike := fun hmirrors _ _ haction _ ↦
    decide_eq_decide.mpr (and_congr (Renaming.eq_driverEvent_iff haction _)
      (not_congr hmirrors.single.idle_iff.symm))
  written := by
    intro names used new hmirrors action other haction around hharvests
    obtain ⟨hreported, hbusy⟩ := of_decide_eq_true hharvests
    obtain rfl : action = .driverEvent .scanResultsAvailable := hreported
    obtain rfl := Option.some.inj haction
    obtain ⟨hlatest, hfetched⟩ :=
      @SingleSession.Mirrors.results_deliver _ _ _ used.radio around hmirrors.single hbusy
    simp only [single_next_step, ← hmirrors.radio_eq]
    exact Prod.ext hlatest hfetched

theorem shelf_findings : Shelf (fun scanner ↦ scanner.offload.fetched) Episode.finds where
  reported := fun hfinds ↦ ⟨_, (of_decide_eq_true hfinds).1⟩
  kept := by
    intro episode _ hquiet
    rw [Episode.reply, offload_next_step]
    exact (episode.scanner.offload.turn_passage episode.action).fetched_eq
      (of_decide_eq_false hquiet)
  alike := fun hmirrors _ _ haction _ ↦ by
    refine decide_eq_decide.mpr (and_congr (Renaming.eq_driverEvent_iff haction _) ?_)
    rw [hmirrors.active_eq]
  written := by
    intro names used new hmirrors action other haction around hfinds
    obtain ⟨hreported, hactive⟩ := of_decide_eq_true hfinds
    obtain rfl : action = .driverEvent .offloadResultsAvailable := hreported
    obtain rfl := Option.some.inj haction
    have hused : used.offload.active ≠ none := hactive
    have hnew : new.offload.active ≠ none := hmirrors.active_eq ▸ hused
    rw [offload_next_step, offload_next_step]
    exact (OffloadSession.fetched_deliver hused).trans (OffloadSession.fetched_deliver hnew).symm

end Coordinator

/-! ### Listeners that the scanner has no request of -/

/-- No request of the listener's is in the scanner. -/
structure Coordinator.Forgets (scanner : Coordinator) (listener : ListenerId) : Prop where
  sound : scanner.single.Sound
  single : scanner.single.listener? ≠ some listener
  offload : ∀ scan, scanner.offload.active = some scan → scan.listener ≠ listener

namespace Coordinator.Forgets

variable {scanner : Coordinator} {listener : ListenerId} {around : Surroundings} {action : Action}

theorem noticesTo_effects (hforgets : scanner.Forgets listener)
    (haction : action.listener? ≠ some listener) :
    noticesTo listener (scanner.step around action).effects = [] := by
  have hsingle :
      noticesTo listener (scanner.single.turn scanner.radio around action).effects = [] :=
    (hforgets.sound.turn_passage action).noticesTo_eq_nil hforgets.single
  have hoffload :
      noticesTo listener (scanner.offload.turn scanner.radio around action).effects = [] := by
    refine (scanner.offload.turn_passage action).noticesTo_eq_nil hforgets.offload ?_
    rintro request rfl
    exact haction rfl
  rw [effects_step, noticesTo_append, hsingle, hoffload]
  rfl

theorem next_step (hforgets : scanner.Forgets listener)
    (haction : action.listener? ≠ some listener) :
    (scanner.step around action).next.Forgets listener where
  sound := by
    rw [single_next_step]
    exact (hforgets.sound.turn_passage action).sound hforgets.sound
  single := by
    rw [single_next_step]
    intro hnext
    rcases (hforgets.sound.turn_passage action).listener?_next hnext with hold | ⟨request, rfl⟩
    · exact hforgets.single hold
    · exact haction rfl
  offload := by
    rw [offload_next_step]
    rintro scan hactive rfl
    rcases (scanner.offload.turn_passage action).active_next hactive with hold | ⟨request, rfl⟩
    · exact hforgets.offload scan hold rfl
    · exact haction rfl

/-- A listener that came with no request of the script hears nothing during it. -/
theorem heardBy_play (hforgets : scanner.Forgets listener)
    (script : List (Surroundings × Action))
    (hlistener : listener ∉ (scanner.play [] script).1.listeners) :
    (scanner.play [] script).1.heardBy listener = [] := by
  induction script generalizing scanner with
  | nil => rfl
  | cons head rest ih =>
    obtain ⟨around, action⟩ := head
    rw [play_cons] at hlistener ⊢
    have haction : action.listener? ≠ some listener := fun heq ↦
      hlistener (List.mem_filterMap.mpr ⟨_, List.mem_cons_self, heq⟩)
    have hrest := ih (hforgets.next_step haction) fun hmem ↦
      hlistener (((List.sublist_cons_self _ _).filterMap _).subset hmem)
    rw [History.heardBy, History.effects, List.flatMap_cons, noticesTo_append]
    exact List.append_eq_nil_iff.mpr ⟨hforgets.noticesTo_effects haction, hrest⟩

end Coordinator.Forgets

/-! ### Cleanup -/

namespace SingleSession

variable {session : SingleSession}

theorem Vacant.vacated_eq (hvacant : session.Vacant) : session.vacated = session := by
  rw [vacated, Alarms.cleared_of_live_eq_nil hvacant.live_eq, ← hvacant.phase_eq]

theorem Sound.cleanup_next (hsound : session.Sound) :
    session.cleanup.next = { session.vacated with rotation := session.rotation.reset } := by
  rcases hsound with hvacant | ⟨scan, alarm, hserves⟩
  · rw [hvacant.cleanup, hvacant.vacated_eq]
  · rw [hserves.cleanup]

end SingleSession

/-- The scanner `used` after the history `later`, with `scanner` as it was before the cleanup and
`past` what had happened to it, is as good as a scanner that was fresh and then was in `afresh`. -/
structure Renewed (names : Renaming) (past : History) (scanner : Coordinator)
    (later afresh : History × Coordinator) : Prop where
  matched : History.Matches names later.1 afresh.1
  earlier_tasks : ∀ task ∈ past.tasks, names.action? (.runTask task.alarm) = none
  networks_eq : later.2.offload.networks? = afresh.2.offload.networks?
  latest_eq : later.2.single.latest =
    if later.1.harvests = [] then scanner.single.latest else afresh.2.single.latest
  report_eq : ∀ nanos, later.2.report nanos =
    ⟨Clock.millis nanos,
      if later.1.harvests = [] then scanner.single.fetched else afresh.2.single.fetched,
      if later.1.findings = [] then scanner.offload.fetched else afresh.2.offload.fetched⟩
  unheard : ∀ listener, listener ∉ later.1.listeners → later.1.heardBy listener = []

namespace Run

variable {radio : Radio} {fallbackBatch : Nat} {past : History} {scanner : Coordinator}

theorem single_cleanup (run : Run radio fallbackBatch past scanner) (around : Surroundings) :
    (scanner.step around .cleanup).next.single =
      { scanner.single.vacated with rotation := .fresh fallbackBatch } := by
  rw [Coordinator.single_next_step, SingleSession.turn, run.sound.cleanup_next, Rotation.reset,
    run.fallbackBatch_eq]

/-- After a cleanup a scanner is where a fresh one starts. -/
theorem mirrors_cleanup (run : Run radio fallbackBatch past scanner) (around : Surroundings)
    (rename : TaskHandle → TaskHandle) :
    (scanner.step around .cleanup).next.Mirrors ⟨scanner.single.alarms.issued, rename⟩
      (.fresh radio fallbackBatch) where
  radio_eq := (Coordinator.radio_next_step _ _ _).trans run.radio_eq
  single := by
    rw [run.single_cleanup]
    exact ⟨.vacant ⟨rfl, rfl⟩ ⟨rfl, rfl⟩, rfl, rfl⟩
  active_eq := rfl

theorem forgets_cleanup (run : Run radio fallbackBatch past scanner) (around : Surroundings)
    (listener : ListenerId) : (scanner.step around .cleanup).next.Forgets listener where
  sound := by
    rw [run.single_cleanup]
    exact Or.inl ⟨rfl, rfl⟩
  single := by
    rw [run.single_cleanup]
    rintro ⟨⟩
  offload := by
    intro scan hactive
    cases hactive

/-- Whatever happens to a scanner after a cleanup, the same happens to a fresh scanner that is given
the same answers: requests are turned down for the same reasons, the driver, the scheduler and the
listeners are told the same. The old results are shown until there are others of the same kind, and
nobody hears anything whose request was made before the cleanup. -/
theorem cleanup_renews (run : Run radio fallbackBatch past scanner) (around : Surroundings)
    (script : List (Surroundings × Action)) (rename : TaskHandle → TaskHandle) :
    let names : Renaming := ⟨scanner.single.alarms.issued, rename⟩
    Renewed names past scanner ((scanner.step around .cleanup).next.play [] script)
      ((Coordinator.fresh radio fallbackBatch).play [] (names.script script)) := by
  intro names
  have hmirrors := run.mirrors_cleanup around rename
  obtain ⟨hmatches, hfinal⟩ := hmirrors.play script
  have hresults := Coordinator.shelf_results.play_eq hmirrors script
  have hfindings := Coordinator.shelf_findings.play_eq hmirrors script
  rw [run.single_cleanup] at hresults
  have hfetched := congrArg Prod.snd hresults
  rw [apply_ite Prod.snd] at hfetched
  refine ⟨hmatches, fun task htask ↦ ?_, ?_, ?_, fun nanos ↦ ?_, fun listener ↦ ?_⟩
  · obtain ⟨booking, hmem, rfl⟩ := run.task_booked htask
    exact if_pos (run.number_le_issued hmem)
  · exact congrArg (Option.map ActiveOffload.networks) hfinal.active_eq
  · exact (congrArg Prod.fst hresults).trans (apply_ite Prod.fst _ _ _)
  · rw [Coordinator.report]
    exact congr (congrArg (Report.mk (Clock.millis nanos)) hfetched) hfindings
  · exact (run.forgets_cleanup around listener).heardBy_play script

/-- A request for three hidden networks of which the driver takes two at a time ends with results.
Another one is in the session, and the radio looks for networks by itself. -/
def inUse : List (Surroundings × Action) :=
  let hidden := { ScanRequest.ofChannel 2412 0#32 with hidden := some [[1], [2], [3]] }
  [({ Surroundings.calm 1 with probeLimit := 3 }, .startScan hidden ⟨1⟩),
    ({ Surroundings.calm 2 with scanResults := [sighted 2412 5] },
      .driverEvent .scanResultsAvailable),
    (.calm 2, .startScan hidden ⟨2⟩),
    (.calm 3, .startOffload ⟨false, 0, 0, 0, 0, []⟩ ⟨3⟩)]

/-- The tasks of both requests are run, and then that of a third one, which is for the same hidden
networks. By now the driver takes only one of them at a time. -/
def afterCleanup : List (Surroundings × Action) :=
  let hidden := { ScanRequest.ofChannel 2437 0#32 with hidden := some [[1], [2], [3]] }
  [(.calm 3, .runTask ⟨1⟩), (.calm 3, .runTask ⟨2⟩),
    ({ Surroundings.calm 3 with probeLimit := 2 }, .startScan hidden ⟨4⟩),
    (.calm 4, .runTask ⟨3⟩)]

theorem cleanup_renews_inUse :
    let (past, scanner) := Coordinator.play [] .specimen inUse
    let later := (scanner.step (.calm 3) .cleanup).next.play [] afterCleanup
    let names : Renaming := ⟨2, fun handle ↦ ⟨handle.number + 7⟩⟩
    let afresh := Coordinator.specimen.play [] (names.script afterCleanup)
    Coordinator.Playable [] .specimen inUse ∧ Renewed names past scanner later afresh ∧
      scanner.single.rotation = ⟨16, some 2, 1⟩ ∧
      afresh.1.map (fun episode ↦ (episode.around.nextHandle, episode.action.task?)) =
        [(⟨10⟩, none), (⟨11⟩, some ⟨1⟩)] ∧
      later.2.single.rotation = ⟨16, some 1, 1⟩ ∧
      later.2.single.latest = scanner.single.latest ∧
      later.2.single.fetched = some [sighted 2412 5] := by
  have hplayable : Coordinator.Playable [] .specimen inUse := by decide
  have hrenewed := cleanup_renews (Run.fresh.play inUse hplayable) (.calm 3) afterCleanup
    fun handle ↦ ⟨handle.number + 7⟩
  refine ⟨hplayable, hrenewed, by decide, by decide, by decide, ?_, by decide⟩
  exact hrenewed.latest_eq.trans (if_pos (by decide))

end Run

end RadioScan
