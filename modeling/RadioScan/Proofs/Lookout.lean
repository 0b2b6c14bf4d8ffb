import RadioScan.Proofs.Offloading
import RadioScan.Proofs.Rejection

/-!
Which offloaded scan runs. A `Lookout` is an accepted request for one. It runs if the driver takes
it, until the first episode that ends offloaded scans: a reset that succeeds, a failure that the
driver reports, or a cleanup. `Lookout.RunsIn` says so of what came after the request, and
`Run.active_eq_some_iff` that the session holds just the request that runs in this sense.
-/

set_option autoImplicit false
set_option relaxedAutoImplicit false

namespace RadioScan

/-- An accepted request for an offloaded scan. -/
structure Lookout extends Episode where
  request : OffloadRequest
  listener : ListenerId
  action_eq : action = .startOffload request listener
  accepted : toEpisode.reply.rejection = none

/-- The episode ends the offloaded scan that runs, if there is one. -/
def Episode.endsOffload (episode : Episode) : Bool :=
  match episode.action with
  | .resetOffload => episode.reply.rejection.isNone
  | .driverEvent .offloadFailed => true
  | .cleanup => true
  | _ => false

/-! ### One episode -/

theorem Coordinator.accepts_startOffload_iff {scanner : Coordinator} {around : Surroundings}
    {request : OffloadRequest} {listener : ListenerId} :
    (scanner.step around (.startOffload request listener)).rejection = none ↔
      scanner.offload.active = none ∧ around.requiresOffload request.connected = true := by
  rw [rejection_startOffload, Surroundings.requiresOffload]
  by_cases hactive : scanner.offload.active = none <;>
    cases hconnected : request.connected <;>
      cases hbackground : around.backgroundScanning <;> simp [hactive]

namespace Episode

variable {episode : Episode}

theorem accepted_of_idle {request : OffloadRequest} {listener : ListenerId}
    (haction : episode.action = .startOffload request listener)
    (hidle : episode.scanner.offload.active = none)
    (hrequired : episode.around.requiresOffload request.connected = true) :
    episode.reply.rejection = none := by
  rw [reply, haction]
  exact Coordinator.accepts_startOffload_iff.mpr ⟨hidle, hrequired⟩

theorem active_next (episode : Episode) :
    episode.reply.next.offload.active =
      (episode.scanner.offload.turn episode.scanner.radio episode.around
        episode.action).next.active := by
  rw [reply, Coordinator.offload_next_step]

/-- Nothing runs after an episode that ends offloaded scans. -/
theorem active_next_of_ends (hends : episode.endsOffload = true) :
    episode.reply.next.offload.active = none := by
  rw [active_next]
  rw [endsOffload] at hends
  cases hactive : episode.scanner.offload.active with
  | none =>
    rw [OffloadSession.turn_of_idle hactive]
    cases haction : episode.action with
    | startOffload request listener => simp [haction] at hends
    | cleanup => rfl
    | _ => exact hactive
  | some scan =>
    rw [OffloadSession.turn_of_active hactive]
    cases haction : episode.action with
    | resetOffload => rfl
    | cleanup => rfl
    | driverEvent event =>
      cases event with
      | offloadFailed => rfl
      | _ => simp [haction] at hends
    | _ => simp [haction] at hends

/-- What runs goes on running through every other episode. -/
theorem active_next_of_not_ends (hends : episode.endsOffload = false) {scan : ActiveOffload}
    (hactive : episode.scanner.offload.active = some scan) :
    episode.reply.next.offload.active = some scan := by
  rw [active_next, OffloadSession.turn_of_active hactive]
  rw [endsOffload] at hends
  cases haction : episode.action with
  | resetOffload =>
    have haccepted : episode.reply.rejection = none := by
      rw [reply, haction, Coordinator.rejection_resetOffload, if_neg (by simp [hactive])]
    simp [haction, haccepted] at hends
  | driverEvent event =>
    cases event with
    | offloadFailed => simp [haction] at hends
    | _ => exact hactive
  | cleanup => simp [haction] at hends
  | _ => exact hactive

end Episode

/-! ### A request -/

namespace Lookout

variable (lookout : Lookout)

/-- The request as it runs. -/
def scan : ActiveOffload :=
  OffloadSession.engaged lookout.around lookout.request lookout.listener

/-- The request still runs after `later`: the driver took it, and nothing has ended it. -/
def RunsIn (later : History) : Prop :=
  lookout.around.offloadRefusal = none ∧ ∀ episode ∈ later, episode.endsOffload = false

instance (later : History) : Decidable (lookout.RunsIn later) :=
  inferInstanceAs (Decidable (lookout.around.offloadRefusal = none ∧
    ∀ episode ∈ later, episode.endsOffload = false))

/-- The request was made in the course of the history and still runs. -/
def Runs (past : History) : Prop :=
  ∃ earlier later, past = earlier ++ lookout.toEpisode :: later ∧ lookout.RunsIn later

theorem listener?_eq : lookout.action.listener? = some lookout.listener := by
  rw [lookout.action_eq]
  rfl

/-- A request is accepted only while no other one runs and the radio is to look for networks by
itself. -/
theorem idle_and_required :
    lookout.scanner.offload.active = none ∧
      lookout.around.requiresOffload lookout.request.connected = true := by
  have haccepted := lookout.accepted
  rw [Episode.reply, lookout.action_eq] at haccepted
  exact Coordinator.accepts_startOffload_iff.mp haccepted

theorem active_next :
    lookout.reply.next.offload.active =
      if lookout.around.offloadRefusal = none then some lookout.scan else none := by
  obtain ⟨hidle, hrequired⟩ := lookout.idle_and_required
  rw [Episode.active_next, OffloadSession.turn_of_idle hidle, lookout.action_eq]
  simp only [if_pos hrequired]
  split <;> rfl

variable {lookout} {later : History} {episode : Episode}

theorem runsIn_nil : lookout.RunsIn [] ↔ lookout.around.offloadRefusal = none := by
  simp [RunsIn]

theorem runsIn_snoc :
    lookout.RunsIn (later ++ [episode]) ↔
      lookout.RunsIn later ∧ episode.endsOffload = false := by
  simp only [RunsIn, List.forall_mem_append, List.forall_mem_singleton, and_assoc]

/-- How the request stands in the session after `later`. Once it has ended, whatever runs is not it,
as its listener shows. -/
inductive Standing (lookout : Lookout) (later : History) (session : OffloadSession) : Prop
  | running (hruns : lookout.RunsIn later) (hactive : session.active = some lookout.scan)
  | ended (hruns : ¬ lookout.RunsIn later)
      (hlistener : ∀ scan, session.active = some scan → scan.listener ≠ lookout.listener)

theorem standing_nil (lookout : Lookout) : lookout.Standing [] lookout.reply.next.offload := by
  have hactive := lookout.active_next
  by_cases htaken : lookout.around.offloadRefusal = none
  · rw [if_pos htaken] at hactive
    exact .running (runsIn_nil.mpr htaken) hactive
  · rw [if_neg htaken] at hactive
    refine .ended (fun hruns ↦ htaken (runsIn_nil.mp hruns)) fun scan hscan ↦ ?_
    rw [hactive] at hscan
    cases hscan

/-- How the request stands after one more episode. Later requests have listeners of their own. -/
theorem Standing.next (hstanding : lookout.Standing later episode.scanner.offload)
    (hlistener : episode.action.listener? ≠ some lookout.listener) :
    lookout.Standing (later ++ [episode]) episode.reply.next.offload := by
  cases hstanding with
  | running hruns hactive =>
    cases hends : episode.endsOffload with
    | false =>
      exact .running (runsIn_snoc.mpr ⟨hruns, hends⟩)
        (Episode.active_next_of_not_ends hends hactive)
    | true =>
      have hover : ¬ lookout.RunsIn (later ++ [episode]) := fun hruns ↦
        Bool.noConfusion (hends.symm.trans (runsIn_snoc.mp hruns).2)
      refine .ended hover fun scan hscan ↦ ?_
      rw [Episode.active_next_of_ends hends] at hscan
      cases hscan
  | ended hruns hother =>
    -- What runs now ran before or is only now asked for; neither has the listener of `lookout`.
    refine .ended (fun hboth ↦ hruns (runsIn_snoc.mp hboth).1) fun scan hscan heq ↦ ?_
    rw [Episode.active_next] at hscan
    rcases (episode.scanner.offload.turn_passage episode.action).active_next hscan with
      hactive | ⟨request, haction⟩
    · exact hother scan hactive heq
    · exact hlistener (by rw [haction, Action.listener?, heq])

end Lookout

/-- What runs after an episode ran before it and was not ended, or was started in it. -/
theorem Episode.active_of_active_next (episode : Episode) {scan : ActiveOffload}
    (hnext : episode.reply.next.offload.active = some scan) :
    (episode.scanner.offload.active = some scan ∧ episode.endsOffload = false) ∨
      ∃ lookout : Lookout, lookout.toEpisode = episode ∧ lookout.RunsIn [] ∧
        lookout.scan = scan := by
  cases hactive : episode.scanner.offload.active with
  | some other =>
    cases hends : episode.endsOffload with
    | false =>
      rw [active_next_of_not_ends hends hactive] at hnext
      exact Or.inl ⟨hnext, rfl⟩
    | true =>
      rw [active_next_of_ends hends] at hnext
      cases hnext
  | none =>
    rw [active_next, OffloadSession.turn_of_idle hactive] at hnext
    cases haction : episode.action with
    | startOffload request listener =>
      simp only [haction] at hnext
      split at hnext
      · next hrequired =>
        have haccepted := accepted_of_idle haction hactive hrequired
        split at hnext
        · next htaken =>
          exact Or.inr ⟨⟨episode, request, listener, haction, haccepted⟩, rfl,
            Lookout.runsIn_nil.mpr htaken, Option.some.inj hnext⟩
        · cases hnext
      · rw [hactive] at hnext
        cases hnext
    | cleanup => simp [haction, OffloadSession.vacated] at hnext
    | _ => simp [haction, hactive] at hnext

/-! ### Runs -/

/-- An offloaded scan runs at the end of the history. -/
def History.Searching (past : History) : Prop := ∃ lookout : Lookout, lookout.Runs past

namespace Run

variable {radio : Radio} {fallbackBatch : Nat} {past : History} {scanner : Coordinator}

/-- How each accepted request for an offloaded scan stands in a run. -/
theorem lookout_standing (run : Run radio fallbackBatch past scanner) {lookout : Lookout}
    {earlier later : History} (hpast : past = earlier ++ lookout.toEpisode :: later) :
    lookout.Standing later scanner.offload := by
  induction run generalizing later with
  | fresh => cases earlier <;> cases hpast
  | @snoc past scanner around action run hpossible ih =>
    -- The request was made in the last episode or before it.
    rcases History.split_snoc hpast with ⟨rfl, -, hlast⟩ | ⟨rest, rfl, hsplit⟩
    · have hstanding := lookout.standing_nil
      rw [← hlast] at hstanding
      exact hstanding
    · have hmem : lookout.toEpisode ∈ past := by simp [hsplit]
      have hnext : lookout.Standing (rest ++ [⟨scanner, around, action⟩]) _ :=
        (ih hsplit).next fun haction ↦
          hpossible.listener_new _ haction (mem_listeners hmem lookout.listener?_eq)
      exact hnext

/-- What runs is a request that was accepted before and that nothing has ended since. -/
theorem exists_lookout_of_active (run : Run radio fallbackBatch past scanner)
    {scan : ActiveOffload} (hactive : scanner.offload.active = some scan) :
    ∃ lookout : Lookout, lookout.Runs past ∧ lookout.scan = scan := by
  induction run with
  | fresh => cases hactive
  | @snoc past scanner around action run hpossible ih =>
    rcases Episode.active_of_active_next ⟨scanner, around, action⟩ hactive with
      ⟨hbefore, hgoesOn⟩ | ⟨lookout, hepisode, hruns, hscan⟩
    · obtain ⟨lookout, ⟨earlier, later, rfl, hruns⟩, hscan⟩ := ih hbefore
      refine ⟨lookout, ⟨earlier, later ++ [⟨scanner, around, action⟩], ?_, ?_⟩, hscan⟩
      · rw [List.append_assoc, List.cons_append]
      · exact Lookout.runsIn_snoc.mpr ⟨hruns, hgoesOn⟩
    · exact ⟨lookout, ⟨past, [], by rw [hepisode], hruns⟩, hscan⟩

/-- The session holds the request that runs, if one does. -/
theorem active_eq_some_iff (run : Run radio fallbackBatch past scanner) {scan : ActiveOffload} :
    scanner.offload.active = some scan ↔
      ∃ lookout : Lookout, lookout.Runs past ∧ lookout.scan = scan := by
  refine ⟨run.exists_lookout_of_active, ?_⟩
  rintro ⟨lookout, ⟨earlier, later, hpast, hruns⟩, rfl⟩
  cases run.lookout_standing hpast with
  | running _ hactive => exact hactive
  | ended hover _ => exact absurd hruns hover

theorem searching_iff (run : Run radio fallbackBatch past scanner) :
    past.Searching ↔ scanner.offload.active ≠ none := by
  rw [Option.ne_none_iff_exists']
  simp only [run.active_eq_some_iff]
  exact ⟨fun ⟨lookout, hruns⟩ ↦ ⟨_, lookout, hruns, rfl⟩,
    fun ⟨_, lookout, hruns, _⟩ ↦ ⟨lookout, hruns⟩⟩

end Run

end RadioScan
