import RadioScan.Proofs.Calls
import RadioScan.Proofs.Renewal

/-!
Single scans and offloaded scans do not interfere. A `Side` of the scanner is one of its two
sessions, together with the actions that are foreign to it, the effects that concern it, and what it
has to show. A foreign action leaves the session as it is and does nothing that concerns it, and
what any other action does there depends on that session alone (`Side.Closed`). So a scanner to
which the foreign actions are not done looks the same from that side, step by step
(`Run.sides_independent`).
-/

set_option autoImplicit false
set_option relaxedAutoImplicit false

namespace RadioScan

/-- The effect is about offloaded scans. -/
def Effect.isOffload : Effect → Bool
  | .driver _ call => call.isOffload
  | .notify _ (.offload _) => true
  | _ => false

/-- One session of the scanner, the actions that are not its business, the effects that are, and
what it has to show. -/
structure Side (σ ν : Type) where
  session : Coordinator → σ
  foreign : Action → Bool
  concerns : Effect → Bool
  shown : σ → ν

/-- What is seen of an episode from one side, next to what was done and answered in it. -/
structure Glimpse (ν : Type) where
  around : Surroundings
  action : Action
  rejection : Option Rejection
  effects : List Effect
  shown : ν

namespace Side

/-- Single scans, with the latest results to show. The scheduler works for them alone. -/
def single : Side SingleSession Snapshot where
  session := Coordinator.single
  foreign
    | .startOffload _ _ => true
    | .resetOffload => true
    | .driverEvent .offloadResultsAvailable => true
    | .driverEvent .offloadFailed => true
    | _ => false
  concerns effect := !effect.isOffload
  shown := SingleSession.latest

/-- Offloaded scans, with the networks to show that the radio is looking for. -/
def offload : Side OffloadSession (Option (List OffloadNetwork)) where
  session := Coordinator.offload
  foreign
    | .startScan _ _ => true
    | .driverEvent (.scanFailed _) => true
    | .driverEvent .scanResultsAvailable => true
    | .runTask _ => true
    | _ => false
  concerns := Effect.isOffload
  shown := OffloadSession.networks?

variable {σ ν : Type} (side : Side σ ν)

def glimpse (episode : Episode) : Glimpse ν where
  around := episode.around
  action := episode.action
  rejection := episode.reply.rejection
  effects := episode.effects.filter side.concerns
  shown := side.shown (side.session episode.reply.next)

/-- What is done in the episode is the side's business. -/
def keeps (episode : Episode) : Bool := !side.foreign episode.action

/-- What was done in a history without what is foreign to the side, and what was answered. -/
def script (past : History) : List (Surroundings × Action) :=
  (past.filter side.keeps).map fun episode ↦ (episode.around, episode.action)

/-- Nothing is seen of the episode from the side. -/
def Unseen (episode : Episode) : Prop :=
  episode.effects.filter side.concerns = [] ∧
    side.shown (side.session episode.reply.next) = side.shown (side.session episode.scanner)

/-- From the side, `others` looks as `past` does, of which foreign episodes are not seen. -/
structure LooksLike (past others : History) : Prop where
  glimpses_eq : others.map side.glimpse = (past.filter side.keeps).map side.glimpse
  unseen : ∀ episode ∈ past, side.foreign episode.action = true → side.Unseen episode

/-- What has happened looks the same from the side as if nothing foreign had been done. -/
structure Undisturbed (radio : Radio) (fallbackBatch : Nat) (past : History)
    (scanner : Coordinator) (others : History × Coordinator) : Prop where
  run : Run radio fallbackBatch others.1 others.2
  looksLike : side.LooksLike past others.1
  session_eq : side.session others.2 = side.session scanner

end Side

/-! ### One step -/

namespace SingleSession

variable (session : SingleSession) (radio : Radio) (around : Surroundings)

theorem turn_of_foreign {action : Action} (hforeign : Side.single.foreign action = true) :
    session.turn radio around action = ⟨[], session⟩ := by
  cases action with
  | startOffload request listener => rfl
  | resetOffload => rfl
  | driverEvent event =>
    cases event with
    | offloadResultsAvailable => rfl
    | offloadFailed => rfl
    | _ => cases hforeign
  | _ => cases hforeign

theorem isOffload_finish? {scan : ActiveScan} {turn : Turn SingleSession}
    (hfinish : session.finish? = some (scan, turn)) :
    ∀ effect ∈ turn.effects, effect.isOffload = false := by
  obtain ⟨_, _, heq⟩ := Option.map_eq_some_iff.mp hfinish
  obtain ⟨-, rfl⟩ := Prod.mk.inj heq
  intro effect hmem
  obtain ⟨call, -, rfl⟩ := List.mem_map.mp hmem
  rfl

theorem isOffload_fail (reason : Reason) :
    ∀ effect ∈ (session.fail reason).effects, effect.isOffload = false := by
  rw [fail]
  cases hfinish : session.finish? with
  | none => simp
  | some ended =>
    obtain ⟨scan, turn⟩ := ended
    intro effect hmem
    rcases List.mem_append.mp hmem with hcalls | htold
    · exact session.isOffload_finish? hfinish effect hcalls
    · rw [List.mem_singleton.mp htold]
      rfl

theorem isOffload_deliver :
    ∀ effect ∈ (session.deliver radio around).effects, effect.isOffload = false := by
  rw [deliver]
  cases hfinish : session.finish? with
  | none => simp
  | some ended =>
    obtain ⟨scan, turn⟩ := ended
    intro effect hmem
    simp only [List.append_assoc, List.mem_append] at hmem
    rcases hmem with hcalls | hfetch | hfull | htold
    · exact session.isOffload_finish? hfinish effect hcalls
    · rw [List.mem_singleton.mp hfetch]
      rfl
    · split at hfull
      · rw [List.mem_singleton.mp hfull]
        rfl
      · cases hfull
    · rw [List.mem_singleton.mp htold]
      rfl

theorem isOffload_alarmRings (id : AlarmId) :
    ∀ effect ∈ (session.alarmRings id).effects, effect.isOffload = false := by
  rw [alarmRings]
  split
  · simp
  · next deferred alarms _ =>
    dsimp only
    split
    · exact isOffload_fail { session with alarms } deferred.reason
    · simp

theorem isOffload_cleanup :
    ∀ effect ∈ session.cleanup.effects, effect.isOffload = false := by
  intro effect hmem
  rcases List.mem_append.mp hmem with hfail | hcalls
  · exact session.isOffload_fail .unspecified effect hfail
  · obtain ⟨call, -, rfl⟩ := List.mem_map.mp hcalls
    rfl

theorem isOffload_begun (request : ScanRequest) (listener : ListenerId) :
    ∀ effect ∈ (session.begun radio around request listener).effects,
      effect.isOffload = false := by
  intro effect hmem
  rcases List.mem_append.mp hmem with hcalls | hscheduled
  · obtain ⟨call, hcall, rfl⟩ := List.mem_map.mp hcalls
    rcases mem_openingCalls.mp hcall with ⟨rfl, -⟩ | ⟨rfl, -⟩ <;> rfl
  · rw [List.mem_singleton.mp hscheduled]
    rfl

/-- The session of single scans does nothing about offloaded ones. -/
theorem isOffload_turn (action : Action) :
    ∀ effect ∈ (session.turn radio around action).effects, effect.isOffload = false := by
  cases action with
  | startScan request listener =>
    by_cases hadmits : session.Admits request
    · rw [session.turn_startScan_of_admits radio around hadmits]
      exact session.isOffload_begun radio around request listener
    · rw [session.turn_startScan_of_not_admits radio around hadmits]
      simp
  | driverEvent event =>
    cases event with
    | scanFailed reason => exact session.isOffload_fail reason
    | scanResultsAvailable => exact session.isOffload_deliver radio around
    | _ => simp [turn]
  | runTask id => exact session.isOffload_alarmRings id
  | cleanup => exact session.isOffload_cleanup
  | _ => simp [turn]

end SingleSession

namespace OffloadSession

variable (session : OffloadSession) (radio : Radio) (around : Surroundings)

theorem turn_of_foreign {action : Action} (hforeign : Side.offload.foreign action = true) :
    session.turn radio around action = ⟨[], session⟩ := by
  cases action with
  | startScan request listener => rfl
  | driverEvent event =>
    cases event with
    | scanFailed reason => rfl
    | scanResultsAvailable => rfl
    | _ => cases hforeign
  | runTask id => rfl
  | _ => cases hforeign

/-- Whatever the session of offloaded scans does is about offloaded scans. -/
theorem isOffload_turn (action : Action) :
    ∀ effect ∈ (session.turn radio around action).effects, effect.isOffload = true := by
  have hpassage : Passage session radio around action (session.turn radio around action) :=
    session.turn_passage action
  generalize session.turn radio around action = turn at hpassage
  cases hpassage <;> simp [Effect.isOffload, DriverCall.isOffload, Radio.call]

end OffloadSession

namespace Coordinator

variable (scanner : Coordinator) (around : Surroundings) (action : Action)

/-- The effects about single scans are those of the session of single scans. -/
theorem filter_single_effects :
    (scanner.step around action).effects.filter Side.single.concerns =
      (scanner.single.turn scanner.radio around action).effects := by
  have hsingle : (scanner.single.turn scanner.radio around action).effects.filter
      Side.single.concerns = (scanner.single.turn scanner.radio around action).effects := by
    refine List.filter_eq_self.mpr fun effect hmem ↦ ?_
    simp [Side.single, scanner.single.isOffload_turn _ _ _ effect hmem]
  have hoffload : (scanner.offload.turn scanner.radio around action).effects.filter
      Side.single.concerns = [] := by
    refine List.filter_eq_nil_iff.mpr fun effect hmem ↦ ?_
    simp [Side.single, scanner.offload.isOffload_turn _ _ _ effect hmem]
  rw [effects_step, List.filter_append, hsingle, hoffload, List.append_nil]

/-- The effects about offloaded scans are those of the session of offloaded scans. -/
theorem filter_offload_effects :
    (scanner.step around action).effects.filter Side.offload.concerns =
      (scanner.offload.turn scanner.radio around action).effects := by
  have hsingle : (scanner.single.turn scanner.radio around action).effects.filter
      Side.offload.concerns = [] := by
    refine List.filter_eq_nil_iff.mpr fun effect hmem ↦ ?_
    simp [Side.offload, scanner.single.isOffload_turn _ _ _ effect hmem]
  have hoffload : (scanner.offload.turn scanner.radio around action).effects.filter
      Side.offload.concerns = (scanner.offload.turn scanner.radio around action).effects := by
    refine List.filter_eq_self.mpr fun effect hmem ↦ ?_
    exact scanner.offload.isOffload_turn _ _ _ effect hmem
  rw [effects_step, List.filter_append, hsingle, hoffload, List.nil_append]

end Coordinator

namespace Side

variable {σ ν : Type} {side : Side σ ν}

/-- The scanners cannot be told apart from the side. -/
structure Alike (side : Side σ ν) (first second : Coordinator) : Prop where
  radio_eq : first.radio = second.radio
  session_eq : side.session first = side.session second

/-- A foreign action leaves the session alone and does nothing that concerns it. What any other
action does there is the same in scanners that are alike. -/
structure Closed (side : Side σ ν) : Prop where
  session_of_foreign : ∀ {scanner : Coordinator} {around : Surroundings} {action : Action},
    side.foreign action = true →
      side.session (scanner.step around action).next = side.session scanner
  effects_of_foreign : ∀ {scanner : Coordinator} {around : Surroundings} {action : Action},
    side.foreign action = true → (scanner.step around action).effects.filter side.concerns = []
  rejection_eq : ∀ {first second : Coordinator} {around : Surroundings} {action : Action},
    side.Alike first second → side.foreign action = false →
      (first.step around action).rejection = (second.step around action).rejection
  effects_eq : ∀ {first second : Coordinator} {around : Surroundings} {action : Action},
    side.Alike first second → (first.step around action).effects.filter side.concerns =
      (second.step around action).effects.filter side.concerns
  session_eq : ∀ {first second : Coordinator} {around : Surroundings} {action : Action},
    side.Alike first second → side.session (first.step around action).next =
      side.session (second.step around action).next

theorem closed_single : single.Closed where
  session_of_foreign := by
    intro scanner around action hforeign
    exact (scanner.single_next_step around action).trans
      (congrArg Turn.next (scanner.single.turn_of_foreign _ around hforeign))
  effects_of_foreign := by
    intro scanner around action hforeign
    rw [Coordinator.filter_single_effects, scanner.single.turn_of_foreign _ around hforeign]
  rejection_eq := by
    intro first second around action halike hown
    have hsession : first.single = second.single := halike.session_eq
    cases action with
    | startScan request listener =>
      rw [Coordinator.rejection_startScan, Coordinator.rejection_startScan, hsession]
    | startOffload request listener => cases hown
    | resetOffload => cases hown
    | _ => rfl
  effects_eq := by
    intro first second around action halike
    have hsession : first.single = second.single := halike.session_eq
    rw [Coordinator.filter_single_effects, Coordinator.filter_single_effects, halike.radio_eq,
      hsession]
  session_eq := by
    intro first second around action halike
    have hsession : first.single = second.single := halike.session_eq
    change (first.step around action).next.single = (second.step around action).next.single
    rw [Coordinator.single_next_step, Coordinator.single_next_step, halike.radio_eq, hsession]

theorem closed_offload : offload.Closed where
  session_of_foreign := by
    intro scanner around action hforeign
    exact (scanner.offload_next_step around action).trans
      (congrArg Turn.next (scanner.offload.turn_of_foreign _ around hforeign))
  effects_of_foreign := by
    intro scanner around action hforeign
    rw [Coordinator.filter_offload_effects, scanner.offload.turn_of_foreign _ around hforeign]
  rejection_eq := by
    intro first second around action halike hown
    have hsession : first.offload = second.offload := halike.session_eq
    cases action with
    | startOffload request listener =>
      rw [Coordinator.rejection_startOffload, Coordinator.rejection_startOffload, hsession]
    | resetOffload =>
      rw [Coordinator.rejection_resetOffload, Coordinator.rejection_resetOffload, hsession]
    | startScan request listener => cases hown
    | _ => rfl
  effects_eq := by
    intro first second around action halike
    have hsession : first.offload = second.offload := halike.session_eq
    rw [Coordinator.filter_offload_effects, Coordinator.filter_offload_effects, halike.radio_eq,
      hsession]
  session_eq := by
    intro first second around action halike
    have hsession : first.offload = second.offload := halike.session_eq
    change (first.step around action).next.offload = (second.step around action).next.offload
    rw [Coordinator.offload_next_step, Coordinator.offload_next_step, halike.radio_eq, hsession]

variable {first second : Coordinator} {around : Surroundings} {action : Action}

theorem Closed.unseen (hclosed : side.Closed) {episode : Episode}
    (hforeign : side.foreign episode.action = true) : side.Unseen episode :=
  ⟨hclosed.effects_of_foreign hforeign,
    congrArg side.shown (hclosed.session_of_foreign hforeign)⟩

theorem Closed.glimpse_eq (hclosed : side.Closed) (halike : side.Alike first second)
    (hown : side.foreign action = false) :
    side.glimpse ⟨first, around, action⟩ = side.glimpse ⟨second, around, action⟩ := by
  simp only [glimpse, Episode.effects, Episode.reply, hclosed.rejection_eq halike hown,
    hclosed.effects_eq halike, hclosed.session_eq halike]

end Side

/-! ### Whole runs -/

namespace Coordinator

theorem play_append (past : History) (scanner : Coordinator)
    (script rest : List (Surroundings × Action)) :
    scanner.play past (script ++ rest) =
      (scanner.play past script).2.play (scanner.play past script).1 rest := by
  induction script generalizing past scanner with
  | nil => rfl
  | cons head script ih => exact ih _ _

end Coordinator

namespace Side

variable {σ ν : Type} {side : Side σ ν} {past others : History} {episode : Episode}

theorem script_snoc_of_foreign (hforeign : side.foreign episode.action = true) :
    side.script (past ++ [episode]) = side.script past := by
  simp [script, keeps, hforeign]

theorem script_snoc_of_own (hown : side.foreign episode.action = false) :
    side.script (past ++ [episode]) =
      side.script past ++ [(episode.around, episode.action)] := by
  simp [script, keeps, hown]

/-- Leaving out the foreign episodes leaves out nothing that is done for the side. -/
theorem flatMap_effects_filter_keeps (hunseen : ∀ episode ∈ past,
      side.foreign episode.action = true → side.Unseen episode) :
    ((past.filter side.keeps).flatMap fun episode ↦ (side.glimpse episode).effects) =
      past.flatMap fun episode ↦ episode.effects.filter side.concerns := by
  induction past with
  | nil => rfl
  | cons episode rest ih =>
    obtain ⟨hfirst, hrest⟩ := List.forall_mem_cons.mp hunseen
    rw [List.flatMap_cons, ← ih hrest]
    by_cases hforeign : side.foreign episode.action = true
    · have hlost : side.keeps episode = false := by simp [keeps, hforeign]
      rw [List.filter_cons_of_neg (by simp [hlost]), (hfirst hforeign).1, List.nil_append]
    · have hkept : side.keeps episode = true := by simp [keeps, hforeign]
      rw [List.filter_cons_of_pos hkept, List.flatMap_cons]
      rfl

namespace LooksLike

/-- What is done in the other history is done in the first one, in the same order. -/
theorem actions_eq (hlooks : side.LooksLike past others) :
    others.map Episode.action = (past.filter side.keeps).map Episode.action := by
  have hactions := congrArg (List.map Glimpse.action) hlooks.glimpses_eq
  rwa [List.map_map, List.map_map] at hactions

/-- All that is done for the side is the same. -/
theorem filter_effects_eq (hlooks : side.LooksLike past others) :
    others.effects.filter side.concerns = past.effects.filter side.concerns := by
  have hothers := congrArg (List.flatMap Glimpse.effects) hlooks.glimpses_eq
  rw [List.flatMap_map, List.flatMap_map] at hothers
  rw [History.effects, History.effects, List.filter_flatMap, List.filter_flatMap]
  exact hothers.trans (flatMap_effects_filter_keeps hlooks.unseen)

theorem listeners_subset (hlooks : side.LooksLike past others) :
    others.listeners ⊆ past.listeners := by
  have hothers : others.listeners = (others.map Episode.action).filterMap Action.listener? := by
    rw [List.filterMap_map]
    rfl
  rw [hothers, hlooks.actions_eq, List.filterMap_map]
  exact (List.filter_sublist.filterMap _).subset

theorem snoc_of_foreign (hlooks : side.LooksLike past others) (hunseen : side.Unseen episode)
    (hforeign : side.foreign episode.action = true) :
    side.LooksLike (past ++ [episode]) others := by
  refine ⟨?_, ?_⟩
  · rw [hlooks.glimpses_eq]
    simp [keeps, hforeign]
  · intro other hmem hother
    rcases List.mem_append.mp hmem with hpast | hlast
    · exact hlooks.unseen other hpast hother
    · rw [List.mem_singleton.mp hlast]
      exact hunseen

theorem snoc_of_own (hlooks : side.LooksLike past others) {other : Episode}
    (hglimpse : side.glimpse other = side.glimpse episode)
    (hown : side.foreign episode.action = false) :
    side.LooksLike (past ++ [episode]) (others ++ [other]) := by
  refine ⟨?_, ?_⟩
  · rw [List.map_append, hlooks.glimpses_eq]
    simp [keeps, hown, hglimpse]
  · intro seen hmem hforeign
    rcases List.mem_append.mp hmem with hpast | hlast
    · exact hlooks.unseen seen hpast hforeign
    · rw [List.mem_singleton.mp hlast, hown] at hforeign
      cases hforeign

end LooksLike

/-- What is done for a side stays possible when the foreign actions are left out. -/
def Permits (side : Side σ ν) : Prop :=
  ∀ {radio : Radio} {fallbackBatch : Nat} {past others : History} {scanner : Coordinator}
    {around : Surroundings} {action : Action}, Run radio fallbackBatch others scanner →
      side.LooksLike past others → Possible past around action → side.foreign action = false →
        Possible others around action

theorem permits_single : single.Permits := by
  intro radio fallbackBatch past others scanner around action run hlooks hpossible hown
  -- Only the side of single scans has tasks scheduled or run.
  have htasks : others.tasks = past.tasks := by
    have hkept : (fun effect ↦ if single.concerns effect then effect.task? else none) =
        Effect.task? := by
      funext effect
      cases effect with
      | driver interface call => simp [Effect.task?]
      | scheduler call => rfl
      | notify listener notice => simp [Effect.task?]
    have hall (effects : List Effect) :
        (effects.filter single.concerns).filterMap Effect.task? =
          effects.filterMap Effect.task? := by
      rw [List.filterMap_filter, hkept]
    rw [History.tasks, History.tasks, ← hall others.effects, hlooks.filter_effects_eq, hall]
  have hran : others.ran = past.ran := by
    have hothers : others.ran = (others.map Episode.action).filterMap Action.task? := by
      rw [List.filterMap_map]
      rfl
    have hkept : (fun episode : Episode ↦ if single.keeps episode then episode.action.task?
        else none) = fun episode ↦ episode.action.task? := by
      funext episode
      obtain ⟨scanner, around, action⟩ := episode
      cases action with
      | driverEvent event => cases event <;> rfl
      | _ => rfl
    rw [hothers, hlooks.actions_eq, List.filterMap_map, List.filterMap_filter, History.ran, ← hkept]
    rfl
  refine ⟨fun listener hlistener hmem ↦ ?_, ?_, ?_⟩
  · exact hpossible.listener_new listener hlistener (hlooks.listeners_subset hmem)
  · rw [htasks]
    exact hpossible.handle_new
  · rw [htasks, hran]
    exact hpossible.task_waits

theorem permits_offload : offload.Permits := by
  intro radio fallbackBatch past others scanner around action run hlooks hpossible hown
  -- Without single scans nothing is scheduled.
  have htasks : others.tasks = [] := by
    refine List.eq_nil_iff_forall_not_mem.mpr fun task hmem ↦ ?_
    obtain ⟨booking, hbooking, -⟩ := run.task_booked hmem
    have haction : booking.action ∈ (past.filter offload.keeps).map Episode.action := by
      rw [← hlooks.actions_eq]
      exact List.mem_map_of_mem hbooking
    obtain ⟨episode, hkept, heq⟩ := List.mem_map.mp haction
    have hkeeps := (List.mem_filter.mp hkept).2
    rw [keeps, heq, booking.action_eq] at hkeeps
    cases hkeeps
  refine ⟨fun listener hlistener hmem ↦ ?_, ?_, fun alarm halarm ↦ ?_⟩
  · exact hpossible.listener_new listener hlistener (hlooks.listeners_subset hmem)
  · rw [htasks]
    exact List.not_mem_nil
  · cases action with
    | runTask id => cases hown
    | _ => cases halarm

/-- Leaving out the foreign actions of a run leaves a run that looks the same from the side. -/
theorem Closed.undisturbed (hclosed : side.Closed) (hpermits : side.Permits) {radio : Radio}
    {fallbackBatch : Nat} {scanner : Coordinator} (run : Run radio fallbackBatch past scanner) :
    side.Undisturbed radio fallbackBatch past scanner
      ((Coordinator.fresh radio fallbackBatch).play [] (side.script past)) := by
  induction run with
  | fresh => exact ⟨.fresh, ⟨rfl, by simp⟩, rfl⟩
  | @snoc past scanner around action run hpossible ih =>
    by_cases hforeign : side.foreign action = true
    · rw [script_snoc_of_foreign hforeign]
      refine ⟨ih.run, ih.looksLike.snoc_of_foreign (hclosed.unseen hforeign) hforeign, ?_⟩
      rw [ih.session_eq, hclosed.session_of_foreign hforeign]
    · have hown : side.foreign action = false := Bool.eq_false_iff.mpr hforeign
      rw [script_snoc_of_own hown, Coordinator.play_append]
      have halike : side.Alike
          ((Coordinator.fresh radio fallbackBatch).play [] (side.script past)).2 scanner :=
        ⟨ih.run.radio_eq.trans run.radio_eq.symm, ih.session_eq⟩
      exact ⟨ih.run.snoc (hpermits ih.run ih.looksLike hpossible hown),
        ih.looksLike.snoc_of_own (hclosed.glimpse_eq halike hown) hown,
        hclosed.session_eq halike⟩

end Side

namespace Run

variable {radio : Radio} {fallbackBatch : Nat} {past : History} {scanner : Coordinator}

/-- Had nobody asked for offloaded scans, nor the driver reported on them, single scans would have
gone the same way: the same requests would have been turned down, and the driver, the scheduler and
the listeners of single scans would have been told the same, with the same results to show after
each step. And had there been no single scans, nor reports on them, nor tasks run, offloaded scans
would have gone the same way. -/
theorem sides_independent (run : Run radio fallbackBatch past scanner) :
    Side.single.Undisturbed radio fallbackBatch past scanner
        ((Coordinator.fresh radio fallbackBatch).play [] (Side.single.script past)) ∧
      Side.offload.Undisturbed radio fallbackBatch past scanner
        ((Coordinator.fresh radio fallbackBatch).play [] (Side.offload.script past)) :=
  ⟨Side.closed_single.undisturbed Side.permits_single run,
    Side.closed_offload.undisturbed Side.permits_offload run⟩

/-- While the radio looks for networks, a request for a single scan ends with results. Another one
is refused by the driver, and reported when the radio no longer looks for networks. Both kinds of
scans are going on once more when the scanner is cleaned up. -/
def interleaved : List (Surroundings × Action) :=
  let named := { ScanRequest.ofChannel 2412 0#32 with hidden := some [[1], [2], [3]] }
  let anyNetwork : OffloadRequest := ⟨false, 0, 0, 0, 0, []⟩
  [({ Surroundings.calm 1 with probeLimit := 3 }, .startScan named ⟨1⟩),
    (.calm 2, .startOffload anyNetwork ⟨2⟩),
    ({ Surroundings.calm 2 with offloadResults := [sighted 5180 3] },
      .driverEvent .offloadResultsAvailable),
    ({ Surroundings.calm 2 with scanResults := [sighted 2412 5] },
      .driverEvent .scanResultsAvailable),
    ({ Surroundings.calm 2 with scanRefusal := some .busy }, .startScan named ⟨3⟩),
    (.calm 3, .resetOffload),
    (.calm 3, .runTask ⟨2⟩),
    (.calm 3, .startOffload anyNetwork ⟨4⟩),
    (.calm 3, .startScan named ⟨5⟩),
    (.calm 4, .cleanup)]

theorem sides_independent_interleaved :
    let (past, scanner) := Coordinator.play [] .specimen interleaved
    let singles := Coordinator.play [] .specimen (Side.single.script past)
    let offloads := Coordinator.play [] .specimen (Side.offload.script past)
    Coordinator.Playable [] .specimen interleaved ∧
      Side.single.Undisturbed Coordinator.specimen.radio 16 past scanner singles ∧
      Side.offload.Undisturbed Coordinator.specimen.radio 16 past scanner offloads ∧
      past.length = 10 ∧ singles.1.length = 6 ∧ offloads.1.length = 5 ∧
      singles.1.heardBy ⟨3⟩ = [.scan (.failed .busy)] ∧
      offloads.1.heardBy ⟨2⟩ = past.heardBy ⟨2⟩ := by
  have hplayable : Coordinator.Playable [] .specimen interleaved := by decide
  obtain ⟨hsingle, hoffload⟩ := sides_independent (Run.fresh.play interleaved hplayable)
  exact ⟨hplayable, hsingle, hoffload, by decide, by decide, by decide, by decide, by decide⟩

end Run

end RadioScan
