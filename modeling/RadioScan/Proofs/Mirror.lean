import RadioScan.Proofs.Probing
import RadioScan.Proofs.Rejection
import RadioScan.Proofs.Results

/-!
Two scanners in the same position. They may have numbered different numbers of alarms and have been
given different handles by the scheduler, as a `Renaming` says, and they may have different results
to show. Apart from that, what one does is what the other does, in every action but the run of a
task of which only one of them knows (`Coordinator.Mirrors.effects_step`,
`Coordinator.Mirrors.next_step`).
-/

set_option autoImplicit false
set_option relaxedAutoImplicit false

namespace RadioScan

/-- How the names of alarms and tasks in one scanner go over into those in another, which has
numbered `issued` alarms fewer and whose scheduler gives other handles. -/
structure Renaming where
  issued : Nat
  rename : TaskHandle → TaskHandle

namespace Renaming

variable (names : Renaming)

def alarmId (id : AlarmId) : AlarmId := ⟨id.number - names.issued⟩

def alarm (alarm : Alarm Deferred) : Alarm Deferred :=
  ⟨names.alarmId alarm.id, alarm.event, names.rename alarm.task⟩

/-- What the other scanner does when this one does something. -/
def effect : Effect → Effect
  | .scheduler (.schedule handle tag delayMillis alarm) =>
    .scheduler (.schedule (names.rename handle) tag delayMillis (names.alarmId alarm))
  | .scheduler (.cancel handle) => .scheduler (.cancel (names.rename handle))
  | .driver interface call => .driver interface call
  | .notify listener notice => .notify listener notice

/-- The same answers, but for the handle that the scheduler gives. -/
def surroundings (around : Surroundings) : Surroundings :=
  { around with nextHandle := names.rename around.nextHandle }

/-- What is done to the other scanner when an action is done to this one. It knows nothing of the
alarms that this one had numbered before. -/
def action? : Action → Option Action
  | .runTask id => if id.number ≤ names.issued then none else some (.runTask (names.alarmId id))
  | action => some action

/-- A task that the other scanner knows belongs to an alarm that was numbered since. -/
theorem of_action?_runTask {id : AlarmId} {other : Action}
    (haction : names.action? (.runTask id) = some other) :
    names.issued < id.number ∧ other = .runTask (names.alarmId id) := by
  by_cases hold : id.number ≤ names.issued
  · rw [action?, if_pos hold] at haction
    cases haction
  · rw [action?, if_neg hold] at haction
    exact ⟨Nat.lt_of_not_le hold, (Option.some.inj haction).symm⟩

@[simp] theorem effect_call (radio : Radio) (call : DriverCall) :
    names.effect (radio.call call) = radio.call call := rfl

@[simp] theorem effect_tell (scan : ActiveScan) (notice : ScanNotice) :
    names.effect (scan.tell notice) = scan.tell notice := rfl

@[simp] theorem map_effect_map_call (radio : Radio) (calls : List DriverCall) :
    (calls.map radio.call).map names.effect = calls.map radio.call := by
  simp

@[simp] theorem map_effect_map_tell (scan : ActiveScan) (notices : List ScanNotice) :
    (notices.map scan.tell).map names.effect = notices.map scan.tell := by
  simp

theorem alarmId_inj {first second : AlarmId} (hfirst : names.issued < first.number)
    (hsecond : names.issued < second.number)
    (heq : names.alarmId first = names.alarmId second) : first = second := by
  have hnumber := AlarmId.mk.inj heq
  obtain ⟨first⟩ := first
  obtain ⟨second⟩ := second
  have hsame : first = second := by
    simp only at hfirst hsecond hnumber
    omega
  rw [hsame]

end Renaming

/-! ### Sessions of single scans -/

namespace SingleSession

variable {session used new : SingleSession} {names : Renaming} {radio : Radio}
variable {around : Surroundings}

/-- Both sessions are vacant, or both serve the same request, with alarms that correspond. -/
inductive Paired (names : Renaming) (used new : SingleSession) : Prop
  | vacant (hused : used.Vacant) (hnew : new.Vacant)
  | serving {scan : ActiveScan} {alarm : Alarm Deferred} (hused : used.Serves scan alarm)
      (hnew : new.Serves scan (names.alarm alarm)) (hid : names.issued < alarm.id.number)

/-- The sessions are in the same position. What they have to show is left open. -/
structure Mirrors (names : Renaming) (used new : SingleSession) : Prop where
  paired : Paired names used new
  rotation_eq : used.rotation = new.rotation
  issued_eq : used.alarms.issued = names.issued + new.alarms.issued

/-- The turns do the same outwardly and leave sessions in the same position. -/
structure SameTurn (names : Renaming) (used new : Turn SingleSession) : Prop where
  effects_eq : used.effects.map names.effect = new.effects
  next : used.next.Mirrors names new.next

namespace Mirrors

theorem quiet (hmirrors : used.Mirrors names new) :
    SameTurn names ⟨[], used⟩ ⟨[], new⟩ := ⟨rfl, hmirrors⟩

theorem sound (hmirrors : used.Mirrors names new) : used.Sound ∧ new.Sound := by
  cases hmirrors.paired with
  | vacant hused hnew => exact ⟨Or.inl hused, Or.inl hnew⟩
  | serving hused hnew _ => exact ⟨Or.inr ⟨_, _, hused⟩, Or.inr ⟨_, _, hnew⟩⟩

theorem idle_iff (hmirrors : used.Mirrors names new) :
    used.phase = .idle ↔ new.phase = .idle := by
  cases hmirrors.paired with
  | vacant hused hnew => exact iff_of_true hused.phase_eq hnew.phase_eq
  | serving hused hnew _ => exact iff_of_false hused.phase_ne_idle hnew.phase_ne_idle

theorem begun (hmirrors : used.Mirrors names new) (hused : used.Vacant) (hnew : new.Vacant)
    (request : ScanRequest) (listener : ListenerId) :
    SameTurn names (used.begun radio around request listener)
      (new.begun radio (names.surroundings around) request listener) := by
  have hpick : new.pickProbes request.hidden around.probeLimit =
      used.pickProbes request.hidden around.probeLimit := by
    simp only [pickProbes, hmirrors.rotation_eq]
  have hid : names.alarmId used.alarms.nextId = new.alarms.nextId := by
    show AlarmId.mk (used.alarms.issued + 1 - names.issued) = ⟨new.alarms.issued + 1⟩
    rw [hmirrors.issued_eq, Nat.add_assoc, Nat.add_sub_cancel_left]
  refine ⟨?_, ?_⟩
  · have hcalls : used.openingCalls radio around request =
        new.openingCalls radio (names.surroundings around) request := by
      rw [openingCalls, openingCalls, ← hpick]
      rfl
    rw [SingleSession.begun, List.map_append, Renaming.map_effect_map_call, hcalls]
    show _ ++ [Effect.scheduler (.schedule _ _ _ (names.alarmId used.alarms.nextId))] = _
    rw [hid]
    rfl
  · refine ⟨.serving (hused.serves_begun radio around request listener) ?_ ?_, ?_, ?_⟩
    · rw [Renaming.alarm, hid]
      exact hnew.serves_begun radio (names.surroundings around) request listener
    · show names.issued < used.alarms.issued + 1
      rw [hmirrors.issued_eq]
      omega
    · exact congrArg Rotation.Pick.next hpick.symm
    · show used.alarms.issued + 1 = names.issued + (new.alarms.issued + 1)
      rw [hmirrors.issued_eq, Nat.add_assoc]

theorem startScan (hmirrors : used.Mirrors names new) (request : ScanRequest)
    (listener : ListenerId) :
    SameTurn names (used.turn radio around (.startScan request listener))
      (new.turn radio (names.surroundings around) (.startScan request listener)) := by
  by_cases hadmits : used.Admits request
  · have hnewAdmits : new.Admits request := ⟨hmirrors.idle_iff.mp hadmits.1, hadmits.2⟩
    rw [used.turn_startScan_of_admits radio around hadmits,
      new.turn_startScan_of_admits radio _ hnewAdmits]
    cases hmirrors.paired with
    | vacant hused hnew => exact hmirrors.begun hused hnew request listener
    | serving hused _ _ => exact absurd hadmits.1 hused.phase_ne_idle
  · have hnewAdmits : ¬ new.Admits request := fun hnew ↦
      hadmits ⟨hmirrors.idle_iff.mpr hnew.1, hnew.2⟩
    rw [used.turn_startScan_of_not_admits radio around hadmits,
      new.turn_startScan_of_not_admits radio _ hnewAdmits]
    exact hmirrors.quiet

theorem fail (hmirrors : used.Mirrors names new) (reason : Reason) :
    SameTurn names (used.fail reason) (new.fail reason) := by
  cases hmirrors.paired with
  | vacant hused hnew =>
    rw [fail_of_idle hused.phase_eq, fail_of_idle hnew.phase_eq]
    exact hmirrors.quiet
  | serving hused hnew _ =>
    rw [hused.fail, hnew.fail]
    refine ⟨rfl, ⟨.vacant ⟨rfl, rfl⟩ ⟨rfl, rfl⟩, hmirrors.rotation_eq, hmirrors.issued_eq⟩⟩

theorem deliver (hmirrors : used.Mirrors names new) :
    SameTurn names (used.deliver radio around)
      (new.deliver radio (names.surroundings around)) := by
  cases hmirrors.paired with
  | vacant hused hnew =>
    rw [deliver_of_idle hused.phase_eq, deliver_of_idle hnew.phase_eq]
    exact hmirrors.quiet
  | serving hused hnew _ =>
    rw [hused.deliver, hnew.deliver]
    refine ⟨?_, ⟨.vacant ⟨rfl, rfl⟩ ⟨rfl, rfl⟩, hmirrors.rotation_eq, hmirrors.issued_eq⟩⟩
    rw [delivered, delivered, List.map_append, Renaming.map_effect_map_tell]
    rfl

theorem alarmRings (hmirrors : used.Mirrors names new) {id : AlarmId}
    (hid : names.issued < id.number) :
    SameTurn names (used.alarmRings id) (new.alarmRings (names.alarmId id)) := by
  cases hmirrors.paired with
  | vacant hused hnew =>
    rw [hused.alarmRings, hnew.alarmRings]
    exact hmirrors.quiet
  | @serving scan alarm hused hnew halarm =>
    by_cases hown : id = alarm.id
    · have hnewOwn : names.alarmId id = (names.alarm alarm).id := by rw [hown]; rfl
      rw [hnewOwn, hown, hused.alarmRings_self, hnew.alarmRings_self]
      exact ⟨rfl, ⟨.vacant ⟨rfl, rfl⟩ ⟨rfl, rfl⟩, hmirrors.rotation_eq, hmirrors.issued_eq⟩⟩
    · have hnewOther : names.alarmId id ≠ (names.alarm alarm).id := fun heq ↦
        hown (names.alarmId_inj hid halarm heq)
      rw [hused.alarmRings_of_ne hown, hnew.alarmRings_of_ne hnewOther]
      exact hmirrors.quiet

/-- The task of an alarm that only one of the sessions knew does nothing there. -/
theorem alarmRings_of_le (hmirrors : used.Mirrors names new) {id : AlarmId}
    (hid : id.number ≤ names.issued) : used.alarmRings id = ⟨[], used⟩ := by
  cases hmirrors.paired with
  | vacant hused _ => exact hused.alarmRings id
  | serving hused _ halarm =>
    refine hused.alarmRings_of_ne ?_
    rintro rfl
    exact Nat.not_lt.mpr hid halarm

theorem cleanup (hmirrors : used.Mirrors names new) :
    SameTurn names used.cleanup new.cleanup := by
  cases hmirrors.paired with
  | vacant hused hnew =>
    rw [hused.cleanup, hnew.cleanup]
    refine ⟨rfl, ⟨.vacant ⟨hused.phase_eq, hused.live_eq⟩ ⟨hnew.phase_eq, hnew.live_eq⟩, ?_,
      hmirrors.issued_eq⟩⟩
    exact congrArg Rotation.reset hmirrors.rotation_eq
  | serving hused hnew _ =>
    rw [hused.cleanup, hnew.cleanup]
    refine ⟨rfl, ⟨.vacant ⟨rfl, rfl⟩ ⟨rfl, rfl⟩, ?_, hmirrors.issued_eq⟩⟩
    exact congrArg Rotation.reset hmirrors.rotation_eq

/-- Sessions in the same position do the same, and stay in the same position. -/
theorem turn (hmirrors : used.Mirrors names new) {action other : Action}
    (haction : names.action? action = some other) :
    SameTurn names (used.turn radio around action)
      (new.turn radio (names.surroundings around) other) := by
  cases action with
  | startScan request listener =>
    obtain rfl := Option.some.inj haction
    exact hmirrors.startScan request listener
  | startBatchedScan request listener =>
    obtain rfl := Option.some.inj haction
    exact hmirrors.quiet
  | startOffload request listener =>
    obtain rfl := Option.some.inj haction
    exact hmirrors.quiet
  | resetOffload =>
    obtain rfl := Option.some.inj haction
    exact hmirrors.quiet
  | driverEvent event =>
    obtain rfl := Option.some.inj haction
    cases event with
    | scanFailed reason => exact hmirrors.fail reason
    | scanResultsAvailable => exact hmirrors.deliver
    | offloadResultsAvailable => exact hmirrors.quiet
    | offloadFailed => exact hmirrors.quiet
  | runTask id =>
    obtain ⟨hnew, rfl⟩ := names.of_action?_runTask haction
    exact hmirrors.alarmRings hnew
  | cleanup =>
    obtain rfl := Option.some.inj haction
    exact hmirrors.cleanup

/-- Results that end the requests of both leave the same to show. -/
theorem results_deliver (hmirrors : used.Mirrors names new) (hbusy : used.phase ≠ .idle) :
    (used.deliver radio around).next.latest =
        (new.deliver radio (names.surroundings around)).next.latest ∧
      (used.deliver radio around).next.fetched =
        (new.deliver radio (names.surroundings around)).next.fetched := by
  cases hmirrors.paired with
  | vacant hused _ => exact absurd hused.phase_eq hbusy
  | serving hused hnew _ =>
    rw [hused.deliver, hnew.deliver]
    exact ⟨rfl, rfl⟩

end Mirrors

end SingleSession

/-! ### Sessions of offloaded scans -/

namespace OffloadSession

variable {session used new : OffloadSession} {names : Renaming} {radio : Radio}
variable {around : Surroundings} {action : Action}

/-- The session of offloaded scans makes no use of the scheduler. -/
theorem Passage.map_effect {turn : Turn OffloadSession}
    (hpassage : session.Passage radio around action turn) (names : Renaming) :
    turn.effects.map names.effect = turn.effects := by
  cases hpassage <;> rfl

/-- What a session does depends on the request that runs, and not on the results it has to show. -/
theorem turn_of_active_eq (hactive : used.active = new.active) {other : Action}
    (haction : names.action? action = some other) :
    (used.turn radio around action).effects =
        (new.turn radio (names.surroundings around) other).effects ∧
      (used.turn radio around action).next.active =
        (new.turn radio (names.surroundings around) other).next.active := by
  obtain ⟨active, fetched⟩ := used
  obtain ⟨_, fetched'⟩ := new
  obtain rfl : active = _ := hactive
  cases action with
  | startScan request listener =>
    obtain rfl := Option.some.inj haction
    exact ⟨rfl, rfl⟩
  | startBatchedScan request listener =>
    obtain rfl := Option.some.inj haction
    exact ⟨rfl, rfl⟩
  | startOffload request listener =>
    obtain rfl := Option.some.inj haction
    -- no handle is asked for, so that the answers may as well be the same
    have hsame : turn ⟨active, fetched'⟩ radio (names.surroundings around)
        (.startOffload request listener) =
          turn ⟨active, fetched'⟩ radio around (.startOffload request listener) := rfl
    rw [hsame]
    cases active with
    | none =>
      rw [turn_of_idle rfl, turn_of_idle rfl]
      dsimp only
      split
      · split <;> exact ⟨rfl, rfl⟩
      · exact ⟨rfl, rfl⟩
    | some scan =>
      rw [turn_of_active rfl, turn_of_active rfl]
      exact ⟨rfl, rfl⟩
  | resetOffload =>
    obtain rfl := Option.some.inj haction
    cases active <;> exact ⟨rfl, rfl⟩
  | driverEvent event =>
    obtain rfl := Option.some.inj haction
    cases event <;> cases active <;> exact ⟨rfl, rfl⟩
  | runTask id =>
    obtain ⟨_, rfl⟩ := names.of_action?_runTask haction
    exact ⟨rfl, rfl⟩
  | cleanup =>
    obtain rfl := Option.some.inj haction
    exact ⟨rfl, rfl⟩

end OffloadSession

/-! ### Scanners -/

namespace Coordinator

variable {used new : Coordinator} {names : Renaming} {around : Surroundings} {action : Action}

/-- The scanners are in the same position. -/
structure Mirrors (names : Renaming) (used new : Coordinator) : Prop where
  radio_eq : used.radio = new.radio
  single : used.single.Mirrors names new.single
  active_eq : used.offload.active = new.offload.active

namespace Mirrors

/-- A request is turned down by both scanners for the same reason, or by neither. -/
theorem rejection_step (hmirrors : used.Mirrors names new) {other : Action}
    (haction : names.action? action = some other) :
    (used.step around action).rejection =
      (new.step (names.surroundings around) other).rejection := by
  cases action with
  | startScan request listener =>
    obtain rfl := Option.some.inj haction
    simp only [rejection_startScan, ne_eq, hmirrors.single.idle_iff]
  | startBatchedScan request listener =>
    obtain rfl := Option.some.inj haction
    rfl
  | startOffload request listener =>
    obtain rfl := Option.some.inj haction
    rw [rejection_startOffload, rejection_startOffload, hmirrors.active_eq]
    rfl
  | resetOffload =>
    obtain rfl := Option.some.inj haction
    rw [rejection_resetOffload, rejection_resetOffload, hmirrors.active_eq]
  | driverEvent event =>
    obtain rfl := Option.some.inj haction
    rfl
  | runTask id =>
    obtain ⟨_, rfl⟩ := names.of_action?_runTask haction
    rfl
  | cleanup =>
    obtain rfl := Option.some.inj haction
    rfl

theorem effects_step (hmirrors : used.Mirrors names new) {other : Action}
    (haction : names.action? action = some other) :
    (used.step around action).effects.map names.effect =
      (new.step (names.surroundings around) other).effects := by
  have hoffload : (used.offload.turn new.radio around action).effects =
      (new.offload.turn new.radio (names.surroundings around) other).effects :=
    (OffloadSession.turn_of_active_eq hmirrors.active_eq haction).1
  rw [Coordinator.effects_step, Coordinator.effects_step, List.map_append, hmirrors.radio_eq,
    (hmirrors.single.turn haction).effects_eq,
    (used.offload.turn_passage action).map_effect names, hoffload]

theorem next_step (hmirrors : used.Mirrors names new) {other : Action}
    (haction : names.action? action = some other) :
    (used.step around action).next.Mirrors names
      (new.step (names.surroundings around) other).next where
  radio_eq := by rw [radio_next_step, radio_next_step, hmirrors.radio_eq]
  single := by
    rw [single_next_step, single_next_step, hmirrors.radio_eq]
    exact (hmirrors.single.turn haction).next
  active_eq := by
    rw [offload_next_step, offload_next_step, hmirrors.radio_eq]
    exact (OffloadSession.turn_of_active_eq hmirrors.active_eq haction).2

/-- A scanner does nothing when a task runs of which the other knows nothing. -/
theorem step_of_action?_eq_none (hmirrors : used.Mirrors names new)
    (haction : names.action? action = none) : used.step around action = ⟨none, [], used⟩ := by
  cases action with
  | runTask id =>
    by_cases hold : id.number ≤ names.issued
    · rw [step, hmirrors.single.alarmRings_of_le hold]
      rfl
    · rw [Renaming.action?, if_neg hold] at haction
      cases haction
  | _ => cases haction

end Mirrors

end Coordinator

end RadioScan
