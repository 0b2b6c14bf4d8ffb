import RadioScan.Proofs.Sides

/-!
The session of single scans and its registry. A session is either vacant, with no alarm in the
registry, or serves one request, whose alarm is the only one there. From such a session each
operation does one thing that can be written down without the registry's searches, and
`SingleSession.turn_passage` is the list of everything that a turn can come to. Every later fact
about single scans is read off that list.
-/

set_option autoImplicit false
set_option relaxedAutoImplicit false

namespace RadioScan

namespace Alarms

variable {ε : Type} {alarms : Alarms ε} {alarm : Alarm ε} {id : AlarmId}

/-- The registry with every alarm taken out. -/
def cleared (alarms : Alarms ε) : Alarms ε := { alarms with live := [] }

@[simp] theorem issued_cleared : alarms.cleared.issued = alarms.issued := rfl

@[simp] theorem live_cleared : alarms.cleared.live = [] := rfl

theorem cleared_of_live_eq_nil (hlive : alarms.live = []) : alarms.cleared = alarms := by
  rw [cleared, ← hlive]

theorem remove_of_live_eq_singleton (hlive : alarms.live = [alarm]) :
    alarms.remove alarm.id = alarms.cleared := by
  simp [remove, cleared, hlive]

theorem cancel_of_live_eq_singleton (hlive : alarms.live = [alarm]) :
    alarms.cancel alarm.id = ([.cancel alarm.task], alarms.cleared) := by
  simp [cancel, find?, hlive, remove_of_live_eq_singleton hlive]

theorem trigger_of_live_eq_singleton (hlive : alarms.live = [alarm]) :
    alarms.trigger alarm.id = (some alarm.event, alarms.cleared) := by
  simp [trigger, find?, hlive, remove_of_live_eq_singleton hlive]

/-- A number that is not in the registry triggers nothing. -/
theorem trigger_of_not_live (hlive : ∀ alarm ∈ alarms.live, alarm.id ≠ id) :
    alarms.trigger id = (none, alarms) := by
  have hfind : alarms.find? id = none := by simpa [find?] using hlive
  have hremove : alarms.remove id = alarms := by
    simp only [remove]
    rw [List.filter_eq_self.mpr fun alarm halarm ↦ by simpa using hlive alarm halarm]
  rw [trigger, hfind, hremove]
  rfl

theorem cancelAll_of_live_eq_nil (hlive : alarms.live = []) :
    alarms.cancelAll = ([], alarms) := by
  have hcleared := cleared_of_live_eq_nil hlive
  rw [cancelAll, hlive]
  exact Prod.ext rfl hcleared

end Alarms

/-! ### What a request amounts to -/

namespace ScanRequest

variable (request : ScanRequest) (radio : Radio) (around : Surroundings)

/-- The channels that a request asks for. -/
def channels : ChannelSet := radio.plan.gather request.buckets

/-- Why a request cannot be scanned for: it names no channel, or the driver refuses it. `none` when
the driver takes it. -/
def refusal? : Option Reason :=
  if (request.channels radio).isEmpty then some .unspecified else around.scanRefusal

/-- The request as it occupies a session. -/
def scan (listener : ListenerId) : ActiveScan where
  startNanos := around.nanos
  wantsFullResults := request.buckets.any Bucket.wantsFullResults
  requested := request.channels radio
  listener := listener

/-- What the driver is asked to scan, given the networks to probe. -/
def order (probes : List Ssid) : ScanOrder where
  effort := request.effort
  channels := request.channels radio
  probes := probes
  neighbourReports := request.neighbourReports
  vendorElements := request.vendorElements

end ScanRequest

namespace ActiveScan

variable (scan : ActiveScan) (radio : Radio) (around : Surroundings)

/-- The driver's results that belong to a request, in the driver's order. -/
def kept : List Sighting :=
  (Screened.ofScan scan.startNanos scan.requested around.scanResults).kept

/-- What the listener is told when results end the request. -/
def resultNotices : List ScanNotice :=
  (if scan.wantsFullResults then [.fullResults (scan.kept around) 0] else [])
    ++ [.resultsAvailable]

/-- What is there to show when results have ended the request. -/
def snapshot : Snapshot :=
  { Snapshot.blank with
    scannedBands := radio.plan.coveredBands scan.requested
    results := Sighting.presented (scan.kept around) }

/-- Tells the listener of a request something. -/
def tell (notice : ScanNotice) : Effect := .notify scan.listener (.scan notice)

end ActiveScan

@[simp] theorem Phase.occupant?_ofRefusal (scan : ActiveScan) (id : AlarmId)
    (refusal : Option Reason) : (Phase.ofRefusal scan id refusal).occupant? = some (scan, id) := by
  cases refusal <;> rfl

theorem Deferred.reason_ofRefusal (refusal : Option Reason) :
    (Deferred.ofRefusal refusal).reason = refusal.getD .timeout := by
  cases refusal <;> rfl

namespace SingleSession

variable {session : SingleSession} {scan : ActiveScan} {alarm : Alarm Deferred} {id : AlarmId}
variable {radio : Radio} {around : Surroundings} {request : ScanRequest} {listener : ListenerId}

/-- No request occupies the session, and no alarm is left. -/
structure Vacant (session : SingleSession) : Prop where
  phase_eq : session.phase = .idle
  live_eq : session.alarms.live = []

/-- The session is occupied by the request, and nothing but its alarm is in the registry. -/
structure Serves (session : SingleSession) (scan : ActiveScan) (alarm : Alarm Deferred) :
    Prop where
  occupant_eq : session.phase.occupant? = some (scan, alarm.id)
  live_eq : session.alarms.live = [alarm]

/-- The listener of the request that occupies the session. -/
def listener? (session : SingleSession) : Option ListenerId :=
  session.phase.occupant?.map fun (scan, _) ↦ scan.listener

/-- The session when its request has ended. -/
def vacated (session : SingleSession) : SingleSession :=
  { session with phase := .idle, alarms := session.alarms.cleared }

/-- What the driver is asked when a request is taken on. -/
def openingCalls (session : SingleSession) (radio : Radio) (around : Surroundings)
    (request : ScanRequest) : List DriverCall :=
  let pick := session.pickProbes request.hidden around.probeLimit
  (if pick.asked then [.askProbeLimit] else [])
    ++ (if (request.channels radio).isEmpty then []
      else [.scan (request.order radio pick.chosen)])

/-- The turn that takes on a request. -/
def begun (session : SingleSession) (radio : Radio) (around : Surroundings)
    (request : ScanRequest) (listener : ListenerId) : Turn SingleSession :=
  let refusal := request.refusal? radio around
  let deferred := Deferred.ofRefusal refusal
  let id := session.alarms.nextId
  { effects := (session.openingCalls radio around request).map radio.call
      ++ [.scheduler (.schedule around.nextHandle deferred.tag deferred.delayMillis id)]
    next :=
      { session with
        phase := .ofRefusal (request.scan radio around listener) id refusal
        alarms := session.alarms.schedule deferred around.nextHandle
        rotation := (session.pickProbes request.hidden around.probeLimit).next } }

/-- The turn that ends a request with the driver's results. -/
def delivered (session : SingleSession) (radio : Radio) (around : Surroundings)
    (scan : ActiveScan) (alarm : Alarm Deferred) : Turn SingleSession :=
  ⟨[.scheduler (.cancel alarm.task), radio.call .fetchScanResults]
      ++ (scan.resultNotices around).map scan.tell,
    { session.vacated with
      fetched := some around.scanResults, latest := scan.snapshot radio around }⟩

/-- A number that is not in the registry does nothing. -/
theorem alarmRings_of_not_live (hlive : ∀ alarm ∈ session.alarms.live, alarm.id ≠ id) :
    session.alarmRings id = ⟨[], session⟩ := by
  rw [alarmRings, Alarms.trigger_of_not_live hlive]

/-! ### Operations of a vacant session -/

theorem start_of_idle (hidle : session.phase = .idle)
    (hfit : request.buckets.length ≤ Capabilities.standard.buckets) :
    session.start radio around request listener =
      (session.begun radio around request listener).reply := by
  rw [start, if_neg (not_not_intro hidle), if_neg (Nat.not_lt.mpr hfit)]
  by_cases hempty : (radio.plan.gather request.buckets).isEmpty <;>
    by_cases hasked : (session.pickProbes request.hidden around.probeLimit).asked <;>
    simp [Turn.reply, begun, openingCalls, ScanRequest.channels, ScanRequest.order, ScanRequest.scan,
      ScanRequest.refusal?, hempty, hasked]

theorem finish?_of_idle (hidle : session.phase = .idle) : session.finish? = none := by
  rw [finish?, hidle]
  rfl

theorem fail_of_idle (hidle : session.phase = .idle) (reason : Reason) :
    session.fail reason = ⟨[], session⟩ := by
  rw [fail, finish?_of_idle hidle]

theorem deliver_of_idle (hidle : session.phase = .idle) :
    session.deliver radio around = ⟨[], session⟩ := by
  rw [deliver, finish?_of_idle hidle]

theorem Vacant.alarmRings (hvacant : session.Vacant) (id : AlarmId) :
    session.alarmRings id = ⟨[], session⟩ :=
  alarmRings_of_not_live (by simp [hvacant.live_eq])

theorem Vacant.cleanup (hvacant : session.Vacant) :
    session.cleanup = ⟨[], { session with rotation := session.rotation.reset }⟩ := by
  rw [SingleSession.cleanup, fail_of_idle hvacant.phase_eq]
  simp only [Alarms.cancelAll_of_live_eq_nil hvacant.live_eq]
  rfl

/-! ### Operations of a session that serves a request -/

theorem Serves.phase_ne_idle (hserves : session.Serves scan alarm) : session.phase ≠ .idle := by
  intro hidle
  have hoccupant := hserves.occupant_eq
  rw [hidle] at hoccupant
  cases hoccupant

theorem Serves.start (hserves : session.Serves scan alarm) :
    session.start radio around request listener = ⟨some .scanInProgress, [], session⟩ := by
  rw [SingleSession.start, if_pos hserves.phase_ne_idle]

theorem Serves.finish? (hserves : session.Serves scan alarm) :
    session.finish? = some (scan, ⟨[.scheduler (.cancel alarm.task)], session.vacated⟩) := by
  simp [SingleSession.finish?, hserves.occupant_eq,
    Alarms.cancel_of_live_eq_singleton hserves.live_eq, vacated]

theorem Serves.fail (hserves : session.Serves scan alarm) (reason : Reason) :
    session.fail reason =
      ⟨[.scheduler (.cancel alarm.task), scan.tell (.failed reason)], session.vacated⟩ := by
  rw [SingleSession.fail, hserves.finish?]
  rfl

theorem Serves.deliver (hserves : session.Serves scan alarm) :
    session.deliver radio around = session.delivered radio around scan alarm := by
  rw [SingleSession.deliver, hserves.finish?]
  simp only [delivered, ActiveScan.resultNotices, ActiveScan.kept, List.map_append,
    apply_ite (List.map scan.tell), List.map_nil, List.map_cons, ← List.append_assoc]
  rfl

/-- The alarm is out of the registry by the time the request ends, so that there is no task left to
be dropped. -/
theorem Serves.alarmRings_self (hserves : session.Serves scan alarm) :
    session.alarmRings alarm.id =
      ⟨[scan.tell (.failed alarm.event.reason)], session.vacated⟩ := by
  simp only [SingleSession.alarmRings, Alarms.trigger_of_live_eq_singleton hserves.live_eq]
  rw [hserves.occupant_eq]
  simp [SingleSession.fail, SingleSession.finish?, hserves.occupant_eq, Alarms.cancel,
    Alarms.find?, Alarms.remove, Alarms.cleared, vacated, ActiveScan.tell]

theorem Serves.alarmRings_of_ne (hserves : session.Serves scan alarm) (hne : id ≠ alarm.id) :
    session.alarmRings id = ⟨[], session⟩ :=
  alarmRings_of_not_live (by simpa [hserves.live_eq] using Ne.symm hne)

theorem Serves.cleanup (hserves : session.Serves scan alarm) :
    session.cleanup =
      ⟨[.scheduler (.cancel alarm.task), scan.tell (.failed .unspecified)],
        { session.vacated with rotation := session.rotation.reset }⟩ := by
  rw [SingleSession.cleanup, hserves.fail]
  rfl

/-! ### Everything a turn can come to -/

/-- The session is vacant or serves a request. -/
def Sound (session : SingleSession) : Prop :=
  session.Vacant ∨ ∃ scan alarm, session.Serves scan alarm

/-- What can come of an action for a sound session. Either the request there stays, with the
rotation as the only thing that may change; or one is taken on; or the one there ends, by its own
alarm, by a failure that has the task of its alarm dropped, or by results. -/
inductive Passage (session : SingleSession) (radio : Radio) (around : Surroundings) :
    Action → Turn SingleSession → Prop
  | kept {action : Action} (rotation : Rotation)
      (hquiet : ∀ scan alarm, session.Serves scan alarm → action ≠ .runTask alarm.id) :
      Passage session radio around action ⟨[], { session with rotation }⟩
  | begun {request : ScanRequest} {listener : ListenerId} (hvacant : session.Vacant)
      (hfit : request.buckets.length ≤ Capabilities.standard.buckets) :
      Passage session radio around (.startScan request listener)
        (session.begun radio around request listener)
  | rung {scan : ActiveScan} {alarm : Alarm Deferred} (hserves : session.Serves scan alarm) :
      Passage session radio around (.runTask alarm.id)
        ⟨[scan.tell (.failed alarm.event.reason)], session.vacated⟩
  | failed {action : Action} {scan : ActiveScan} {alarm : Alarm Deferred}
      (hserves : session.Serves scan alarm) (reason : Reason) (rotation : Rotation) :
      Passage session radio around action
        ⟨[.scheduler (.cancel alarm.task), scan.tell (.failed reason)],
          { session.vacated with rotation }⟩
  | delivered {scan : ActiveScan} {alarm : Alarm Deferred} (hserves : session.Serves scan alarm) :
      Passage session radio around (.driverEvent .scanResultsAvailable)
        (session.delivered radio around scan alarm)

theorem Serves.listener?_eq (hserves : session.Serves scan alarm) :
    session.listener? = some scan.listener := by
  rw [listener?, hserves.occupant_eq]
  rfl

theorem Vacant.not_serves (hvacant : session.Vacant) : ¬ session.Serves scan alarm :=
  fun hserves ↦ hserves.phase_ne_idle hvacant.phase_eq

theorem Serves.unique {other : ActiveScan} {second : Alarm Deferred}
    (hserves : session.Serves scan alarm) (hother : session.Serves other second) :
    other = scan ∧ second = alarm := by
  have hoccupant := hserves.occupant_eq.symm.trans hother.occupant_eq
  have hlive := hserves.live_eq.symm.trans hother.live_eq
  simp only [Option.some.injEq, Prod.mk.injEq, List.cons.injEq, and_true] at hoccupant hlive
  exact ⟨hoccupant.1.symm, hlive.symm⟩

theorem Vacant.turn_passage (hvacant : session.Vacant) (action : Action) :
    Passage session radio around action (session.turn radio around action) := by
  have hkept {action : Action} (rotation : Rotation) :
      Passage session radio around action ⟨[], { session with rotation }⟩ :=
    .kept rotation fun _ _ hserves ↦ absurd hserves hvacant.not_serves
  cases action with
  | startScan request listener =>
    by_cases hfit : request.buckets.length ≤ Capabilities.standard.buckets
    · rw [turn, start_of_idle hvacant.phase_eq hfit]
      exact .begun hvacant hfit
    · have hstart : session.start radio around request listener =
          ⟨some .tooManyBuckets, [], session⟩ := by
        rw [SingleSession.start, if_neg (not_not_intro hvacant.phase_eq),
          if_pos (Nat.lt_of_not_le hfit)]
      rw [turn, hstart]
      exact hkept _
  | startBatchedScan request listener => exact hkept _
  | startOffload request listener => exact hkept _
  | resetOffload => exact hkept _
  | driverEvent event =>
    cases event with
    | scanFailed reason =>
      rw [turn, fail_of_idle hvacant.phase_eq]
      exact hkept _
    | scanResultsAvailable =>
      rw [turn, deliver_of_idle hvacant.phase_eq]
      exact hkept _
    | offloadResultsAvailable => exact hkept _
    | offloadFailed => exact hkept _
  | runTask id =>
    rw [turn, hvacant.alarmRings]
    exact hkept _
  | cleanup =>
    rw [turn, hvacant.cleanup]
    exact hkept _

theorem Serves.turn_passage (hserves : session.Serves scan alarm) (action : Action) :
    Passage session radio around action (session.turn radio around action) := by
  have hkept {action : Action} (haction : action ≠ .runTask alarm.id) :
      Passage session radio around action ⟨[], session⟩ := by
    refine .kept session.rotation fun other second hother ↦ ?_
    rw [(hserves.unique hother).2]
    exact haction
  cases action with
  | startScan request listener =>
    rw [turn, hserves.start]
    exact hkept (by simp)
  | startBatchedScan request listener => exact hkept (by simp)
  | startOffload request listener => exact hkept (by simp)
  | resetOffload => exact hkept (by simp)
  | driverEvent event =>
    cases event with
    | scanFailed reason =>
      rw [turn, hserves.fail]
      exact .failed hserves reason session.rotation
    | scanResultsAvailable =>
      rw [turn, hserves.deliver]
      exact .delivered hserves
    | offloadResultsAvailable => exact hkept (by simp)
    | offloadFailed => exact hkept (by simp)
  | runTask id =>
    by_cases hid : id = alarm.id
    · rw [turn, hid, hserves.alarmRings_self]
      exact .rung hserves
    · rw [turn, hserves.alarmRings_of_ne hid]
      exact hkept (by simpa using hid)
  | cleanup =>
    rw [turn, hserves.cleanup]
    exact .failed hserves .unspecified session.rotation.reset

theorem Sound.turn_passage (hsound : session.Sound) (action : Action) :
    Passage session radio around action (session.turn radio around action) := by
  rcases hsound with hvacant | ⟨scan, alarm, hserves⟩
  · exact hvacant.turn_passage action
  · exact hserves.turn_passage action

/-- Numbers are given to alarms in ascending order. -/
theorem Passage.issued_le {action : Action} {turn : Turn SingleSession}
    (hpassage : session.Passage radio around action turn) :
    session.alarms.issued ≤ turn.next.alarms.issued := by
  cases hpassage with
  | kept _ _ => exact Nat.le_refl _
  | begun _ _ => exact Nat.le_succ _
  | rung _ => exact Nat.le_refl _
  | failed _ _ _ => exact Nat.le_refl _
  | delivered _ => exact Nat.le_refl _

/-- A session that takes on a request serves it. -/
theorem Vacant.serves_begun (hvacant : session.Vacant) (radio : Radio) (around : Surroundings)
    (request : ScanRequest) (listener : ListenerId) :
    (session.begun radio around request listener).next.Serves
      (request.scan radio around listener)
      ⟨session.alarms.nextId, .ofRefusal (request.refusal? radio around), around.nextHandle⟩ := by
  refine ⟨Phase.occupant?_ofRefusal _ _ _, ?_⟩
  rw [begun, Alarms.schedule, hvacant.live_eq]
  rfl

theorem Passage.sound {action : Action} {turn : Turn SingleSession} (hsound : session.Sound)
    (hpassage : session.Passage radio around action turn) : turn.next.Sound := by
  cases hpassage with
  | kept rotation _ =>
    rcases hsound with hvacant | ⟨scan, alarm, hserves⟩
    · exact Or.inl ⟨hvacant.phase_eq, hvacant.live_eq⟩
    · exact Or.inr ⟨scan, alarm, hserves.occupant_eq, hserves.live_eq⟩
  | @begun request listener hvacant _ =>
    exact Or.inr ⟨_, _, hvacant.serves_begun radio around request listener⟩
  | rung _ => exact Or.inl ⟨rfl, rfl⟩
  | failed _ _ _ => exact Or.inl ⟨rfl, rfl⟩
  | delivered _ => exact Or.inl ⟨rfl, rfl⟩

/-- The request in the session after a turn was there before it or comes with the action. -/
theorem Passage.listener?_next {action : Action} {turn : Turn SingleSession}
    (hpassage : session.Passage radio around action turn)
    (hnext : turn.next.listener? = some listener) :
    session.listener? = some listener ∨ ∃ request, action = .startScan request listener := by
  cases hpassage with
  | kept _ _ => exact Or.inl hnext
  | @begun request other hvacant _ =>
    rw [(hvacant.serves_begun radio around request other).listener?_eq] at hnext
    obtain rfl := Option.some.inj hnext
    exact Or.inr ⟨request, rfl⟩
  | rung _ => cases hnext
  | failed _ _ _ => cases hnext
  | delivered _ => cases hnext

end SingleSession

end RadioScan
