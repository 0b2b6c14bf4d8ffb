import RadioScan.Proofs.Sides

/-!
The session of offloaded scans. What comes of an action depends on whether a request runs
(`OffloadSession.turn_of_idle`, `OffloadSession.turn_of_active`). `OffloadSession.turn_passage`
lists everything that a turn can come to: a request is started, or refused by the driver on the
spot; the one that runs finds networks, fails, is withdrawn, or is dropped in a cleanup; or nothing
happens.
-/

set_option autoImplicit false
set_option relaxedAutoImplicit false

namespace RadioScan.OffloadSession

variable {session : OffloadSession} {radio : Radio} {around : Surroundings} {scan : ActiveOffload}

/-- The session with no request running. -/
def vacated (session : OffloadSession) : OffloadSession := { session with active := none }

/-- A request as it runs. -/
def engaged (around : Surroundings) (request : OffloadRequest) (listener : ListenerId) :
    ActiveOffload :=
  ⟨around.nanos, request.networks, listener⟩

/-! ### A turn -/

/-- With no request running, emptying the session changes nothing. -/
theorem reset_of_idle (hidle : session.active = none) :
    session.reset radio = ⟨some .noOffloadRunning, [], session⟩ := by
  have hemptied : { session with active := none } = session := by rw [← hidle]
  simp only [reset, hidle, Option.isNone_none, if_true]
  rw [hemptied]

/-- What comes of an action while no request runs. -/
theorem turn_of_idle (hidle : session.active = none) (action : Action) :
    session.turn radio around action =
      match action with
      | .startOffload request listener =>
        if around.requiresOffload request.connected = true then
          if around.offloadRefusal = none then
            ⟨[radio.call (.startOffload request)],
              { session with active := some (engaged around request listener) }⟩
          else
            ⟨[radio.call (.startOffload request), .notify listener (.offload .failed)],
              session.vacated⟩
        else ⟨[], session⟩
      | .cleanup => ⟨[radio.call .stopOffload], session.vacated⟩
      | _ => ⟨[], session⟩ := by
  cases action with
  | startOffload request listener =>
    rw [turn, start, if_neg (by simp [hidle])]
    by_cases hrequired : around.requiresOffload request.connected = true
    · rw [if_neg (by simp [hrequired])]
      simp only [if_pos hrequired]
      cases around.offloadRefusal <;> rfl
    · rw [if_pos (by simpa using hrequired)]
      simp only [if_neg hrequired]
      rfl
  | resetOffload =>
    rw [turn, reset_of_idle hidle]
    rfl
  | driverEvent event =>
    cases event with
    | offloadResultsAvailable => simp only [turn, deliver, hidle]
    | offloadFailed => simp only [turn, fail, hidle]
    | _ => rfl
  | _ => rfl

/-- What comes of an action while a request runs. -/
theorem turn_of_active (hactive : session.active = some scan) (action : Action) :
    session.turn radio around action =
      match action with
      | .resetOffload => ⟨[radio.call .stopOffload], session.vacated⟩
      | .driverEvent .offloadResultsAvailable =>
        ⟨[radio.call .fetchOffloadResults, .notify scan.listener (.offload
            (.networkFound (Screened.ofOffload scan.startNanos around.offloadResults).kept))],
          { session with fetched := some around.offloadResults }⟩
      | .driverEvent .offloadFailed =>
        ⟨[.notify scan.listener (.offload .failed)], session.vacated⟩
      | .cleanup => ⟨[radio.call .stopOffload], session.vacated⟩
      | _ => ⟨[], session⟩ := by
  cases action with
  | startOffload request listener =>
    rw [turn, start, if_pos (by simp [hactive])]
    rfl
  | resetOffload =>
    rw [turn, reset, if_neg (by simp [hactive])]
    rfl
  | driverEvent event =>
    cases event with
    | offloadResultsAvailable => simp only [turn, deliver, hactive]
    | offloadFailed =>
      simp only [turn, fail, hactive]
      rfl
    | _ => rfl
  | _ => rfl

/-- What can come of an action. -/
inductive Passage (session : OffloadSession) (radio : Radio) (around : Surroundings) :
    Action → Turn OffloadSession → Prop
  | kept {action : Action} : Passage session radio around action ⟨[], session⟩
  | started {request : OffloadRequest} {listener : ListenerId} (hidle : session.active = none)
      (hrequired : around.requiresOffload request.connected = true)
      (htaken : around.offloadRefusal = none) :
      Passage session radio around (.startOffload request listener)
        ⟨[radio.call (.startOffload request)],
          { session with active := some (engaged around request listener) }⟩
  | refused {request : OffloadRequest} {listener : ListenerId} {reason : Reason}
      (hidle : session.active = none)
      (hrequired : around.requiresOffload request.connected = true)
      (hrefusal : around.offloadRefusal = some reason) :
      Passage session radio around (.startOffload request listener)
        ⟨[radio.call (.startOffload request), .notify listener (.offload .failed)],
          session.vacated⟩
  | withdrawn {scan : ActiveOffload} (hactive : session.active = some scan) :
      Passage session radio around .resetOffload ⟨[radio.call .stopOffload], session.vacated⟩
  | found {scan : ActiveOffload} (hactive : session.active = some scan) :
      Passage session radio around (.driverEvent .offloadResultsAvailable)
        ⟨[radio.call .fetchOffloadResults, .notify scan.listener (.offload
            (.networkFound (Screened.ofOffload scan.startNanos around.offloadResults).kept))],
          { session with fetched := some around.offloadResults }⟩
  | failed {scan : ActiveOffload} (hactive : session.active = some scan) :
      Passage session radio around (.driverEvent .offloadFailed)
        ⟨[.notify scan.listener (.offload .failed)], session.vacated⟩
  | cleaned : Passage session radio around .cleanup ⟨[radio.call .stopOffload], session.vacated⟩

theorem turn_passage (action : Action) :
    Passage session radio around action (session.turn radio around action) := by
  cases hactive : session.active with
  | none =>
    rw [turn_of_idle hactive]
    cases action with
    | startOffload request listener =>
      dsimp only
      split
      · next hrequired =>
        split
        · next htaken => exact .started hactive hrequired htaken
        · next hrefused =>
          obtain ⟨reason, hrefusal⟩ := Option.ne_none_iff_exists'.mp hrefused
          exact .refused hactive hrequired hrefusal
      · exact .kept
    | cleanup => exact .cleaned
    | _ => exact .kept
  | some scan =>
    rw [turn_of_active hactive]
    cases action with
    | resetOffload => exact .withdrawn hactive
    | driverEvent event =>
      cases event with
      | offloadResultsAvailable => exact .found hactive
      | offloadFailed => exact .failed hactive
      | _ => exact .kept
    | cleanup => exact .cleaned
    | _ => exact .kept

/-- The request that runs after a turn ran before it or comes with the action. -/
theorem Passage.active_next {action : Action} {turn : Turn OffloadSession}
    (hpassage : session.Passage radio around action turn) (hactive : turn.next.active = some scan) :
    session.active = some scan ∨ ∃ request, action = .startOffload request scan.listener := by
  cases hpassage with
  | kept => exact Or.inl hactive
  | @started request listener hidle hrequired htaken =>
    obtain rfl := Option.some.inj hactive
    exact Or.inr ⟨request, rfl⟩
  | found _ => exact Or.inl hactive
  | refused _ _ _ => cases hactive
  | withdrawn _ => cases hactive
  | failed _ => cases hactive
  | cleaned => cases hactive

end RadioScan.OffloadSession
