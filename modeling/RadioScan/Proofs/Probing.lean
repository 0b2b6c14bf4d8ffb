import RadioScan.Proofs.Run

/-!
What moves the rotation. A turn leaves it alone unless it takes on a request, which picks the
networks to probe whether or not the driver then scans for them, or cleans up, which starts the
rotation afresh (`SingleSession.rotation_turn`).
-/

set_option autoImplicit false
set_option relaxedAutoImplicit false

namespace RadioScan

namespace SingleSession

variable (session : SingleSession) (radio : Radio) (around : Surroundings)

theorem fallbackBatch_pickProbes (hidden : Option (List Ssid)) (answer : Int32) :
    (session.pickProbes hidden answer).next.fallbackBatch = session.rotation.fallbackBatch := by
  cases hidden with
  | none => rfl
  | some networks => rfl

theorem rotation_finish? {scan : ActiveScan} {turn : Turn SingleSession}
    (hfinish : session.finish? = some (scan, turn)) :
    turn.next.rotation = session.rotation := by
  obtain ⟨_, _, heq⟩ := Option.map_eq_some_iff.mp hfinish
  obtain ⟨-, rfl⟩ := Prod.mk.inj heq
  rfl

theorem rotation_fail (reason : Reason) :
    (session.fail reason).next.rotation = session.rotation := by
  rw [fail]
  cases hfinish : session.finish? with
  | none => rfl
  | some ended =>
    obtain ⟨scan, turn⟩ := ended
    have hrotation : turn.next.rotation = session.rotation := session.rotation_finish? hfinish
    exact hrotation

theorem rotation_deliver :
    (session.deliver radio around).next.rotation = session.rotation := by
  rw [deliver]
  cases hfinish : session.finish? with
  | none => rfl
  | some ended =>
    obtain ⟨scan, turn⟩ := ended
    have hrotation : turn.next.rotation = session.rotation := session.rotation_finish? hfinish
    exact hrotation

theorem rotation_alarmRings (id : AlarmId) :
    (session.alarmRings id).next.rotation = session.rotation := by
  rw [alarmRings]
  split
  · rfl
  · next deferred alarms _ =>
    by_cases hcurrent : session.phase.occupant?.map Prod.snd = some id
    · simp only [hcurrent, if_true]
      exact rotation_fail { session with alarms } deferred.reason
    · simp only [hcurrent, if_false]

theorem rotation_cleanup : session.cleanup.next.rotation = session.rotation.reset := by
  have hfail := session.rotation_fail .unspecified
  rw [cleanup]
  simp only [hfail]

/-- The request would be taken on: no other one occupies the session, and it is not too large. -/
def Admits (request : ScanRequest) : Prop :=
  session.phase = .idle ∧ request.buckets.length ≤ Capabilities.standard.buckets

instance (request : ScanRequest) : Decidable (session.Admits request) :=
  inferInstanceAs (Decidable (session.phase = .idle ∧
    request.buckets.length ≤ Capabilities.standard.buckets))

theorem turn_startScan_of_admits {request : ScanRequest} {listener : ListenerId}
    (hadmits : session.Admits request) :
    session.turn radio around (.startScan request listener) =
      session.begun radio around request listener := by
  rw [turn, start_of_idle hadmits.1 hadmits.2]
  rfl

theorem turn_startScan_of_not_admits {request : ScanRequest} {listener : ListenerId}
    (hadmits : ¬ session.Admits request) :
    session.turn radio around (.startScan request listener) = ⟨[], session⟩ := by
  rw [turn, start]
  by_cases hidle : session.phase = .idle
  · have hmany : Capabilities.standard.buckets < request.buckets.length :=
      Nat.lt_of_not_le fun hfit ↦ hadmits ⟨hidle, hfit⟩
    rw [if_neg (not_not_intro hidle), if_pos hmany]
    rfl
  · rw [if_pos hidle]
    rfl

/-- The rotation after a turn. -/
theorem rotation_turn (action : Action) :
    (session.turn radio around action).next.rotation =
      match action with
      | .startScan request _ =>
        if session.Admits request then
          (session.pickProbes request.hidden around.probeLimit).next
        else session.rotation
      | .cleanup => session.rotation.reset
      | _ => session.rotation := by
  cases action with
  | startScan request listener =>
    by_cases hadmits : session.Admits request
    · rw [session.turn_startScan_of_admits radio around hadmits]
      exact (if_pos hadmits).symm
    · rw [session.turn_startScan_of_not_admits radio around hadmits]
      exact (if_neg hadmits).symm
  | startBatchedScan request listener => rfl
  | startOffload request listener => rfl
  | resetOffload => rfl
  | driverEvent event =>
    cases event with
    | scanFailed reason => exact session.rotation_fail reason
    | scanResultsAvailable => exact session.rotation_deliver radio around
    | offloadResultsAvailable => rfl
    | offloadFailed => rfl
  | runTask id => exact session.rotation_alarmRings id
  | cleanup => exact session.rotation_cleanup

theorem fallbackBatch_turn (action : Action) :
    (session.turn radio around action).next.rotation.fallbackBatch =
      session.rotation.fallbackBatch := by
  rw [rotation_turn]
  cases action with
  | startScan request listener =>
    by_cases hadmits : session.Admits request
    · simp only [if_pos hadmits]
      exact session.fallbackBatch_pickProbes _ _
    · simp only [if_neg hadmits]
  | cleanup => rfl
  | _ => rfl

end SingleSession

theorem Run.fallbackBatch_eq {radio : Radio} {fallbackBatch : Nat} {past : History}
    {scanner : Coordinator} (run : Run radio fallbackBatch past scanner) :
    scanner.single.rotation.fallbackBatch = fallbackBatch := by
  induction run with
  | fresh => rfl
  | snoc run hpossible ih =>
    rw [Coordinator.single_next_step, SingleSession.fallbackBatch_turn, ih]

end RadioScan
