import RadioScan.Coordinator

/-!
A step of the scanner, side by side. An action means something to the session of single scans, to
the session of offloaded scans, to both, or to neither; `SingleSession.turn` and
`OffloadSession.turn` say what it means to each alone. A step does what the one turn does and then
what the other does, and nothing else (`Coordinator.effects_step`, `Coordinator.next_step`).
-/

set_option autoImplicit false
set_option relaxedAutoImplicit false

namespace RadioScan

/-- The part of the session of single scans in a step. -/
def SingleSession.turn (session : SingleSession) (radio : Radio) (around : Surroundings) :
    Action → Turn SingleSession
  | .startScan request listener =>
    (session.start radio around request listener).turn
  | .driverEvent (.scanFailed reason) => session.fail reason
  | .driverEvent .scanResultsAvailable => session.deliver radio around
  | .runTask alarm => session.alarmRings alarm
  | .cleanup => session.cleanup
  | _ => ⟨[], session⟩

/-- The part of the session of offloaded scans in a step. -/
def OffloadSession.turn (session : OffloadSession) (radio : Radio) (around : Surroundings) :
    Action → Turn OffloadSession
  | .startOffload request listener =>
    (session.start radio around request listener).turn
  | .resetOffload => (session.reset radio).turn
  | .driverEvent .offloadResultsAvailable => session.deliver radio around
  | .driverEvent .offloadFailed => session.fail
  | .cleanup => session.cleanup radio
  | _ => ⟨[], session⟩

namespace Coordinator

variable (scanner : Coordinator) (around : Surroundings) (action : Action)

theorem effects_step :
    (scanner.step around action).effects =
      (scanner.single.turn scanner.radio around action).effects ++
        (scanner.offload.turn scanner.radio around action).effects := by
  cases action with
  | startScan request listener =>
    exact (List.append_nil _).symm
  | startBatchedScan request listener => rfl
  | startOffload request listener => rfl
  | resetOffload => rfl
  | driverEvent event =>
    cases event with
    | scanFailed reason => exact (List.append_nil _).symm
    | scanResultsAvailable => exact (List.append_nil _).symm
    | offloadResultsAvailable => rfl
    | offloadFailed => rfl
  | runTask alarm => exact (List.append_nil _).symm
  | cleanup => rfl

theorem next_step :
    (scanner.step around action).next =
      ⟨scanner.radio, (scanner.single.turn scanner.radio around action).next,
        (scanner.offload.turn scanner.radio around action).next⟩ := by
  cases action with
  | startScan request listener => rfl
  | startBatchedScan request listener => rfl
  | startOffload request listener => rfl
  | resetOffload => rfl
  | driverEvent event => cases event <;> rfl
  | runTask alarm => rfl
  | cleanup => rfl

@[simp] theorem radio_next_step : (scanner.step around action).next.radio = scanner.radio := by
  rw [next_step]

@[simp] theorem single_next_step :
    (scanner.step around action).next.single =
      (scanner.single.turn scanner.radio around action).next := by
  rw [next_step]

@[simp] theorem offload_next_step :
    (scanner.step around action).next.offload =
      (scanner.offload.turn scanner.radio around action).next := by
  rw [next_step]

end Coordinator

end RadioScan
