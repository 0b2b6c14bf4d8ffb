import RadioScan.Proofs.Ledger

/-!
What a step asks of the driver. `Episode.calls` are the calls that an episode made, in order. The
session of single scans calls the driver when it takes on a request and when results end one, and
the session of offloaded scans whenever it does anything but fail; neither makes the calls of the
other.
-/

set_option autoImplicit false
set_option relaxedAutoImplicit false

namespace RadioScan

/-- The call that a driver receives, whatever its interface. -/
def Effect.call? : Effect → Option DriverCall
  | .driver _ call => some call
  | _ => none

/-- The calls to the driver among some effects. -/
def callsIn (effects : List Effect) : List DriverCall := effects.filterMap Effect.call?

/-- The call is about offloaded scans. -/
def DriverCall.isOffload : DriverCall → Bool
  | .startOffload _ => true
  | .stopOffload => true
  | .fetchOffloadResults => true
  | _ => false

namespace Episode

variable (episode : Episode)

def calls : List DriverCall := callsIn episode.effects

/-- What the session of single scans asked of the driver. -/
def singleCalls : List DriverCall :=
  callsIn (episode.scanner.single.turn episode.scanner.radio episode.around episode.action).effects

/-- What the session of offloaded scans asked of the driver. -/
def offloadCalls : List DriverCall :=
  callsIn (episode.scanner.offload.turn episode.scanner.radio episode.around
    episode.action).effects

end Episode

section Effects

variable {radio : Radio} {scan : ActiveScan}

@[simp] theorem callsIn_nil : callsIn [] = [] := rfl

@[simp] theorem callsIn_append (first second : List Effect) :
    callsIn (first ++ second) = callsIn first ++ callsIn second :=
  List.filterMap_append

@[simp] theorem callsIn_cons_call (call : DriverCall) (rest : List Effect) :
    callsIn (radio.call call :: rest) = call :: callsIn rest := rfl

@[simp] theorem callsIn_cons_scheduler (call : SchedulerCall) (rest : List Effect) :
    callsIn (.scheduler call :: rest) = callsIn rest := rfl

@[simp] theorem callsIn_cons_notify (listener : ListenerId) (notice : Notice)
    (rest : List Effect) : callsIn (.notify listener notice :: rest) = callsIn rest := rfl

@[simp] theorem callsIn_map_call (calls : List DriverCall) :
    callsIn (calls.map radio.call) = calls := by
  induction calls with
  | nil => rfl
  | cons call rest ih => rw [List.map_cons, callsIn_cons_call, ih]

@[simp] theorem callsIn_map_tell (notices : List ScanNotice) :
    callsIn (notices.map scan.tell) = [] := by
  induction notices with
  | nil => rfl
  | cons notice rest ih => exact ih

end Effects

/-! ### The calls of each session -/

namespace SingleSession

variable {session : SingleSession} {radio : Radio} {around : Surroundings} {action : Action}
variable {turn : Turn SingleSession}

@[simp] theorem callsIn_begun (request : ScanRequest) (listener : ListenerId) :
    callsIn (session.begun radio around request listener).effects =
      session.openingCalls radio around request := by
  rw [begun, callsIn_append, callsIn_map_call]
  exact List.append_nil _

@[simp] theorem callsIn_delivered (scan : ActiveScan) (alarm : Alarm Deferred) :
    callsIn (session.delivered radio around scan alarm).effects = [.fetchScanResults] := by
  rw [delivered, callsIn_append, callsIn_map_tell]
  rfl

theorem mem_openingCalls {request : ScanRequest} {call : DriverCall} :
    call ∈ session.openingCalls radio around request ↔
      (call = .askProbeLimit ∧
          (session.pickProbes request.hidden around.probeLimit).asked = true) ∨
        (call = .scan (request.order radio
            (session.pickProbes request.hidden around.probeLimit).chosen) ∧
          (request.channels radio).isEmpty = false) := by
  by_cases hasked : (session.pickProbes request.hidden around.probeLimit).asked <;>
    by_cases hempty : (request.channels radio).isEmpty <;>
      simp [openingCalls, hasked, hempty]

/-- A session calls the driver for a request that it takes on, and for results. -/
theorem Passage.calls_cases (hpassage : session.Passage radio around action turn) :
    callsIn turn.effects = [] ∨
      (∃ request listener, action = .startScan request listener ∧ session.Vacant ∧
        request.buckets.length ≤ Capabilities.standard.buckets ∧
        turn = session.begun radio around request listener ∧
        callsIn turn.effects = session.openingCalls radio around request) ∨
      callsIn turn.effects = [.fetchScanResults] := by
  cases hpassage with
  | kept _ _ => exact Or.inl rfl
  | @begun request listener hvacant hfit =>
    exact Or.inr (Or.inl ⟨request, listener, rfl, hvacant, hfit, rfl, callsIn_begun _ _⟩)
  | rung _ => exact Or.inl rfl
  | failed _ _ _ => exact Or.inl rfl
  | delivered _ => exact Or.inr (Or.inr (callsIn_delivered _ _))

theorem Passage.isOffload_eq_false (hpassage : session.Passage radio around action turn)
    {call : DriverCall} (hcall : call ∈ callsIn turn.effects) : call.isOffload = false := by
  rcases hpassage.calls_cases with hcalls | ⟨_, _, _, _, _, _, hcalls⟩ | hcalls <;>
    rw [hcalls] at hcall
  · cases hcall
  · rcases mem_openingCalls.mp hcall with ⟨rfl, _⟩ | ⟨rfl, _⟩ <;> rfl
  · rw [List.mem_singleton.mp hcall]
    rfl

end SingleSession

namespace OffloadSession

variable (session : OffloadSession) (radio : Radio) (around : Surroundings)

/-- What the session asks of the driver in a turn. -/
theorem callsIn_turn (action : Action) :
    callsIn (session.turn radio around action).effects =
      match action with
      | .startOffload request _ =>
        if session.active = none ∧ around.requiresOffload request.connected = true then
          [.startOffload request]
        else []
      | .resetOffload => if session.active = none then [] else [.stopOffload]
      | .driverEvent .offloadResultsAvailable =>
        if session.active = none then [] else [.fetchOffloadResults]
      | .cleanup => [.stopOffload]
      | _ => [] := by
  cases hactive : session.active with
  | none =>
    rw [turn_of_idle hactive]
    cases action with
    | startOffload request listener =>
      simp only [true_and]
      split
      · split <;> rfl
      · rfl
    | driverEvent event => cases event <;> rfl
    | _ => rfl
  | some scan =>
    rw [turn_of_active hactive]
    cases action with
    | driverEvent event => cases event <;> rfl
    | _ => rfl

end OffloadSession

theorem Episode.calls_eq (episode : Episode) :
    episode.calls = episode.singleCalls ++ episode.offloadCalls := by
  rw [calls, effects_eq, callsIn_append]
  rfl

theorem Episode.isOffload_of_mem_offloadCalls {episode : Episode} {call : DriverCall}
    (hcall : call ∈ episode.offloadCalls) : call.isOffload = true := by
  rw [offloadCalls, OffloadSession.callsIn_turn] at hcall
  split at hcall
  · split at hcall
    · exact List.mem_singleton.mp hcall ▸ rfl
    · cases hcall
  · split at hcall
    · cases hcall
    · exact List.mem_singleton.mp hcall ▸ rfl
  · split at hcall
    · cases hcall
    · exact List.mem_singleton.mp hcall ▸ rfl
  · exact List.mem_singleton.mp hcall ▸ rfl
  · cases hcall

/-! ### Calls in a run -/

namespace Run

variable {radio : Radio} {fallbackBatch : Nat} {past : History} {scanner : Coordinator}
variable {episode : Episode} {call : DriverCall}

/-- The calls about single scans in an episode are those of its session of single scans. -/
theorem mem_calls_of_single (hsingle : call.isOffload = false) :
    call ∈ episode.calls ↔ call ∈ episode.singleCalls := by
  rw [Episode.calls_eq, List.mem_append]
  refine or_iff_left fun hoffload ↦ ?_
  rw [Episode.isOffload_of_mem_offloadCalls hoffload] at hsingle
  cases hsingle

/-- The calls about offloaded scans in an episode are those of its session of offloaded scans. -/
theorem filter_isOffload_calls (run : Run radio fallbackBatch past scanner)
    (hmem : episode ∈ past) :
    episode.calls.filter DriverCall.isOffload = episode.offloadCalls := by
  have hsingle : episode.singleCalls.filter DriverCall.isOffload = [] := by
    rw [List.filter_eq_nil_iff]
    intro call hcall
    rw [(run.passage_of_mem hmem).isOffload_eq_false hcall]
    exact Bool.false_ne_true
  rw [Episode.calls_eq, List.filter_append, hsingle, List.nil_append, List.filter_eq_self]
  exact fun call hcall ↦ Episode.isOffload_of_mem_offloadCalls hcall

theorem mem_calls_of_offload (run : Run radio fallbackBatch past scanner) (hmem : episode ∈ past)
    (hoffload : call.isOffload = true) : call ∈ episode.calls ↔ call ∈ episode.offloadCalls := by
  rw [← run.filter_isOffload_calls hmem, List.mem_filter, and_iff_left hoffload]

end Run

end RadioScan
