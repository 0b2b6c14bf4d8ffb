import RadioScan.Session.Effect
import RadioScan.Sighting.Screening

/-!
The session of offloaded scans. The radio looks for the networks of a request by itself and reports
them again and again, until the request is withdrawn or the radio gives up. There is no timeout.
-/

set_option autoImplicit false
set_option relaxedAutoImplicit false

namespace RadioScan

structure ActiveOffload where
  startNanos : Int
  networks : List OffloadNetwork
  listener : ListenerId
  deriving DecidableEq, Repr

/-- `fetched` are the raw results fetched last. -/
structure OffloadSession where
  active : Option ActiveOffload
  fetched : Option (List RawSighting)
  deriving DecidableEq, Repr

namespace OffloadSession

def fresh : OffloadSession := ⟨none, none⟩

/-- The networks that the radio is looking for. -/
def networks? (session : OffloadSession) : Option (List OffloadNetwork) :=
  session.active.map ActiveOffload.networks

/-- Ends the running request, if there is one, with a failure. -/
def fail (session : OffloadSession) : Turn OffloadSession :=
  match session.active with
  | none => ⟨[], session⟩
  | some scan =>
    ⟨[.notify scan.listener (.offload .failed)], { session with active := none }⟩

/-- Hands a request to the driver. If the driver refuses, the request counts as accepted, and as
failed at once. -/
def start (session : OffloadSession) (radio : Radio) (around : Surroundings)
    (request : OffloadRequest) (listener : ListenerId) : Reply OffloadSession :=
  if session.active.isSome then ⟨some .offloadInProgress, [], session⟩
  else if !around.requiresOffload request.connected then
    ⟨some (.offloadNotRequired request.connected), [], session⟩
  else
    let started : OffloadSession :=
      { session with active := some ⟨around.nanos, request.networks, listener⟩ }
    let turn : Turn OffloadSession :=
      match around.offloadRefusal with
      | none => ⟨[], started⟩
      | some _ => started.fail
    ⟨none, radio.call (.startOffload request) :: turn.effects, turn.next⟩

/-- Withdraws the running request and has the radio stop. Whether there was one to withdraw is seen
only once the session has been emptied. -/
def reset (session : OffloadSession) (radio : Radio) : Reply OffloadSession :=
  let (withdrawn, emptied) := (session.active, { session with active := none })
  if withdrawn.isNone then ⟨some .noOffloadRunning, [], emptied⟩
  else ⟨none, [radio.call .stopOffload], emptied⟩

/-- Reports what the radio has found for the running request. -/
def deliver (session : OffloadSession) (radio : Radio) (around : Surroundings) :
    Turn OffloadSession :=
  match session.active with
  | none => ⟨[], session⟩
  | some scan =>
    let kept := (Screened.ofOffload scan.startNanos around.offloadResults).kept
    ⟨[radio.call .fetchOffloadResults, .notify scan.listener (.offload (.networkFound kept))],
      { session with fetched := some around.offloadResults }⟩

/-- Has the radio stop, and drops the running request without a word to its listener. -/
def cleanup (session : OffloadSession) (radio : Radio) : Turn OffloadSession :=
  ⟨[radio.call .stopOffload], { session with active := none }⟩

end OffloadSession

end RadioScan
