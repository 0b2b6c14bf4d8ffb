import RadioScan.Bench.Basic

/-!
Serving single scan requests to their end. Each request is made under a scripted driver; then the
scheduler runs what it was given, so that a request that no result ended fails or times out.
-/

set_option autoImplicit false
set_option relaxedAutoImplicit false

namespace RadioScan.Bench

/-- A request, what the driver says to it, and whether its results are announced. -/
structure Service where
  request : ScanRequest
  status : Int
  results : List RawSighting
  announced : Bool
  deriving DecidableEq, Repr

/-- The answer to a request, what its listener read and the driver was told until it had ended, and
the latest results then. -/
structure Served where
  answer : Answer
  received : List Notice
  driverCalls : List Effect
  latest : Snapshot
  deriving DecidableEq, Repr

/-- The driver's answers to a request. -/
def Service.changes (service : Service) : Changes where
  scanStatus := some service.status
  offloadStatus := none
  stopStatus := none
  probeLimit := none
  scanResults := some service.results
  offloadResults := none

/-- What happens after a request has been made, up to its end. -/
def Service.sequel (service : Service) : List Command :=
  (if service.announced then [.scanResultsAvailable] else [])
    ++ [.fire Deferred.failureTag, .fire Deferred.timeoutTag]

def isDriverCall : Effect → Bool
  | .driver _ _ => true
  | _ => false

/-- Serves requests one after the other. -/
def serve (bench : Bench) : List Service → List Served
  | [] => []
  | service :: rest =>
    let (start, bench) := (bench.program service.changes).step (.startScan service.request true)
    let (sequel, bench) := bench.trace service.sequel
    { answer := start.answer
      received := (start :: sequel).flatMap fun observation ↦ observation.received.map Prod.snd
      driverCalls :=
        (start :: sequel).flatMap fun observation ↦ observation.log.filter isDriverCall
      latest := (bench.scanner.map fun scanner ↦ scanner.single.latest).getD .blank }
      :: serve bench rest

end RadioScan.Bench
