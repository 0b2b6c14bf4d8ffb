import RadioScan.Alarm.Backlog
import RadioScan.Coordinator

/-!
What can be asked of a bench (see `Bench.step`), and what it answers.
-/

set_option autoImplicit false
set_option relaxedAutoImplicit false

namespace RadioScan.Bench

/-- New answers for the scripted driver; what is missing stays as it is. Statuses are raw. -/
structure Changes where
  scanStatus : Option Int
  offloadStatus : Option Int
  stopStatus : Option Int
  probeLimit : Option Int32
  scanResults : Option (List RawSighting)
  offloadResults : Option (List RawSighting)
  deriving DecidableEq, Repr

/-- A request says whether its listener reads from a mailbox. -/
inductive Command
  | program (changes : Changes)
  | setClock (nanos : Int)
  | setPolicy (backgroundScanning : Bool)
  | fire (tag : String)
  | take (tag : String)
  | runHeld (index : Nat)
  | closeMailbox (listener : Nat)
  | dropScanner
  | startScan (request : ScanRequest) (boxed : Bool)
  | startBatchedScan (request : ScanRequest) (boxed : Bool)
  | controlBatchedScan
  | latestBatched
  | startOffload (request : OffloadRequest) (boxed : Bool)
  | resetOffload
  | driverStatus (status : Int)
  | scanResultsAvailable
  | offloadResultsAvailable
  | offloadFailed
  | requiresOffload (connected : Bool)
  | offloadNetworks
  | latest
  | report (limit : Option Nat)
  | cleanup
  | capabilities
  | interface
  deriving DecidableEq, Repr

/-- `unfinished` is the answer when a report does not fit its limit. -/
inductive Answer
  | done
  | rejected (rejection : Rejection)
  | noScanner
  | notAFailure
  | fixedPolicy
  | flag (value : Bool)
  | held (index : Option Nat)
  | nothing
  | networks (networks : Option (List OffloadNetwork))
  | snapshot (snapshot : Snapshot)
  | text (text : String)
  | unfinished
  | capabilities (capabilities : Capabilities)
  deriving DecidableEq, Repr

end RadioScan.Bench
