import RadioScan.Clock
import RadioScan.Report.Basic
import RadioScan.Session.Offload
import RadioScan.Session.Single

/-!
The scanner of one interface. It runs a session of single scans and a session of offloaded scans
side by side; `Coordinator.step` is everything that can happen to it, one action at a time.
-/

set_option autoImplicit false
set_option relaxedAutoImplicit false

namespace RadioScan

/-- What a driver reports by itself. -/
inductive DriverEvent
  | scanFailed (reason : Reason)
  | scanResultsAvailable
  | offloadResultsAvailable
  | offloadFailed
  deriving DecidableEq, Repr

/-- What can be done to a scanner. `runTask` is the scheduler running the task of an alarm. -/
inductive Action
  | startScan (request : ScanRequest) (listener : ListenerId)
  | startBatchedScan (request : ScanRequest) (listener : ListenerId)
  | startOffload (request : OffloadRequest) (listener : ListenerId)
  | resetOffload
  | driverEvent (event : DriverEvent)
  | runTask (alarm : AlarmId)
  | cleanup
  deriving DecidableEq, Repr

structure Coordinator where
  radio : Radio
  single : SingleSession
  offload : OffloadSession

namespace Coordinator

def fresh (radio : Radio) (fallbackBatch : Nat) : Coordinator :=
  ⟨radio, .fresh fallbackBatch, .fresh⟩

/-- A turn of the single session as a turn of the scanner. -/
def withSingle (scanner : Coordinator) (turn : Turn SingleSession) : Turn Coordinator :=
  ⟨turn.effects, { scanner with single := turn.next }⟩

/-- A turn of the offload session as a turn of the scanner. -/
def withOffload (scanner : Coordinator) (turn : Turn OffloadSession) : Turn Coordinator :=
  ⟨turn.effects, { scanner with offload := turn.next }⟩

def handle (scanner : Coordinator) (around : Surroundings) : DriverEvent → Turn Coordinator
  | .scanFailed reason => scanner.withSingle (scanner.single.fail reason)
  | .scanResultsAvailable => scanner.withSingle (scanner.single.deliver scanner.radio around)
  | .offloadResultsAvailable => scanner.withOffload (scanner.offload.deliver scanner.radio around)
  | .offloadFailed => scanner.withOffload scanner.offload.fail

/-- Fails a running single scan, stops an offloaded one, and forgets what the driver has told.
Results that were fetched stay. -/
def cleanup (scanner : Coordinator) : Turn Coordinator :=
  let single := scanner.withSingle scanner.single.cleanup
  let offload := single.next.withOffload (single.next.offload.cleanup single.next.radio)
  ⟨single.effects ++ offload.effects, offload.next⟩

/-- One action. -/
def step (scanner : Coordinator) (around : Surroundings) : Action → Reply Coordinator
  | .startScan request listener =>
    (scanner.single.start scanner.radio around request listener).map fun single ↦
      { scanner with single }
  | .startBatchedScan _ _ => ⟨some .batchedScanUnsupported, [], scanner⟩
  | .startOffload request listener =>
    (scanner.offload.start scanner.radio around request listener).map fun offload ↦
      { scanner with offload }
  | .resetOffload =>
    (scanner.offload.reset scanner.radio).map fun offload ↦ { scanner with offload }
  | .driverEvent event => (scanner.handle around event).reply
  | .runTask alarm => (scanner.withSingle (scanner.single.alarmRings alarm)).reply
  | .cleanup => scanner.cleanup.reply

/-- The report on the driver's latest results, as of a clock reading. -/
def report (scanner : Coordinator) (nanos : Int) : Report :=
  ⟨Clock.millis nanos, scanner.single.fetched, scanner.offload.fetched⟩

end Coordinator

end RadioScan
