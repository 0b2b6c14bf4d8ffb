import RadioScan.Mailbox

/-!
A mailbox for the events of single scans beside one for those of offloaded scans. What is read is
answered as the notices that it was made of.
-/

set_option autoImplicit false
set_option relaxedAutoImplicit false

namespace RadioScan

structure Mailroom where
  scan : Mailbox ScanEvent
  offload : Mailbox OffloadEvent
  deriving DecidableEq, Repr

namespace Mailroom

/-- `scanStatus` is a failure that comes as a driver's status. -/
inductive Command
  | scan (notice : ScanNotice)
  | scanStatus (status : Int)
  | offload (notice : OffloadNotice)
  | closeScan
  | closeOffload
  | drain
  deriving DecidableEq, Repr

inductive Answer
  | done
  | notAFailure
  | drained (scan : List ScanNotice) (offload : List OffloadNotice)
  deriving DecidableEq, Repr

def opened : Mailroom := ⟨.opened, .opened⟩

def step (room : Mailroom) : Command → Answer × Mailroom
  | .scan notice => (.done, { room with scan := forwardScan room.scan notice })
  | .scanStatus status =>
    match Reason.ofStatus status with
    | some reason => (.done, { room with scan := forwardScan room.scan (.failed reason) })
    | none => (.notAFailure, room)
  | .offload notice => (.done, { room with offload := forwardOffload room.offload notice })
  | .closeScan => (.done, { room with scan := room.scan.close })
  | .closeOffload => (.done, { room with offload := room.offload.close })
  | .drain =>
    let (scanEvents, scan) := receiveUpTo room.scan room.scan.queued.length
    let (offloadEvents, offload) := receiveUpTo room.offload room.offload.queued.length
    (.drained (scanEvents.map ScanEvent.notice) (offloadEvents.map OffloadEvent.notice),
      ⟨scan, offload⟩)

/-- The answers to several commands, one after the other. -/
def trace (room : Mailroom) : List Command → List Answer
  | [] => []
  | command :: rest =>
    let (answer, next) := room.step command
    answer :: next.trace rest

end Mailroom

end RadioScan
