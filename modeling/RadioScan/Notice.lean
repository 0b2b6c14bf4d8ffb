import RadioScan.Reason
import RadioScan.Sighting.Basic

/-!
What listeners are told. There is a kind of listener for each kind of scan, and a notice is one of
the ways in which a listener of its kind can be addressed.
-/

set_option autoImplicit false
set_option relaxedAutoImplicit false

namespace RadioScan

/-- What the listener of a single scan is told. `fullResults` comes before `resultsAvailable` and
holds the results in the driver's order. -/
inductive ScanNotice
  | resultsAvailable
  | fullResults (results : List Sighting) (bucketsScanned : Int)
  | failed (reason : Reason)
  deriving DecidableEq, Repr

/-- What the listener of an offloaded scan is told. -/
inductive OffloadNotice
  | networkFound (results : List Sighting)
  | failed
  deriving DecidableEq, Repr

inductive Notice
  | scan (notice : ScanNotice)
  | offload (notice : OffloadNotice)
  deriving DecidableEq, Repr

/-- The kinds of scans, and so of listeners. -/
inductive Kind
  | scan
  | offload
  deriving DecidableEq, Repr

def Notice.kind : Notice → Kind
  | scan _ => .scan
  | offload _ => .offload

end RadioScan
