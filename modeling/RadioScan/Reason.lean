/-!
Why a scan produced no results. Drivers report a status as a signed number; zero is success, the
numbers from -1 to -10 have names, and any other number is kept as it is. Reading a status and
writing the reason gives the status back (`status_of_ofStatus`).
-/

set_option autoImplicit false
set_option relaxedAutoImplicit false

namespace RadioScan

inductive Reason
  | unspecified
  | invalidListener
  | invalidRequest
  | notAuthorized
  | duplicateRequest
  | busy
  | aborted
  | noDevice
  | invalidArguments
  | timeout
  | other (status : Int)
  deriving DecidableEq, Repr

namespace Reason

/-- The status by which a driver reports success. -/
def succeeded : Int := 0

/-- The status that a reason stands for. -/
def status : Reason → Int
  | unspecified => -1
  | invalidListener => -2
  | invalidRequest => -3
  | notAuthorized => -4
  | duplicateRequest => -5
  | busy => -6
  | aborted => -7
  | noDevice => -8
  | invalidArguments => -9
  | timeout => -10
  | other status => status

/-- The reasons that have a status of their own. -/
def named : List Reason :=
  [unspecified, invalidListener, invalidRequest, notAuthorized, duplicateRequest, busy, aborted,
    noDevice, invalidArguments, timeout]

/-- Reads a driver's status; success gives no reason. -/
def ofStatus (raw : Int) : Option Reason :=
  if raw = succeeded then none
  else some ((named.find? fun reason ↦ reason.status = raw).getD (other raw))

theorem ofStatus_eq_none_iff {raw : Int} : ofStatus raw = none ↔ raw = succeeded := by
  simp [ofStatus]

theorem status_of_ofStatus {raw : Int} {reason : Reason} (h : ofStatus raw = some reason) :
    reason.status = raw := by
  unfold ofStatus at h
  split at h
  · contradiction
  · obtain rfl := Option.some.inj h
    cases hfind : named.find? fun reason ↦ reason.status = raw with
    | none => rfl
    | some found => simpa using List.find?_some hfind

end Reason

end RadioScan
