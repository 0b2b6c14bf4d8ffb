import RadioScan.Alarm.Basic
import RadioScan.Notice
import RadioScan.Request

/-!
The outward side of a scanner: the calls it makes, the notices it gives, and the answers it depends
on. One step of a session is a function of the answers in its `Surroundings`, and gives a `Turn`:
what was done outwardly, in order, and the session afterwards. A request is answered by a `Reply`,
which is also a turn: that it may be turned down says nothing of what it did until then.
-/

set_option autoImplicit false
set_option relaxedAutoImplicit false

namespace RadioScan

/-- Numbers the listener that came with a request. -/
structure ListenerId where
  number : Nat
  deriving DecidableEq, Repr

inductive DriverCall
  | scan (order : ScanOrder)
  | fetchScanResults
  | fetchOffloadResults
  | startOffload (request : OffloadRequest)
  | stopOffload
  | askProbeLimit
  deriving DecidableEq, Repr

/-- One thing done outwardly. A driver is told which interface a call is about. -/
inductive Effect
  | driver (interface : String) (call : DriverCall)
  | scheduler (call : SchedulerCall)
  | notify (listener : ListenerId) (notice : Notice)
  deriving DecidableEq, Repr

/-- What the driver, the clock, the policy and the scheduler answer during one step. A refusal is
`none` when the driver accepts. Nothing depends on `stopRefusal`. -/
structure Surroundings where
  scanRefusal : Option Reason
  offloadRefusal : Option Reason
  stopRefusal : Option Reason
  probeLimit : Int32
  scanResults : List RawSighting
  offloadResults : List RawSighting
  nanos : Int
  backgroundScanning : Bool
  nextHandle : TaskHandle
  deriving DecidableEq, Repr

/-- Offloading is for scans without a connection, on platforms that scan in the background. -/
def Surroundings.requiresOffload (around : Surroundings) (connected : Bool) : Bool :=
  !connected && around.backgroundScanning

/-- The interface that is scanned, and the channels on offer there. -/
structure Radio where
  interface : String
  plan : ChannelPlan

def Radio.call (radio : Radio) (call : DriverCall) : Effect := .driver radio.interface call

/-- What one step did outwardly, in order, and the state it left. -/
structure Turn (σ : Type) where
  effects : List Effect
  next : σ
  deriving DecidableEq, Repr

/-- What comes of a request: why it was turned down, if it was, what was done outwardly, in order,
and the state that was left. -/
structure Reply (σ : Type) where
  rejection : Option Rejection
  effects : List Effect
  next : σ
  deriving DecidableEq, Repr

/-- What a request did and left, turned down or not. -/
def Reply.turn {σ : Type} (reply : Reply σ) : Turn σ := ⟨reply.effects, reply.next⟩

/-- The reply of a part, as one of the whole that the part belongs to. -/
def Reply.map {σ τ : Type} (whole : σ → τ) (reply : Reply σ) : Reply τ :=
  ⟨reply.rejection, reply.effects, whole reply.next⟩

/-- What nothing turns down. -/
def Turn.reply {σ : Type} (turn : Turn σ) : Reply σ := ⟨none, turn.effects, turn.next⟩

end RadioScan
