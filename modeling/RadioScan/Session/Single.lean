import RadioScan.Rotation
import RadioScan.Session.Effect
import RadioScan.Sighting.Order
import RadioScan.Sighting.Screening

/-!
The session of single scans. At most one request occupies it. An accepted request that the driver
takes waits for results, a failure or its timeout; one that the driver refuses, or that names no
channel, waits for the alarm that reports its failure. Whatever comes first ends the request and
cancels the alarm that was pending for it.
-/

set_option autoImplicit false
set_option relaxedAutoImplicit false

namespace RadioScan

/-- What the alarm of a request means. -/
inductive Deferred
  | scanTimeout
  | failureReport (reason : Reason)
  deriving DecidableEq, Repr

namespace Deferred

def timeoutMillis : Nat := 15000

def timeoutTag : String := "wlan-scan scan timeout"

def failureTag : String := "wlan-scan report failure"

/-- The alarm of a request that the driver took or refused. -/
def ofRefusal : Option Reason → Deferred
  | none => scanTimeout
  | some reason => failureReport reason

def delayMillis : Deferred → Nat
  | scanTimeout => timeoutMillis
  | failureReport _ => 0

def tag : Deferred → String
  | scanTimeout => timeoutTag
  | failureReport _ => failureTag

/-- What the listener is told when the alarm goes off. -/
def reason : Deferred → Reason
  | scanTimeout => .timeout
  | failureReport reason => reason

end Deferred

/-- An accepted request that has not ended. -/
structure ActiveScan where
  startNanos : Int
  wantsFullResults : Bool
  requested : ChannelSet
  listener : ListenerId
  deriving DecidableEq, Repr

inductive Phase
  | idle
  | scanning (scan : ActiveScan) (alarm : AlarmId)
  | refused (scan : ActiveScan) (alarm : AlarmId)
  deriving DecidableEq, Repr

namespace Phase

/-- The request that occupies the session and its pending alarm. -/
def occupant? : Phase → Option (ActiveScan × AlarmId)
  | idle => none
  | scanning scan alarm => some (scan, alarm)
  | refused scan alarm => some (scan, alarm)

/-- The phase of a request that the driver took or refused. -/
def ofRefusal (scan : ActiveScan) (alarm : AlarmId) : Option Reason → Phase
  | none => scanning scan alarm
  | some _ => refused scan alarm

end Phase

/-- `latest` and `fetched` are the presented and the raw results of the last request that ended
with results. -/
structure SingleSession where
  phase : Phase
  alarms : Alarms Deferred
  rotation : Rotation
  latest : Snapshot
  fetched : Option (List RawSighting)
  deriving DecidableEq, Repr

namespace SingleSession

def fresh (fallbackBatch : Nat) : SingleSession where
  phase := .idle
  alarms := .empty
  rotation := .fresh fallbackBatch
  latest := .blank
  fetched := none

/-- The hidden networks to probe in one scan. A request without any leaves the rotation alone. -/
def pickProbes (session : SingleSession) (hidden : Option (List Ssid)) (answer : Int32) :
    Rotation.Pick Ssid :=
  match hidden with
  | some networks => session.rotation.select networks answer
  | none => ⟨[], false, session.rotation⟩

/-- Takes on a request. Even one that cannot be handed to the driver then occupies the session, and
its listener hears of the failure from an alarm rather than at once. -/
def start (session : SingleSession) (radio : Radio) (around : Surroundings)
    (request : ScanRequest) (listener : ListenerId) : Reply SingleSession :=
  if session.phase ≠ .idle then ⟨some .scanInProgress, [], session⟩
  else if Capabilities.standard.buckets < request.buckets.length then
    ⟨some .tooManyBuckets, [], session⟩
  else
    let requested := radio.plan.gather request.buckets
    let pick := session.pickProbes request.hidden around.probeLimit
    let scan : ActiveScan :=
      { startNanos := around.nanos
        wantsFullResults := request.buckets.any Bucket.wantsFullResults
        requested
        listener }
    let order : ScanOrder :=
      { effort := request.effort
        channels := requested
        probes := pick.chosen
        neighbourReports := request.neighbourReports
        vendorElements := request.vendorElements }
    let refusal := if requested.isEmpty then some .unspecified else around.scanRefusal
    let deferred := Deferred.ofRefusal refusal
    let alarm := session.alarms.nextId
    { rejection := none
      effects :=
        (if pick.asked then [radio.call .askProbeLimit] else [])
          ++ (if requested.isEmpty then [] else [radio.call (.scan order)])
          ++ [.scheduler (.schedule around.nextHandle deferred.tag deferred.delayMillis alarm)]
      next :=
        { session with
          phase := .ofRefusal scan alarm refusal
          alarms := session.alarms.schedule deferred around.nextHandle
          rotation := pick.next } }

/-- Empties the session, and has the task of the pending alarm dropped. -/
def finish? (session : SingleSession) : Option (ActiveScan × Turn SingleSession) :=
  session.phase.occupant?.map fun (scan, alarm) ↦
    let (calls, alarms) := session.alarms.cancel alarm
    (scan, ⟨calls.map .scheduler, { session with phase := .idle, alarms }⟩)

/-- Ends the current request, if there is one, with a failure. -/
def fail (session : SingleSession) (reason : Reason) : Turn SingleSession :=
  match session.finish? with
  | none => ⟨[], session⟩
  | some (scan, turn) =>
    ⟨turn.effects ++ [.notify scan.listener (.scan (.failed reason))], turn.next⟩

/-- Ends the current request, if there is one, with the results that the driver has. -/
def deliver (session : SingleSession) (radio : Radio) (around : Surroundings) :
    Turn SingleSession :=
  match session.finish? with
  | none => ⟨[], session⟩
  | some (scan, turn) =>
    let kept := (Screened.ofScan scan.startNanos scan.requested around.scanResults).kept
    ⟨turn.effects ++ [radio.call .fetchScanResults]
        ++ (if scan.wantsFullResults then [.notify scan.listener (.scan (.fullResults kept 0))]
          else [])
        ++ [.notify scan.listener (.scan .resultsAvailable)],
      { turn.next with
        fetched := some around.scanResults
        latest :=
          { Snapshot.blank with
            scannedBands := radio.plan.coveredBands scan.requested
            results := Sighting.presented kept } }⟩

/-- Runs the task of an alarm. Unless the alarm is still in the registry and belongs to the current
request, nothing is reported. -/
def alarmRings (session : SingleSession) (alarm : AlarmId) : Turn SingleSession :=
  match session.alarms.trigger alarm with
  | (none, _) => ⟨[], session⟩
  | (some deferred, alarms) =>
    let session := { session with alarms }
    if session.phase.occupant?.map Prod.snd = some alarm then session.fail deferred.reason
    else ⟨[], session⟩

/-- Fails the current request, forgets the rotation and empties the registry. -/
def cleanup (session : SingleSession) : Turn SingleSession :=
  let turn := session.fail .unspecified
  let (calls, alarms) := turn.next.alarms.cancelAll
  ⟨turn.effects ++ calls.map .scheduler,
    { turn.next with rotation := turn.next.rotation.reset, alarms }⟩

end SingleSession

end RadioScan
