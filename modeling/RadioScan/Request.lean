import RadioScan.Sighting.Basic
import RadioScan.Spectrum.ChannelPlan

/-!
What callers ask for, what a driver is asked to do in turn, and why a request may be turned down on
the spot.
-/

set_option autoImplicit false
set_option relaxedAutoImplicit false

namespace RadioScan

/-- How a driver is to weigh speed, power and accuracy. -/
inductive Effort
  | lowLatency
  | lowPower
  | highAccuracy
  deriving DecidableEq, Repr

/-- A caller's request for a single scan. `hidden` lists the networks that answer only when they
are named; without it none is probed by name. -/
structure ScanRequest where
  effort : Effort
  buckets : List Bucket
  hidden : Option (List Ssid)
  neighbourReports : Bool
  vendorElements : Bytes
  deriving DecidableEq, Repr

/-- What a driver is asked to scan. -/
structure ScanOrder where
  effort : Effort
  channels : ChannelSet
  probes : List Ssid
  neighbourReports : Bool
  vendorElements : Bytes
  deriving DecidableEq, Repr

/-- A network that an offloaded scan looks for. -/
structure OffloadNetwork where
  ssid : Ssid
  flags : UInt8
  authentication : UInt8
  frequencies : List Frequency
  deriving DecidableEq, Repr

/-- A request to let the radio look for networks by itself. -/
structure OffloadRequest where
  connected : Bool
  periodMillis : Nat
  minRssi2Ghz : Int
  minRssi5Ghz : Int
  minRssi6Ghz : Int
  networks : List OffloadNetwork
  deriving DecidableEq, Repr

/-- Why a request was turned down. Nothing has happened then, and its listener is never told
anything. -/
inductive Rejection
  | tooManyBuckets
  | scanInProgress
  | offloadInProgress
  | offloadNotRequired (connected : Bool)
  | noOffloadRunning
  | batchedScanUnsupported
  deriving DecidableEq, Repr

/-- The wording of a rejection. -/
def Rejection.message : Rejection → String
  | tooManyBuckets => "invalid scan request: too many buckets"
  | scanInProgress => "a single scan is already running"
  | offloadInProgress => "a PNO scan is already running"
  | offloadNotRequired connected =>
    "hardware PNO scan is not required (connected: " ++ (if connected then "true" else "false")
      ++ ")"
  | noOffloadRunning => "no PNO scan running"
  | batchedScanUnsupported => "batched scan is not supported"

/-- What a scanner can take on. -/
structure Capabilities where
  cacheSize : Nat
  buckets : Nat
  accessPointsPerScan : Nat
  rssiSamples : Nat
  reportingThreshold : Nat
  deriving DecidableEq, Repr

def Capabilities.standard : Capabilities where
  cacheSize := 2147483647
  buckets := 16
  accessPointsPerScan := 32
  rssiSamples := 8
  reportingThreshold := 10

end RadioScan
