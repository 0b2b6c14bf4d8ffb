import RadioScan.Spectrum.Band
import RadioScan.Text.Hex

/-!
What a radio reports: sightings of access points, with or without the information elements they
were read from, and the snapshot of results that a finished scan leaves behind.
-/

set_option autoImplicit false
set_option relaxedAutoImplicit false

namespace RadioScan

/-- A network name is a string of bytes in no particular encoding. -/
abbrev Ssid := Bytes

/-- The hardware address of an access point. -/
structure Bssid where
  octets : Bytes
  length_eq : octets.length = 6
  deriving DecidableEq, Repr

namespace Bssid

def ofOctets? (octets : Bytes) : Option Bssid :=
  if h : octets.length = 6 then some ⟨octets, h⟩ else none

def zero : Bssid := ⟨List.replicate 6 0, rfl⟩

/-- The address as text: two hexadecimal digits with small letters for each byte, between colons. -/
def render (bssid : Bssid) : List Char := [':'].intercalate (bssid.octets.map Text.Hex.ofByte)

end Bssid

/-- One access point as the radio heard it. The timestamp is in microseconds since boot. -/
structure Sighting where
  ssid : Ssid
  bssid : Bssid
  frequency : Frequency
  rssi : Int
  timestampMicros : Int
  capabilities : String
  deriving DecidableEq, Repr

/-- A sighting as a driver hands it over. The information elements may be missing, which is not the
same as being present and empty. -/
structure RawSighting where
  sighting : Sighting
  elements : Option Bytes
  deriving DecidableEq, Repr

/-- The results of the last scan that ended with results. -/
structure Snapshot where
  id : Int
  flags : Int
  bucketsScanned : Int
  scannedBands : BandMask
  results : List Sighting
  deriving DecidableEq, Repr

/-- What there is to show before any scan has ended with results. -/
def Snapshot.blank : Snapshot := ⟨0, 0, 0, BandMask.unspecified, []⟩

end RadioScan
