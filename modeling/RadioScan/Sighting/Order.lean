import RadioScan.Sighting.Basic

/-!
The canonical order of results: strongest signal first, then frequency, then network name byte by
byte (a name comes before its continuations), then hardware address. `presented` sorts by it and
keeps equals in the order in which they came.
-/

set_option autoImplicit false
set_option relaxedAutoImplicit false

namespace RadioScan.Sighting

def byStrength (left right : Sighting) : Ordering := compare right.rssi left.rssi

def byFrequency : Sighting → Sighting → Ordering := compareOn Sighting.frequency

def bySsid : Sighting → Sighting → Ordering := compareOn Sighting.ssid

def byBssid : Sighting → Sighting → Ordering := compareOn fun sighting ↦ sighting.bssid.octets

/-- The canonical comparison of two sightings. -/
def order : Sighting → Sighting → Ordering :=
  compareLex byStrength (compareLex byFrequency (compareLex bySsid byBssid))

/-- The results in canonical order. -/
def presented (results : List Sighting) : List Sighting :=
  results.mergeSort fun left right ↦ (order left right).isLE

end RadioScan.Sighting
