/-!
Time since boot. Clocks read nanoseconds as a signed 64-bit count. A monotonic clock never reads
less than zero, and stays at the largest count once the time since its origin exceeds it.
-/

set_option autoImplicit false
set_option relaxedAutoImplicit false

namespace RadioScan.Clock

/-- The largest reading. -/
def maxNanos : Int := Int.pow 2 63 - 1

/-- The reading in whole milliseconds, rounded towards zero. -/
def millis (nanos : Int) : Int := nanos.tdiv 1000000

/-- What a monotonic clock reads when this much time has gone by since its origin. The origin may
lie ahead, and then the reading is zero. -/
def reading (elapsedNanos : Int) : Int := min (max elapsedNanos 0) maxNanos

/-- Whole minutes of a reading in nanoseconds. -/
def minutes (nanos : Int) : Int := nanos / 60000000000

/-- Whole minutes of a reading in milliseconds. -/
def minutesOfMillis (millis : Int) : Int := millis / 60000

end RadioScan.Clock
