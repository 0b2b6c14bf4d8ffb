import RadioScan.Sighting.Basic
import RadioScan.Spectrum.ChannelPlan

/-!
Which of a driver's results belong to a scan. A result counts when it was seen no earlier than the
scan began and, for a scan of chosen channels, on one of those channels or anywhere in the 6 GHz
band, whose access points other bands' neighbour reports reveal.
-/

set_option autoImplicit false
set_option relaxedAutoImplicit false

namespace RadioScan

namespace Sighting

/-- Sightings carry microseconds and scans begin at a nanosecond, so the start is rounded down to
the microsecond it lies in; a result of the starting microsecond is never too old. -/
def seenSince (startNanos : Int) (sighting : Sighting) : Bool :=
  startNanos / 1000 ≤ sighting.timestampMicros

def onChannel (requested : ChannelSet) (sighting : Sighting) : Bool :=
  sighting.frequency ∈ requested || inSixGhz sighting.frequency

end Sighting

/-- The results that were kept, in the driver's order, and how many were not. -/
structure Screened where
  kept : List Sighting
  dropped : Nat
  deriving DecidableEq, Repr

namespace Screened

/-- Sorts a driver's results by a rule. -/
def ofRule (rule : Sighting → Bool) : List RawSighting → Screened
  | [] => ⟨[], 0⟩
  | raw :: rest =>
    let screened := ofRule rule rest
    if rule raw.sighting then ⟨raw.sighting :: screened.kept, screened.dropped⟩
    else ⟨screened.kept, screened.dropped + 1⟩

/-- What is kept are the results that meet the rule, in the driver's order. -/
theorem kept_ofRule (rule : Sighting → Bool) (results : List RawSighting) :
    (ofRule rule results).kept = (results.map RawSighting.sighting).filter rule := by
  induction results with
  | nil => rfl
  | cons raw rest ih =>
    rw [ofRule, List.map_cons, List.filter_cons]
    by_cases hrule : rule raw.sighting
    · simp [hrule, ih]
    · simp [hrule, ih]

/-- The results of a scan of chosen channels. -/
def ofScan (startNanos : Int) (requested : ChannelSet) : List RawSighting → Screened :=
  ofRule fun sighting ↦ sighting.seenSince startNanos && sighting.onChannel requested

/-- The results of an offloaded scan, which is tied to no channels. -/
def ofOffload (startNanos : Int) : List RawSighting → Screened :=
  ofRule fun sighting ↦ sighting.seenSince startNanos

end Screened

end RadioScan
