import RadioScan.Sighting.Order

/-!
Results in canonical order. The canonical comparison is a total preorder, so sorting by it gives the
same results, ascending, and keeps those that compare equal in the order in which they came
(`Sighting.arranged_presented`).
-/

set_option autoImplicit false
set_option relaxedAutoImplicit false

namespace RadioScan.Sighting

open Std

instance : TransCmp byStrength :=
  inferInstanceAs (TransCmp fun left right ↦ compareOn Sighting.rssi right left)

instance : TransCmp byFrequency := inferInstanceAs (TransCmp (compareOn Sighting.frequency))

instance : TransCmp bySsid := inferInstanceAs (TransCmp (compareOn Sighting.ssid))

instance : TransCmp byBssid :=
  inferInstanceAs (TransCmp (compareOn fun sighting : Sighting ↦ sighting.bssid.octets))

instance : TransCmp order :=
  inferInstanceAs (TransCmp
    (compareLex byStrength (compareLex byFrequency (compareLex bySsid byBssid))))

/-- The results are the given ones in canonical order, and those that compare equal to any one
sighting stand in the order in which they were given. -/
structure Arranged (given results : List Sighting) : Prop where
  perm : results.Perm given
  ascending : results.Pairwise fun left right ↦ (order left right).isLE = true
  stable : ∀ sighting : Sighting,
    results.filter (fun other ↦ order sighting other = .eq) =
      given.filter fun other ↦ order sighting other = .eq

theorem isLE_order_trans (first second third : Sighting)
    (hfirst : (order first second).isLE = true) (hsecond : (order second third).isLE = true) :
    (order first third).isLE = true :=
  TransCmp.isLE_trans hfirst hsecond

theorem isLE_order_total (left right : Sighting) :
    ((order left right).isLE || (order right left).isLE) = true := by
  rw [@OrientedCmp.eq_swap _ order _ right left]
  cases order left right <;> rfl

/-- Sightings that compare equal to a third one compare equal to each other. -/
theorem order_eq_of_eq {sighting left right : Sighting} (hleft : order sighting left = .eq)
    (hright : order sighting right = .eq) : order left right = .eq :=
  TransCmp.eq_trans (OrientedCmp.eq_symm hleft) hright

theorem filter_eq_presented (given : List Sighting) (sighting : Sighting) :
    (presented given).filter (fun other ↦ order sighting other = .eq) =
      given.filter fun other ↦ order sighting other = .eq := by
  have hperm : (presented given).Perm given := List.mergeSort_perm given _
  -- The equal ones are a sorted part of the given results, and sorting keeps such a part in place.
  have hascending : (given.filter fun other ↦ order sighting other = .eq).Pairwise
      fun left right ↦ (order left right).isLE = true := by
    rw [List.pairwise_iff_forall_sublist]
    intro left right hsublist
    have hmem (other : Sighting) (hother : other ∈ [left, right]) : order sighting other = .eq := by
      simpa using (List.mem_filter.mp (hsublist.subset hother)).2
    rw [order_eq_of_eq (hmem left (by simp)) (hmem right (by simp))]
    rfl
  have hsublist := List.sublist_mergeSort isLE_order_trans isLE_order_total hascending
    List.filter_sublist
  have hfilter := hsublist.filter fun other ↦ order sighting other = .eq
  rw [List.filter_filter] at hfilter
  simp only [Bool.and_self] at hfilter
  exact (hfilter.eq_of_length (hperm.filter _).length_eq.symm).symm

theorem arranged_presented (given : List Sighting) : Arranged given (presented given) where
  perm := List.mergeSort_perm given _
  ascending := List.pairwise_mergeSort isLE_order_trans isLE_order_total given
  stable := filter_eq_presented given

end RadioScan.Sighting
