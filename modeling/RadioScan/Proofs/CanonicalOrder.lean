import RadioScan.Proofs.Arrangement

/-!
The canonical comparison, field by field. It looks at four fields (`Sighting.rank`), is a total
preorder whose equals are the sightings of one rank (`Sighting.order_eq_iff`), and puts the stronger
signal first, then the lower frequency, the smaller name and the smaller address
(`Sighting.isLE_order_iff`). What is presented therefore does not depend on the order in which the
driver gave the results, except among different results of one rank
(`Sighting.map_rank_presented`, `Sighting.presented_eq_of_perm`).
-/

set_option autoImplicit false
set_option relaxedAutoImplicit false

namespace RadioScan

open Std

/-- Strings of bytes compare by their first difference, and a string comes before its
continuations. -/
theorem compare_bytes_eq_lt {left right : Bytes} : compare left right = .lt ↔ left < right := by
  induction left generalizing right with
  | nil => cases right <;> simp [List.compare_nil_cons]
  | cons first left ih =>
    cases right with
    | nil => simp [List.compare_cons_nil]
    | cons second right =>
      rw [List.compare_cons_cons, Ordering.then_eq_lt, Std.compare_eq_lt, Std.compare_eq_iff_eq, ih,
        List.cons_lt_cons_iff]

theorem isLE_compare_bytes {left right : Bytes} :
    (compare left right).isLE = true ↔ left ≤ right := by
  rw [Ordering.isLE_iff_ne_gt, OrientedCmp.gt_iff_lt, compare_bytes_eq_lt]
  exact List.not_lt

namespace Sighting

/-! ### The comparison -/

/-- What the canonical comparison looks at. -/
def rank (sighting : Sighting) : Int × Frequency × Ssid × Bssid :=
  (sighting.rssi, sighting.frequency, sighting.ssid, sighting.bssid)

/-- The stronger signal goes first, then the lower frequency, then the smaller name, then the
smaller address. -/
def Precedes (left right : Sighting) : Prop :=
  right.rssi < left.rssi ∨ left.rssi = right.rssi ∧
    (left.frequency < right.frequency ∨ left.frequency = right.frequency ∧
      (left.ssid < right.ssid ∨ left.ssid = right.ssid ∧
        left.bssid.octets ≤ right.bssid.octets))

/-- The comparison orders all sightings, though it may find different ones equal. -/
structure TotalPreorder (comparison : Sighting → Sighting → Ordering) : Prop where
  refl : ∀ sighting, comparison sighting sighting = .eq
  swap : ∀ left right, comparison right left = (comparison left right).swap
  trans : ∀ first second third, (comparison first second).isLE = true →
    (comparison second third).isLE = true → (comparison first third).isLE = true
  total : ∀ left right,
    (comparison left right).isLE = true ∨ (comparison right left).isLE = true

variable {left right : Sighting}

theorem order_eq_then (left right : Sighting) :
    order left right = (compare right.rssi left.rssi).then
      ((compare left.frequency right.frequency).then
        ((compare left.ssid right.ssid).then
          (compare left.bssid.octets right.bssid.octets))) := rfl

theorem totalPreorder_order : TotalPreorder order where
  refl _ := ReflCmp.compare_self
  swap _ _ := OrientedCmp.eq_swap
  trans := isLE_order_trans
  total left right := by
    rw [← Bool.or_eq_true]
    exact isLE_order_total left right

/-- Sightings compare equal exactly if they agree in all that the comparison looks at. -/
theorem order_eq_iff : order left right = .eq ↔ left.rank = right.rank := by
  have haddress : left.bssid.octets = right.bssid.octets ↔ left.bssid = right.bssid := by
    rw [Bssid.mk.injEq]
  simp only [order_eq_then, Ordering.then_eq_eq, Std.compare_eq_iff_eq, haddress, rank,
    Prod.mk.injEq, eq_comm (a := right.rssi)]

theorem isLE_order_iff : (order left right).isLE = true ↔ left.Precedes right := by
  simp only [order_eq_then, Ordering.isLE_then_iff_or, Std.compare_eq_lt, compare_bytes_eq_lt,
    Std.compare_eq_iff_eq, isLE_compare_bytes, Precedes, eq_comm (a := right.rssi)]

/-- Among sightings of one strength and frequency, a name goes before its continuations. -/
theorem order_of_continued (hrssi : left.rssi = right.rssi)
    (hfrequency : left.frequency = right.frequency) {byte : UInt8} {rest : Bytes}
    (hssid : right.ssid = left.ssid ++ byte :: rest) : order left right = .lt := by
  have hname : compare left.ssid right.ssid = .lt := by
    rw [hssid]
    induction left.ssid with
    | nil => rfl
    | cons first name ih =>
      rw [List.cons_append, List.compare_cons_cons, ih, ReflOrd.compare_self]
      rfl
  rw [order_eq_then, hrssi, hfrequency, hname, ReflOrd.compare_self, ReflOrd.compare_self]
  rfl

/-! ### Sorting -/

variable {given others : List Sighting}

theorem presented_of_ascending
    (h : given.Pairwise fun left right ↦ (order left right).isLE = true) :
    presented given = given :=
  List.mergeSort_of_pairwise h

theorem presented_presented (given : List Sighting) :
    presented (presented given) = presented given :=
  presented_of_ascending (arranged_presented given).ascending

theorem precedes_presented (given : List Sighting) :
    (presented given).Pairwise Precedes :=
  (arranged_presented given).ascending.imp isLE_order_iff.mp

theorem presented_perm_presented (hperm : others.Perm given) :
    (presented others).Perm (presented given) :=
  (arranged_presented others).perm.trans
    (hperm.trans (arranged_presented given).perm.symm)

/-- Sightings of the two ranks are in canonical order. -/
def RanksBefore (first second : Int × Frequency × Ssid × Bssid) : Prop :=
  ∃ left right : Sighting, left.rank = first ∧ right.rank = second ∧
    (order left right).isLE = true

theorem ranksBefore_antisymm {first second : Int × Frequency × Ssid × Bssid}
    (hforward : RanksBefore first second) (hbackward : RanksBefore second first) :
    first = second := by
  obtain ⟨left, right, rfl, rfl, hle⟩ := hforward
  obtain ⟨right', left', hright, hleft, hge⟩ := hbackward
  -- The comparison cannot tell sightings of one rank apart.
  have hsame : order right' left' = order right left :=
    (TransCmp.congr_left (order_eq_iff.mpr hright)).trans
      (TransCmp.congr_right (order_eq_iff.mpr hleft))
  rw [hsame] at hge
  exact order_eq_iff.mp (OrientedCmp.isLE_antisymm hle hge)

theorem ranksBefore_presented (given : List Sighting) :
    ((presented given).map rank).Pairwise RanksBefore := by
  rw [List.pairwise_map]
  exact (arranged_presented given).ascending.imp fun hle ↦ ⟨_, _, rfl, rfl, hle⟩

/-- The ranks are presented in one order, whichever way the results were given. -/
theorem map_rank_presented (hperm : others.Perm given) :
    (presented others).map rank = (presented given).map rank :=
  List.Perm.eq_of_pairwise (fun _ _ _ _ ↦ ranksBefore_antisymm) (ranksBefore_presented others)
    (ranksBefore_presented given) ((presented_perm_presented hperm).map rank)

/-- Without different results of one rank, so are the results. -/
theorem presented_eq_of_perm (hperm : others.Perm given)
    (hdistinct : ∀ left ∈ given, ∀ right ∈ given, order left right = .eq → left = right) :
    presented others = presented given := by
  refine List.Perm.eq_of_pairwise (fun left right hleft hright hle hge ↦ ?_)
    (arranged_presented others).ascending (arranged_presented given).ascending
    (presented_perm_presented hperm)
  have hleft' : left ∈ given := hperm.subset ((arranged_presented others).perm.subset hleft)
  have hright' : right ∈ given := (arranged_presented given).perm.subset hright
  exact hdistinct left hleft' right hright' (OrientedCmp.isLE_antisymm hle hge)

/-- The canonical comparison is a total preorder that tells results apart by their four fields, and
sorting by it is stable, ascending and idempotent. What is presented of a permutation of the results
has the same ranks, and is the same altogether unless different results compare equal. -/
theorem canonical_order :
    TotalPreorder order ∧
    (∀ left right, order left right = .eq ↔ left.rank = right.rank) ∧
    (∀ left right, (order left right).isLE = true ↔ left.Precedes right) ∧
    (∀ left right byte rest, left.rssi = right.rssi → left.frequency = right.frequency →
      right.ssid = left.ssid ++ byte :: rest → order left right = .lt) ∧
    (∀ given, Arranged given (presented given) ∧ (presented given).Pairwise Precedes ∧
      presented (presented given) = presented given) ∧
    ∀ given others, others.Perm given →
      (presented others).map rank = (presented given).map rank ∧
      ((∀ left ∈ given, ∀ right ∈ given, order left right = .eq → left = right) →
        presented others = presented given) := by
  refine ⟨totalPreorder_order, fun _ _ ↦ order_eq_iff, fun _ _ ↦ isLE_order_iff,
    fun _ _ _ _ hrssi hfrequency ↦ order_of_continued hrssi hfrequency, fun given ↦ ?_,
    fun given others hperm ↦ ?_⟩
  · exact ⟨arranged_presented given, precedes_presented given, presented_presented given⟩
  · exact ⟨map_rank_presented hperm, presented_eq_of_perm hperm⟩

/-- Two access points of one network, heard equally well on one channel, and the network whose name
continues theirs. -/
def namesakes : List Sighting :=
  [⟨[7, 0], .zero, 2412, -50, 3, ""⟩, ⟨[7], ⟨[2, 0, 0, 0, 0, 0], rfl⟩, 2412, -50, 1, ""⟩,
    ⟨[7], .zero, 2412, -50, 2, ""⟩]

theorem canonical_order_namesakes :
    (∀ left ∈ namesakes, ∀ right ∈ namesakes, order left right = .eq → left = right) ∧
      presented namesakes.reverse = presented namesakes := by
  obtain ⟨_, _, _, _, _, hunique⟩ := canonical_order
  have hdistinct : ∀ left ∈ namesakes, ∀ right ∈ namesakes,
      order left right = .eq → left = right := by decide
  exact ⟨hdistinct, (hunique namesakes namesakes.reverse namesakes.reverse_perm).2 hdistinct⟩

end Sighting

end RadioScan
