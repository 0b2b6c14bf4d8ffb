import RadioScan.Proofs.Coverage

/-!
What a list of buckets asks for under restrictions. The table of a band is that of the last
restriction whose mask is just the band's bit (`ChannelPlan.table_restrictAll`). What is gathered is
the union of what the buckets ask for, whichever way a channel got there, and so depends neither on
their order nor on their number (`ChannelPlan.gathered_gather`, `ChannelPlan.gather_congr`); the
bands that it covers only grow with the buckets (`ChannelPlan.getLsbD_coveredBands_mono`).
-/

set_option autoImplicit false
set_option relaxedAutoImplicit false

namespace RadioScan

theorem Band.only?_eq_some_iff {mask : BandMask} {band : Band} :
    Band.only? mask = some band ↔ mask = band.mask := by
  constructor
  · intro h
    rw [Band.only?] at h
    simpa using List.find?_some h
  · rintro rfl
    cases band <;> decide

/-- The channels on offer from then on in the band that a mask consists of. -/
structure Restriction where
  mask : BandMask
  channels : List Frequency

namespace ChannelPlan

/-! ### Restrictions -/

def restrictAll (plan : ChannelPlan) (restrictions : List Restriction) : ChannelPlan :=
  restrictions.foldl (fun plan restriction ↦ plan.restrict restriction.mask restriction.channels)
    plan

theorem table_restrict (plan : ChannelPlan) (mask : BandMask) (channels : List Frequency)
    (band : Band) :
    (plan.restrict mask channels).table band =
      if mask = band.mask then channels else plan.table band := by
  rw [restrict]
  cases honly : Band.only? mask with
  | none =>
    have hother : mask ≠ band.mask := by
      intro hmask
      rw [Band.only?_eq_some_iff.mpr hmask] at honly
      cases honly
    rw [if_neg hother]
  | some restricted =>
    have hsame : band = restricted ↔ mask = band.mask := by
      rw [← Band.only?_eq_some_iff, honly, Option.some.injEq, eq_comm]
    simp only [hsame]

/-- The last restriction of a band alone is the one in force; the others do not matter for it. -/
theorem table_restrictAll (plan : ChannelPlan) (restrictions : List Restriction) (band : Band) :
    (plan.restrictAll restrictions).table band =
      ((restrictions.filter fun restriction ↦ restriction.mask = band.mask).getLast?.map
        Restriction.channels).getD (plan.table band) := by
  induction restrictions generalizing plan with
  | nil => rfl
  | cons restriction rest ih =>
    have hstep : plan.restrictAll (restriction :: rest) =
        (plan.restrict restriction.mask restriction.channels).restrictAll rest := rfl
    rw [hstep, ih, table_restrict, List.filter_cons]
    by_cases hmask : restriction.mask = band.mask
    · simp only [hmask, decide_true, if_true, List.getLast?_cons]
      cases (rest.filter fun restriction ↦ restriction.mask = band.mask).getLast? <;> rfl
    · simp [hmask]

/-! ### Buckets -/

variable {plan : ChannelPlan} {buckets others : List Bucket}

/-- One of the buckets asks for the frequency: it names no band and lists it, or the bands that it
names have it on offer. -/
def Asked (plan : ChannelPlan) (buckets : List Bucket) (frequency : Frequency) : Prop :=
  ∃ bucket ∈ buckets,
    bucket.bands = BandMask.unspecified ∧ frequency ∈ bucket.channels ∨
      bucket.bands ≠ BandMask.unspecified ∧ frequency ∈ plan.available bucket.bands

/-- The set holds just what the buckets ask for, in ascending order and each frequency once. -/
structure Gathered (plan : ChannelPlan) (buckets : List Bucket) (set : ChannelSet) : Prop where
  ascending : set.toList.Pairwise (· < ·)
  mem_toList : ∀ frequency, frequency ∈ set.toList ↔ plan.Asked buckets frequency
  mem_iff : ∀ frequency : Frequency, frequency ∈ set ↔ plan.Asked buckets frequency
  isEmpty_iff : set.isEmpty = true ↔ ∀ frequency, ¬ plan.Asked buckets frequency

theorem mem_gather_iff_asked {frequency : Frequency} :
    frequency ∈ plan.gather buckets ↔ plan.Asked buckets frequency := by
  rw [mem_gather]
  refine exists_congr fun bucket ↦ and_congr_right fun _ ↦ ?_
  rw [frequencies]
  split
  · next hunnamed => simp [hunnamed]
  · next hnamed => simp [hnamed]

theorem gathered_gather (plan : ChannelPlan) (buckets : List Bucket) :
    plan.Gathered buckets (plan.gather buckets) where
  ascending := (plan.gather buckets).ascending
  mem_toList _ := mem_gather_iff_asked
  mem_iff _ := mem_gather_iff_asked
  isEmpty_iff := by
    rw [ChannelSet.isEmpty_iff]
    exact forall_congr' fun _ ↦ not_congr mem_gather_iff_asked

theorem Asked.mono (hsubset : buckets ⊆ others) {frequency : Frequency}
    (h : plan.Asked buckets frequency) : plan.Asked others frequency := by
  obtain ⟨bucket, hbucket, hasks⟩ := h
  exact ⟨bucket, hsubset hbucket, hasks⟩

/-- Buckets in another order, or more than once, ask for the same channels. -/
theorem gather_congr (plan : ChannelPlan) (h : ∀ bucket, bucket ∈ others ↔ bucket ∈ buckets) :
    plan.gather others = plan.gather buckets := by
  refine ChannelSet.ext_of_mem fun frequency ↦ ?_
  rw [mem_gather_iff_asked, mem_gather_iff_asked]
  exact ⟨Asked.mono fun bucket ↦ (h bucket).mp, Asked.mono fun bucket ↦ (h bucket).mpr⟩

theorem getLsbD_coveredBands_gather {bit : Nat} :
    (plan.coveredBands (plan.gather buckets)).getLsbD bit = true ↔
      bit < 5 ∧ ∃ band : Band, band.position = bit ∧ plan.table band ≠ [] ∧
        ∀ frequency ∈ plan.table band, plan.Asked buckets frequency := by
  simp only [getLsbD_coveredBands, mem_gather_iff_asked]
  constructor
  · rintro ⟨band, hposition, hcovered⟩
    exact ⟨Band.exists_position_eq_iff.mp ⟨band, hposition⟩, band, hposition, hcovered⟩
  · exact And.right

/-- Further buckets leave covered what was covered. -/
theorem getLsbD_coveredBands_mono (hsubset : buckets ⊆ others) {bit : Nat}
    (h : (plan.coveredBands (plan.gather buckets)).getLsbD bit = true) :
    (plan.coveredBands (plan.gather others)).getLsbD bit = true := by
  obtain ⟨hbit, band, hposition, hoffered, hasked⟩ := getLsbD_coveredBands_gather.mp h
  exact getLsbD_coveredBands_gather.mpr ⟨hbit, band, hposition, hoffered,
    fun frequency hmem ↦ (hasked frequency hmem).mono hsubset⟩

/-- Under any restrictions, the table in force in a band is that of the last restriction of this
band alone; what is gathered is the union of what the buckets ask for; and a band is covered exactly
if it has channels and all of them are in that union. -/
theorem gather_exact (unrestricted : ChannelPlan) (restrictions : List Restriction)
    (buckets : List Bucket) :
    let plan := unrestricted.restrictAll restrictions
    (∀ band, plan.table band =
      ((restrictions.filter fun restriction ↦ restriction.mask = band.mask).getLast?.map
        Restriction.channels).getD (unrestricted.table band)) ∧
    plan.Gathered buckets (plan.gather buckets) ∧
    (∀ others : List Bucket, (∀ bucket, bucket ∈ others ↔ bucket ∈ buckets) →
      plan.gather others = plan.gather buckets) ∧
    (∀ bit, (plan.coveredBands (plan.gather buckets)).getLsbD bit = true ↔
      bit < 5 ∧ ∃ band : Band, band.position = bit ∧ plan.table band ≠ [] ∧
        ∀ frequency ∈ plan.table band, plan.Asked buckets frequency) ∧
    ∀ others : List Bucket, buckets ⊆ others →
      ∀ bit, (plan.coveredBands (plan.gather buckets)).getLsbD bit = true →
        (plan.coveredBands (plan.gather others)).getLsbD bit = true := by
  intro plan
  refine ⟨table_restrictAll unrestricted restrictions, gathered_gather plan buckets, ?_, ?_, ?_⟩
  · exact fun others h ↦ gather_congr plan h
  · exact fun bit ↦ getLsbD_coveredBands_gather
  · exact fun others hsubset bit ↦ getLsbD_coveredBands_mono hsubset

/-- The 2.4 GHz band is restricted twice. The other two masks are not of one band alone. -/
def regional : List Restriction :=
  [⟨Band.ghz2.mask, []⟩, ⟨BandMask.ghz5WithDfs, []⟩, ⟨Band.ghz2.mask, [2437, 2412, 2437]⟩,
    ⟨0x21#32, [1]⟩]

/-- Listed channels cover the restricted band, which no bucket names. -/
theorem gather_exact_regional :
    let plan := standard.restrictAll regional
    let listed : Bucket := ⟨BandMask.unspecified, [2412, 2437], 0#32⟩
    let named : Bucket := ⟨Band.ghz60.mask, [], 0#32⟩
    plan.table .ghz2 = [2437, 2412, 2437] ∧
      plan.gather [listed, named, listed] = plan.gather [named, listed] ∧
      (plan.coveredBands (plan.gather [listed])).getLsbD 0 = true ∧
      (plan.coveredBands (plan.gather [named, listed])).getLsbD 0 = true := by
  intro plan listed named
  obtain ⟨htable, _, _, _, hmono⟩ := gather_exact standard regional [listed]
  obtain ⟨_, _, hcongr, _⟩ := gather_exact standard regional [named, listed]
  have hlisted : (plan.coveredBands (plan.gather [listed])).getLsbD 0 = true := by decide
  refine ⟨htable .ghz2, hcongr [listed, named, listed] fun bucket ↦ ?_, hlisted, ?_⟩
  · simp only [List.mem_cons, List.not_mem_nil, or_false]
    constructor
    · rintro (h | h | h) <;> simp [h]
    · rintro (h | h) <;> simp [h]
  · exact hmono [named, listed] (by simp) 0 hlisted

end ChannelPlan

end RadioScan
