import RadioScan.Spectrum.ChannelPlan

/-!
Which bands a set of channels covers. The union of the covered bands has the bit of a band exactly
if the band has channels and the set contains all of them (`ChannelPlan.getLsbD_coveredBands`).

There are two ways to ask whether a set covers a mask: `ChannelPlan.covers` goes through the known
bands of the mask, `ChannelPlan.CoversEveryBit` compares the mask with that union bit by bit. The
first does not look at the bits that name no known band, so the two part where such a bit decides
(`ChannelPlan.covers_exact`): a set without channels covers a mask that has no other bits.
-/

set_option autoImplicit false
set_option relaxedAutoImplicit false

namespace RadioScan

namespace Band

theorem getLsbD_mask (band : Band) (bit : Nat) :
    band.mask.getLsbD bit = true ↔ band.position = bit := by
  have hposition : band.position < 32 := by cases band <;> decide
  simp [mask, BitVec.getLsbD_twoPow, hposition]

/-- The mask of a band names that band and no other. -/
theorem ofMask_mask (band : Band) : ofMask band.mask = [band] := by cases band <;> decide

theorem position_injective {left right : Band} (h : left.position = right.position) :
    left = right := by
  cases left <;> cases right <;> simp_all [position]

/-- The known bands own the five lowest bits of a mask. -/
theorem exists_position_eq_iff {bit : Nat} : (∃ band : Band, band.position = bit) ↔ bit < 5 := by
  constructor
  · rintro ⟨band, rfl⟩
    cases band <;> decide
  · intro hbit
    have hknown : ∀ bit < 5, ∃ band ∈ all, band.position = bit := by decide
    obtain ⟨band, _, hposition⟩ := hknown bit hbit
    exact ⟨band, hposition⟩

theorem mask_ne_unspecified (band : Band) : band.mask ≠ BandMask.unspecified := by
  cases band <;> decide

end Band

/-- A bit of a union of masks is set if it is set in one of them. -/
theorem BandMask.getLsbD_foldl_or (masks : List BandMask) (start : BandMask) (bit : Nat) :
    (masks.foldl (· ||| ·) start).getLsbD bit = true ↔
      start.getLsbD bit = true ∨ ∃ mask ∈ masks, mask.getLsbD bit = true := by
  induction masks generalizing start with
  | nil => simp
  | cons mask rest ih =>
    rw [List.foldl_cons, ih, BitVec.getLsbD_or, Bool.or_eq_true]
    simp [or_assoc]

namespace ChannelPlan

variable {plan : ChannelPlan} {set : ChannelSet}

theorem coversBand_iff {band : Band} :
    plan.coversBand set band = true ↔
      plan.table band ≠ [] ∧ ∀ frequency ∈ plan.table band, frequency ∈ set := by
  simp [coversBand]

theorem covers_mask (band : Band) : plan.covers set band.mask = plan.coversBand set band := by
  simp [covers, band.mask_ne_unspecified, band.ofMask_mask]

theorem getLsbD_coveredBands {bit : Nat} :
    (plan.coveredBands set).getLsbD bit = true ↔
      ∃ band : Band, band.position = bit ∧ plan.table band ≠ [] ∧
        ∀ frequency ∈ plan.table band, frequency ∈ set := by
  have hstart : BandMask.unspecified.getLsbD bit = false := by simp [BandMask.unspecified]
  rw [coveredBands, BandMask.getLsbD_foldl_or, hstart]
  constructor
  · rintro (hfalse | ⟨mask, hmask, hbit⟩)
    · cases hfalse
    · obtain ⟨hknown, hcovers⟩ := List.mem_filter.mp hmask
      obtain ⟨band, _, rfl⟩ := List.mem_map.mp hknown
      rw [covers_mask] at hcovers
      exact ⟨band, (band.getLsbD_mask bit).mp hbit, coversBand_iff.mp hcovers⟩
  · rintro ⟨band, hposition, hcovered⟩
    refine Or.inr ⟨band.mask, List.mem_filter.mpr ⟨?_, ?_⟩, (band.getLsbD_mask bit).mpr hposition⟩
    · exact List.mem_map.mpr ⟨band, band.mem_all, rfl⟩
    · rw [covers_mask]
      exact coversBand_iff.mpr hcovered

theorem getLsbD_coveredBands_position {band : Band} :
    (plan.coveredBands set).getLsbD band.position = true ↔ plan.coversBand set band = true := by
  rw [getLsbD_coveredBands, coversBand_iff]
  constructor
  · rintro ⟨other, hposition, hcovered⟩
    rwa [← Band.position_injective hposition]
  · intro hcovered
    exact ⟨band, rfl, hcovered⟩

theorem lt_five_of_getLsbD_coveredBands {bit : Nat}
    (h : (plan.coveredBands set).getLsbD bit = true) : bit < 5 := by
  obtain ⟨band, hposition, _⟩ := getLsbD_coveredBands.mp h
  exact Band.exists_position_eq_iff.mp ⟨band, hposition⟩

/-! ### Masks -/

/-- The mask names something, and each bit that it sets is the bit of a covered band. -/
def CoversEveryBit (plan : ChannelPlan) (set : ChannelSet) (mask : BandMask) : Prop :=
  mask ≠ BandMask.unspecified ∧
    ∀ bit, mask.getLsbD bit = true → (plan.coveredBands set).getLsbD bit = true

variable {mask : BandMask}

theorem covers_iff :
    plan.covers set mask = true ↔ mask ≠ BandMask.unspecified ∧
      ∀ bit < 5, mask.getLsbD bit = true → (plan.coveredBands set).getLsbD bit = true := by
  have hknown : (Band.ofMask mask).all (plan.coversBand set) = true ↔
      ∀ bit < 5, mask.getLsbD bit = true → (plan.coveredBands set).getLsbD bit = true := by
    rw [List.all_eq_true]
    constructor
    · intro hall bit hbit hmask
      obtain ⟨band, rfl⟩ := Band.exists_position_eq_iff.mpr hbit
      exact getLsbD_coveredBands_position.mpr (hall band (Band.mem_ofMask.mpr hmask))
    · intro hall band hband
      have hbit : band.position < 5 := Band.exists_position_eq_iff.mp ⟨band, rfl⟩
      exact getLsbD_coveredBands_position.mp (hall _ hbit (Band.mem_ofMask.mp hband))
  rw [covers, Bool.and_eq_true, hknown, decide_eq_true_iff]

theorem covers_eq_false_iff :
    plan.covers set mask = false ↔ mask = BandMask.unspecified ∨
      ∃ bit < 5, mask.getLsbD bit = true ∧ (plan.coveredBands set).getLsbD bit = false := by
  rw [← Bool.not_eq_true, covers_iff]
  by_cases hnone : mask = BandMask.unspecified <;> simp [hnone]

/-- Comparing every bit of a mask asks for more than covering it only in that it refuses the bits
that name no known band. -/
theorem coversEveryBit_iff :
    plan.CoversEveryBit set mask ↔
      plan.covers set mask = true ∧ ∀ bit, mask.getLsbD bit = true → bit < 5 := by
  rw [covers_iff, CoversEveryBit]
  constructor
  · rintro ⟨hsome, hevery⟩
    refine ⟨⟨hsome, fun bit _ ↦ hevery bit⟩, fun bit hbit ↦ ?_⟩
    exact lt_five_of_getLsbD_coveredBands (hevery bit hbit)
  · rintro ⟨⟨hsome, hknown⟩, hlow⟩
    exact ⟨hsome, fun bit hbit ↦ hknown bit (hlow bit hbit) hbit⟩

/-- The bits of the known bands decide whether a set covers a mask. That is the same as comparing
every bit of the mask with the covered bands exactly if the mask has no other bits or one of its
known bands is left uncovered. -/
theorem covers_exact (plan : ChannelPlan) (set : ChannelSet) (mask : BandMask) :
    (plan.covers set mask = true ↔ mask ≠ BandMask.unspecified ∧
      ∀ bit < 5, mask.getLsbD bit = true → (plan.coveredBands set).getLsbD bit = true) ∧
    ((plan.covers set mask = true ↔ plan.CoversEveryBit set mask) ↔
      (∀ bit, mask.getLsbD bit = true → bit < 5) ∨
        ∃ bit < 5, mask.getLsbD bit = true ∧ (plan.coveredBands set).getLsbD bit = false) := by
  refine ⟨covers_iff, ?_⟩
  rw [coversEveryBit_iff]
  constructor
  · intro hagree
    cases hcovers : plan.covers set mask with
    | true => exact Or.inl (hagree.mp hcovers).2
    | false =>
      rcases covers_eq_false_iff.mp hcovers with rfl | hgap
      · exact Or.inl fun bit hbit ↦ by simp [BandMask.unspecified] at hbit
      · exact Or.inr hgap
  · rintro (hlow | hgap)
    · exact ⟨fun hcovers ↦ ⟨hcovers, hlow⟩, And.left⟩
    · have huncovered := covers_eq_false_iff.mpr (Or.inr hgap)
      simp [huncovered]

/-- A set without channels covers the mask of the first bit above the known bands, though it covers
no band. -/
theorem not_coversEveryBit_unknownBit :
    ¬ (ChannelPlan.standard.covers (ChannelPlan.standard.gather []) 0x20#32 = true ↔
      ChannelPlan.standard.CoversEveryBit (ChannelPlan.standard.gather []) 0x20#32) := by
  intro hagree
  have hcovers : ChannelPlan.standard.covers (ChannelPlan.standard.gather []) 0x20#32 = true := by
    decide
  have hbit := (hagree.mp hcovers).2 5 (by decide)
  have hlt := lt_five_of_getLsbD_coveredBands hbit
  exact absurd hlt (by decide)

end ChannelPlan

end RadioScan
