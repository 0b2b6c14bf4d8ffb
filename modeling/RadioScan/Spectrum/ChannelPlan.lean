import RadioScan.Spectrum.ChannelSet

/-!
Channel plans: which channels each band offers, what a list of buckets asks for under a plan, and
which bands a set of channels covers completely. `ChannelPlan.gather` is the union of what the
buckets ask for (`mem_gather`).
-/

set_option autoImplicit false
set_option relaxedAutoImplicit false

namespace RadioScan

/-- The channels on offer in each band. -/
structure ChannelPlan where
  table : Band → List Frequency

/-- The first `count` terms of the progression that starts at `first`. -/
def evenlySpaced (first spacing count : Nat) : List Frequency :=
  (List.range count).map fun i ↦ first + spacing * i

/-- One part of a scan request: the bands in `bands`, or, when that names none, exactly the
frequencies in `channels`. -/
structure Bucket where
  bands : BandMask
  channels : List Frequency
  reportEvents : BitVec 32
  deriving DecidableEq, Repr

namespace Bucket

/-- The flag bits of `reportEvents`. -/
def afterEachScan : BitVec 32 := 1#32

def fullResults : BitVec 32 := 2#32

def noBatch : BitVec 32 := 4#32

/-- The bucket asks for every result to be delivered as it stands, before the final status. -/
def wantsFullResults (bucket : Bucket) : Bool :=
  bucket.reportEvents &&& fullResults ≠ 0#32

end Bucket

namespace ChannelPlan

/-- The channels allotted to each band where no regional restriction applies. -/
def standard : ChannelPlan where
  table
    | .ghz2 => evenlySpaced 2412 5 13
    | .ghz5 => evenlySpaced 5180 20 4 ++ evenlySpaced 5745 20 5
    | .ghz5Dfs => evenlySpaced 5260 20 4 ++ evenlySpaced 5500 20 12
    | .ghz6 => evenlySpaced 5955 20 59
    | .ghz60 => evenlySpaced 58320 2160 6

/-- Replaces the table of the one band that the mask consists of; any other mask leaves the plan
as it is. -/
def restrict (plan : ChannelPlan) (mask : BandMask) (channels : List Frequency) : ChannelPlan :=
  match Band.only? mask with
  | some band => ⟨fun other ↦ if other = band then channels else plan.table other⟩
  | none => plan

/-- The tables of the known bands in a mask, one after another in bit order. -/
def available (plan : ChannelPlan) (mask : BandMask) : List Frequency :=
  (Band.ofMask mask).flatMap plan.table

/-- What a single bucket asks for. -/
def frequencies (plan : ChannelPlan) (bucket : Bucket) : List Frequency :=
  if bucket.bands = BandMask.unspecified then bucket.channels else plan.available bucket.bands

/-- Adds what a bucket asks for: the channels that it lists, or one table after another. -/
def add (plan : ChannelPlan) (set : ChannelSet) (bucket : Bucket) : ChannelSet :=
  if bucket.bands = BandMask.unspecified then set.insertAll bucket.channels
  else (Band.ofMask bucket.bands).foldl (fun set band ↦ set.insertAll (plan.table band)) set

/-- What a list of buckets asks for altogether. -/
def gather (plan : ChannelPlan) (buckets : List Bucket) : ChannelSet :=
  buckets.foldl plan.add ChannelSet.empty

/-- The set contains the whole table of the band, and the band has channels at all. -/
def coversBand (plan : ChannelPlan) (set : ChannelSet) (band : Band) : Bool :=
  !(plan.table band).isEmpty && (plan.table band).all fun frequency ↦ frequency ∈ set

/-- The mask names something, and each known band in it is covered. Bits that name no known band
do not count. -/
def covers (plan : ChannelPlan) (set : ChannelSet) (mask : BandMask) : Bool :=
  mask ≠ BandMask.unspecified && (Band.ofMask mask).all (plan.coversBand set)

/-- The union of the bands that the set covers. -/
def coveredBands (plan : ChannelPlan) (set : ChannelSet) : BandMask :=
  ((Band.all.map Band.mask).filter (plan.covers set)).foldl (· ||| ·) BandMask.unspecified

theorem mem_available {plan : ChannelPlan} {mask : BandMask} {frequency : Frequency} :
    frequency ∈ plan.available mask ↔
      ∃ band : Band, mask.getLsbD band.position = true ∧ frequency ∈ plan.table band := by
  simp [available, Band.mem_ofMask]

theorem mem_foldl_table {plan : ChannelPlan} {bands : List Band} {set : ChannelSet}
    {frequency : Frequency} :
    frequency ∈ bands.foldl (fun set band ↦ set.insertAll (plan.table band)) set ↔
      frequency ∈ set ∨ frequency ∈ bands.flatMap plan.table := by
  induction bands generalizing set with
  | nil => simp
  | cons band bands ih =>
    rw [List.foldl_cons, ih, ChannelSet.mem_insertAll, List.flatMap_cons, List.mem_append,
      or_assoc]

theorem mem_add {plan : ChannelPlan} {set : ChannelSet} {bucket : Bucket}
    {frequency : Frequency} :
    frequency ∈ plan.add set bucket ↔
      frequency ∈ set ∨ frequency ∈ plan.frequencies bucket := by
  rw [add, frequencies]
  split
  · exact ChannelSet.mem_insertAll
  · exact mem_foldl_table

theorem mem_foldl_add {plan : ChannelPlan} {buckets : List Bucket} {set : ChannelSet}
    {frequency : Frequency} :
    frequency ∈ buckets.foldl plan.add set ↔
      frequency ∈ set ∨ ∃ bucket ∈ buckets, frequency ∈ plan.frequencies bucket := by
  induction buckets generalizing set with
  | nil => simp
  | cons bucket buckets ih =>
    rw [List.foldl_cons, ih, mem_add, or_assoc]
    simp

theorem mem_gather {plan : ChannelPlan} {buckets : List Bucket} {frequency : Frequency} :
    frequency ∈ plan.gather buckets ↔
      ∃ bucket ∈ buckets, frequency ∈ plan.frequencies bucket := by
  simp [gather, mem_foldl_add, ChannelSet.not_mem_empty]

end ChannelPlan

end RadioScan
