import RadioScan.Sighting.Screening

/-!
Screening loses nothing and adds nothing: what is kept are the results that meet the rule, in the
driver's order, and what is not kept is counted (`Screened.exact_ofRule`). A looser rule keeps at
least as much (`Screened.kept_sublist`). Rounding both the start and the sighting down to the
microsecond is sound: a sighting made after the start is never too old, and one made a whole
microsecond before it always is (`Sighting.timely_of_le`, `Sighting.not_timely_of_le`).
-/

set_option autoImplicit false
set_option relaxedAutoImplicit false

namespace RadioScan

/-! ### The rules -/

namespace Sighting

/-- The sighting is no older than the microsecond in which the scan began. -/
def Timely (startNanos : Int) (sighting : Sighting) : Prop :=
  startNanos / 1000 ≤ sighting.timestampMicros

instance (startNanos : Int) (sighting : Sighting) : Decidable (sighting.Timely startNanos) :=
  inferInstanceAs (Decidable (startNanos / 1000 ≤ sighting.timestampMicros))

/-- The sighting lies on a requested channel or in the 6 GHz band. -/
def Wanted (requested : ChannelSet) (sighting : Sighting) : Prop :=
  sighting.frequency ∈ requested ∨ 5925 ≤ sighting.frequency ∧ sighting.frequency ≤ 7125

instance (requested : ChannelSet) (sighting : Sighting) : Decidable (sighting.Wanted requested) :=
  inferInstanceAs (Decidable (sighting.frequency ∈ requested ∨
    5925 ≤ sighting.frequency ∧ sighting.frequency ≤ 7125))

/-- The sighting was made in the given nanosecond, of which its timestamp has the microsecond. -/
def MadeAt (nanos : Int) (sighting : Sighting) : Prop := sighting.timestampMicros = nanos / 1000

variable {sighting : Sighting} {startNanos nanos : Int} {requested : ChannelSet}

theorem seenSince_iff : sighting.seenSince startNanos = true ↔ sighting.Timely startNanos :=
  decide_eq_true_iff

theorem onChannel_iff : sighting.onChannel requested = true ↔ sighting.Wanted requested := by
  simp [onChannel, inSixGhz, Wanted]

theorem timely_of_le (hmade : sighting.MadeAt nanos) (hlater : startNanos ≤ nanos) :
    sighting.Timely startNanos := by
  rw [Timely, hmade]
  exact Int.ediv_le_ediv (by decide) hlater

theorem not_timely_of_le (hmade : sighting.MadeAt nanos) (hearlier : nanos ≤ startNanos - 1000) :
    ¬ sighting.Timely startNanos := by
  rw [Timely, hmade, Int.not_le]
  -- A thousand nanoseconds are one microsecond, wherever in a microsecond the start lies.
  calc nanos / 1000
      ≤ (startNanos - 1000) / 1000 := Int.ediv_le_ediv (by decide) hearlier
    _ < startNanos / 1000 := by omega

theorem Wanted.mono {more : ChannelSet} (hsubset : ∀ frequency ∈ requested, frequency ∈ more)
    (h : sighting.Wanted requested) : sighting.Wanted more :=
  h.imp_left (hsubset sighting.frequency)

end Sighting

/-! ### Screening -/

namespace Screened

/-- The screening kept just the results that meet the rule, in their order and as often as they
came, and counted the others. -/
structure Exact (screened : Screened) (rule : Sighting → Prop) [DecidablePred rule]
    (results : List RawSighting) : Prop where
  kept_eq : screened.kept = (results.map RawSighting.sighting).filter fun sighting ↦ rule sighting
  length_add_dropped : screened.kept.length + screened.dropped = results.length

variable {results : List RawSighting}

theorem length_kept_add_dropped (rule : Sighting → Bool) (results : List RawSighting) :
    (ofRule rule results).kept.length + (ofRule rule results).dropped = results.length := by
  induction results with
  | nil => rfl
  | cons raw rest ih =>
    rw [ofRule, List.length_cons]
    by_cases hrule : rule raw.sighting
    · simp only [hrule, if_true, List.length_cons]
      omega
    · simp only [hrule, Bool.false_eq_true, if_false]
      omega

theorem exact_ofRule {rule : Sighting → Bool} {meets : Sighting → Prop} [DecidablePred meets]
    (hrule : ∀ sighting, rule sighting = true ↔ meets sighting) (results : List RawSighting) :
    (ofRule rule results).Exact meets results where
  kept_eq := by
    rw [kept_ofRule]
    refine List.filter_congr fun sighting _ ↦ ?_
    exact Bool.eq_iff_iff.mpr ((hrule sighting).trans decide_eq_true_iff.symm)
  length_add_dropped := length_kept_add_dropped rule results

/-- A rule that implies another keeps a subsequence of what the other keeps. -/
theorem kept_sublist {rule looser : Sighting → Bool}
    (h : ∀ sighting, rule sighting = true → looser sighting = true) (results : List RawSighting) :
    (ofRule rule results).kept.Sublist (ofRule looser results).kept := by
  have hboth (sighting : Sighting) : (rule sighting && looser sighting) = rule sighting := by
    cases hrule : rule sighting with
    | true => rw [h sighting hrule, Bool.and_self]
    | false => rfl
  rw [kept_ofRule, kept_ofRule]
  have hsublist := List.filter_sublist
    (p := rule) (l := (results.map RawSighting.sighting).filter looser)
  rwa [List.filter_filter, funext hboth] at hsublist

theorem mem_kept_iff {screened : Screened} {rule : Sighting → Prop} [DecidablePred rule]
    (hexact : screened.Exact rule results) {raw : RawSighting} (hraw : raw ∈ results) :
    raw.sighting ∈ screened.kept ↔ rule raw.sighting := by
  rw [hexact.kept_eq, List.mem_filter, decide_eq_true_iff]
  exact and_iff_right (List.mem_map_of_mem hraw)

theorem exact_ofScan (startNanos : Int) (requested : ChannelSet) (results : List RawSighting) :
    (ofScan startNanos requested results).Exact
      (fun sighting ↦ sighting.Timely startNanos ∧ sighting.Wanted requested) results :=
  exact_ofRule (fun sighting ↦ by
    rw [Bool.and_eq_true, Sighting.seenSince_iff, Sighting.onChannel_iff]) results

theorem exact_ofOffload (startNanos : Int) (results : List RawSighting) :
    (ofOffload startNanos results).Exact (fun sighting ↦ sighting.Timely startNanos) results :=
  exact_ofRule (fun _ ↦ Sighting.seenSince_iff) results

/-- Both screenings are exact and account for every result. A result of a sighting made after the
start is never dropped for its age, one of a sighting made at least a microsecond before always is.
The more channels are requested the more is kept, and at most what an offloaded scan would keep. -/
theorem screening_exact (startNanos : Int) (requested : ChannelSet)
    (results : List RawSighting) :
    (ofScan startNanos requested results).Exact
      (fun sighting ↦ sighting.Timely startNanos ∧ sighting.Wanted requested) results ∧
    (ofOffload startNanos results).Exact (fun sighting ↦ sighting.Timely startNanos) results ∧
    (∀ raw ∈ results, ∀ nanos, raw.sighting.MadeAt nanos →
      (startNanos ≤ nanos → raw.sighting ∈ (ofOffload startNanos results).kept ∧
        (raw.sighting.Wanted requested →
          raw.sighting ∈ (ofScan startNanos requested results).kept)) ∧
      (nanos ≤ startNanos - 1000 → raw.sighting ∉ (ofOffload startNanos results).kept ∧
        raw.sighting ∉ (ofScan startNanos requested results).kept)) ∧
    (∀ more : ChannelSet, (∀ frequency ∈ requested, frequency ∈ more) →
      (ofScan startNanos requested results).kept.Sublist
        (ofScan startNanos more results).kept) ∧
    (ofScan startNanos requested results).kept.Sublist (ofOffload startNanos results).kept := by
  have hscan := exact_ofScan startNanos requested results
  have hoffload := exact_ofOffload startNanos results
  refine ⟨hscan, hoffload, fun raw hraw nanos hmade ↦ ⟨fun hlater ↦ ?_, fun hearlier ↦ ?_⟩,
    fun more hsubset ↦ ?_, ?_⟩
  · rw [mem_kept_iff hoffload hraw, mem_kept_iff hscan hraw]
    have htimely := Sighting.timely_of_le hmade hlater
    exact ⟨htimely, fun hwanted ↦ ⟨htimely, hwanted⟩⟩
  · rw [mem_kept_iff hoffload hraw, mem_kept_iff hscan hraw]
    have hstale := Sighting.not_timely_of_le hmade hearlier
    exact ⟨hstale, fun hkept ↦ hstale hkept.1⟩
  · refine kept_sublist (fun sighting ↦ ?_) results
    simp only [Bool.and_eq_true, Sighting.onChannel_iff]
    exact And.imp_right (Sighting.Wanted.mono hsubset)
  · refine kept_sublist (fun sighting ↦ ?_) results
    rw [Bool.and_eq_true]
    exact And.left

/-- A sighting on a channel at a time in microseconds. -/
def heard (frequency : Frequency) (timestampMicros : Int) : RawSighting :=
  ⟨⟨[], .zero, frequency, -50, timestampMicros, ""⟩, none⟩

/-- Times before zero are rounded down as well: the sighting of the very nanosecond in which the
scan begins counts, the one of a microsecond before does not. -/
theorem screening_exact_belowZero :
    let results := [heard 2412 (-2), heard 5955 (-3)]
    let requested := ChannelSet.empty.insert 2412
    (heard 2412 (-2)).sighting ∈ (ofScan (-1500) requested results).kept ∧
      (heard 5955 (-3)).sighting ∉ (ofScan (-1500) requested results).kept := by
  intro results requested
  obtain ⟨_, _, hsound, _⟩ := screening_exact (-1500) requested results
  have hatStart := hsound (heard 2412 (-2)) (by simp [results]) (-1500)
    (show (-2 : Int) = -1500 / 1000 by decide)
  have hbefore := hsound (heard 5955 (-3)) (by simp [results]) (-2500)
    (show (-3 : Int) = -2500 / 1000 by decide)
  exact ⟨(hatStart.1 (by decide)).2 (by decide), (hbefore.2 (by decide)).2⟩

end Screened

end RadioScan
