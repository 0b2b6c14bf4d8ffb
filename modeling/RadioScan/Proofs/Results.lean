import RadioScan.Proofs.Arrangement
import RadioScan.Proofs.Coverage
import RadioScan.Proofs.Ledger

/-!
What becomes of the driver's results. They count for the request that they end: those that belong to
it (`Booking.share`) go to its listener as they came and are presented in canonical order. An
episode that `harvests` is one in which results end a request. Nothing else changes what is
presented, so what there is to show is always what the last harvest left
(`Run.results_of_last_harvest`).
-/

set_option autoImplicit false
set_option relaxedAutoImplicit false

namespace RadioScan

/-! ### The results that belong to a request -/

namespace Booking

variable (booking : Booking)

/-- One of the request's buckets asks for the channel. -/
def Requests (frequency : Frequency) : Prop :=
  ∃ bucket ∈ booking.request.buckets, frequency ∈ booking.scanner.radio.plan.frequencies bucket

instance (frequency : Frequency) : Decidable (booking.Requests frequency) :=
  inferInstanceAs (Decidable (∃ bucket ∈ booking.request.buckets,
    frequency ∈ booking.scanner.radio.plan.frequencies bucket))

/-- The sighting is no older than the microsecond in which the request was made, and lies on one of
the request's channels or in the 6 GHz band. -/
def Admits (sighting : Sighting) : Prop :=
  booking.around.nanos / 1000 ≤ sighting.timestampMicros ∧
    (booking.Requests sighting.frequency ∨
      5925 ≤ sighting.frequency ∧ sighting.frequency ≤ 7125)

instance (sighting : Sighting) : Decidable (booking.Admits sighting) :=
  inferInstanceAs (Decidable (booking.around.nanos / 1000 ≤ sighting.timestampMicros ∧
    (booking.Requests sighting.frequency ∨
      5925 ≤ sighting.frequency ∧ sighting.frequency ≤ 7125)))

/-- The driver's results that belong to the request, in the driver's order. -/
def share (results : List RawSighting) : List Sighting :=
  (results.map RawSighting.sighting).filter fun sighting ↦ booking.Admits sighting

/-- What there is to show of the driver's results: those that belong to the request in canonical
order, with the bands that the request asks for completely. -/
structure Presents (results : List RawSighting) (snapshot : Snapshot) : Prop where
  id_eq : snapshot.id = 0
  flags_eq : snapshot.flags = 0
  bucketsScanned_eq : snapshot.bucketsScanned = 0
  covered : ∀ bit, snapshot.scannedBands.getLsbD bit = true ↔
    ∃ band : Band, band.position = bit ∧ booking.scanner.radio.plan.table band ≠ [] ∧
      ∀ frequency ∈ booking.scanner.radio.plan.table band, booking.Requests frequency
  arranged : Sighting.Arranged (booking.share results) snapshot.results

theorem mem_requested {frequency : Frequency} :
    frequency ∈ booking.scan.requested ↔ booking.Requests frequency :=
  ChannelPlan.mem_gather

theorem kept_scan (around : Surroundings) :
    booking.scan.kept around = booking.share around.scanResults := by
  have hstart : booking.scan.startNanos = booking.around.nanos := rfl
  rw [ActiveScan.kept, Screened.ofScan, Screened.kept_ofRule, share, hstart]
  refine List.filter_congr fun sighting _ ↦ ?_
  have hadmits : (sighting.seenSince booking.around.nanos &&
      sighting.onChannel booking.scan.requested) = true ↔ booking.Admits sighting := by
    simp [Sighting.seenSince, Sighting.onChannel, inSixGhz, Admits, mem_requested]
  exact Bool.eq_iff_iff.mpr (hadmits.trans decide_eq_true_iff.symm)

theorem presents_snapshot (around : Surroundings) :
    booking.Presents around.scanResults
      (booking.scan.snapshot booking.scanner.radio around) where
  id_eq := rfl
  flags_eq := rfl
  bucketsScanned_eq := rfl
  covered := fun bit ↦ by
    simp only [ActiveScan.snapshot, ChannelPlan.getLsbD_coveredBands, mem_requested]
  arranged := by
    rw [← kept_scan]
    exact Sighting.arranged_presented _

end Booking

/-! ### Harvests -/

/-- The driver announces results while a request is in the session, which ends with them. -/
def Episode.harvests (episode : Episode) : Bool :=
  decide (episode.action = .driverEvent .scanResultsAvailable ∧
    episode.scanner.single.phase ≠ .idle)

/-- The episodes in which results ended a request. -/
def History.harvests (past : History) : List Episode := past.filter Episode.harvests

/-- The driver's results end the request. They are fetched once, and if the listener is given
results in full, it is given those that belong to the request. -/
structure Booking.Harvested (booking : Booking) (episode : Episode) : Prop where
  occupied : booking.Occupies episode.scanner.single
  fetched_once : episode.effects.count (episode.scanner.radio.call .fetchScanResults) = 1
  given : ∀ listener results scanned,
    .notify listener (.scan (.fullResults results scanned)) ∈ episode.effects →
      listener = booking.listener ∧ results = booking.share episode.around.scanResults

/-- What the scanner has to show after a history: nothing, or what the last harvest gave for the
request that it ended. -/
def History.Shown (past : History) (scanner : Coordinator) : Prop :=
  match past.harvests.getLast? with
  | none => scanner.single.latest = .blank ∧ scanner.single.fetched = none
  | some episode => ∃ booking : Booking, booking.toEpisode ∈ past ∧ booking.Harvested episode ∧
      scanner.single.fetched = some episode.around.scanResults ∧
      booking.Presents episode.around.scanResults scanner.single.latest

namespace SingleSession.Passage

variable {session : SingleSession} {radio : Radio} {around : Surroundings} {action : Action}
variable {turn : Turn SingleSession}

/-- What there is to show changes only when the driver announces results for a request. -/
theorem results_eq (hpassage : session.Passage radio around action turn)
    (hquiet : ¬ (action = .driverEvent .scanResultsAvailable ∧ session.phase ≠ .idle)) :
    turn.next.latest = session.latest ∧ turn.next.fetched = session.fetched := by
  cases hpassage with
  | kept _ _ => exact ⟨rfl, rfl⟩
  | begun _ _ => exact ⟨rfl, rfl⟩
  | rung _ => exact ⟨rfl, rfl⟩
  | failed _ _ _ => exact ⟨rfl, rfl⟩
  | delivered hserves => exact absurd ⟨rfl, hserves.phase_ne_idle⟩ hquiet

end SingleSession.Passage

namespace Booking

variable {booking : Booking} {episode : Episode}

theorem Occupies.turn_announced (hoccupies : booking.Occupies episode.scanner.single)
    (haction : episode.action = .driverEvent .scanResultsAvailable) :
    episode.scanner.single.turn episode.scanner.radio episode.around episode.action =
      episode.scanner.single.delivered episode.scanner.radio episode.around booking.scan
        booking.alarm := by
  rw [haction, SingleSession.turn, hoccupies.serves.deliver]

theorem Occupies.effects_announced (hoccupies : booking.Occupies episode.scanner.single)
    (haction : episode.action = .driverEvent .scanResultsAvailable) :
    episode.effects = [.scheduler (.cancel booking.alarm.task),
        episode.scanner.radio.call .fetchScanResults]
      ++ (booking.scan.resultNotices episode.around).map booking.scan.tell := by
  have hoffload : (episode.scanner.offload.turn episode.scanner.radio episode.around
      episode.action).effects = [] := by
    rw [haction]
    rfl
  rw [Episode.effects_eq, hoffload, List.append_nil, hoccupies.turn_announced haction]
  rfl

/-- Results that are announced while a request is in the session end it. -/
theorem Occupies.harvested (hoccupies : booking.Occupies episode.scanner.single)
    (haction : episode.action = .driverEvent .scanResultsAvailable) :
    booking.Harvested episode where
  occupied := hoccupies
  fetched_once := by
    have hsilent : ((booking.scan.resultNotices episode.around).map booking.scan.tell).count
        (episode.scanner.radio.call .fetchScanResults) = 0 := by
      refine List.count_eq_zero.mpr fun hmem ↦ ?_
      obtain ⟨_, _, heq⟩ := List.mem_map.mp hmem
      cases heq
    rw [hoccupies.effects_announced haction, List.count_append, hsilent]
    simp [Radio.call]
  given := by
    intro listener results scanned hmem
    rw [hoccupies.effects_announced haction] at hmem
    have hfull : (.fullResults results scanned) ∈ booking.scan.resultNotices episode.around ∧
        booking.listener = listener := by
      simpa [Radio.call, ActiveScan.tell, scan, ScanRequest.scan] using hmem
    refine ⟨hfull.2.symm, ?_⟩
    rw [← booking.kept_scan]
    by_cases hwants : booking.scan.wantsFullResults
    · have hnotice : results = booking.scan.kept episode.around ∧ scanned = 0 := by
        simpa [ActiveScan.resultNotices, hwants] using hfull.1
      exact hnotice.1
    · have hnone : False := by simpa [ActiveScan.resultNotices, hwants] using hfull.1
      exact hnone.elim

end Booking

/-! ### Runs -/

namespace Run

variable {radio : Radio} {fallbackBatch : Nat} {past : History} {scanner : Coordinator}

theorem radio_eq (run : Run radio fallbackBatch past scanner) : scanner.radio = radio := by
  induction run with
  | fresh => rfl
  | snoc run hpossible ih => rw [Coordinator.radio_next_step, ih]

theorem radio_eq_of_mem (run : Run radio fallbackBatch past scanner) {episode : Episode}
    (hmem : episode ∈ past) : episode.scanner.radio = radio := by
  obtain ⟨_, _, _, hrun, _⟩ := run.split hmem
  exact hrun.radio_eq

/-- Results that come while the session is not idle end a request that was accepted before. -/
theorem exists_harvested (run : Run radio fallbackBatch past scanner) {around : Surroundings}
    {action : Action} (hharvests : Episode.harvests ⟨scanner, around, action⟩ = true) :
    ∃ booking : Booking, booking.toEpisode ∈ past ∧
      booking.Harvested ⟨scanner, around, action⟩ ∧
      (scanner.step around action).next.single.fetched = some around.scanResults ∧
      booking.Presents around.scanResults (scanner.step around action).next.single.latest := by
  obtain ⟨haction, hbusy⟩ := of_decide_eq_true hharvests
  rcases run.vacant_or_occupied with hvacant | ⟨booking, hmem, hoccupies⟩
  · exact absurd hvacant.phase_eq hbusy
  · have hradio : scanner.radio = booking.scanner.radio :=
      run.radio_eq.trans (run.radio_eq_of_mem hmem).symm
    have hturn := @Booking.Occupies.turn_announced booking ⟨scanner, around, action⟩ hoccupies
      haction
    refine ⟨booking, hmem, hoccupies.harvested haction, ?_, ?_⟩
    · rw [Coordinator.single_next_step, hturn]
      rfl
    · rw [Coordinator.single_next_step, hturn, hradio]
      exact booking.presents_snapshot around

theorem results_next_step (run : Run radio fallbackBatch past scanner) {around : Surroundings}
    {action : Action} (hquiet : Episode.harvests ⟨scanner, around, action⟩ = false) :
    (scanner.step around action).next.single.latest = scanner.single.latest ∧
      (scanner.step around action).next.single.fetched = scanner.single.fetched := by
  rw [Coordinator.single_next_step]
  exact (run.passage around action).results_eq (of_decide_eq_false hquiet)

theorem shown (run : Run radio fallbackBatch past scanner) : past.Shown scanner := by
  induction run with
  | fresh => exact ⟨rfl, rfl⟩
  | @snoc past scanner around action run hpossible ih =>
    have hold {booking : Booking} (hmem : booking.toEpisode ∈ past) :
        booking.toEpisode ∈ past ++ [⟨scanner, around, action⟩] := List.mem_append_left _ hmem
    by_cases hharvests : Episode.harvests ⟨scanner, around, action⟩ = true
    · have hlast : History.harvests (past ++ [⟨scanner, around, action⟩]) =
          past.harvests ++ [⟨scanner, around, action⟩] := by
        simp [History.harvests, hharvests]
      obtain ⟨booking, hmem, hbooking⟩ := run.exists_harvested hharvests
      rw [History.Shown, hlast, List.getLast?_concat]
      exact ⟨booking, hold hmem, hbooking⟩
    · have hquiet : Episode.harvests ⟨scanner, around, action⟩ = false := by
        simpa using hharvests
      have hlast : History.harvests (past ++ [⟨scanner, around, action⟩]) = past.harvests := by
        simp [History.harvests, hquiet]
      obtain ⟨hlatest, hfetched⟩ := run.results_next_step hquiet
      rw [History.Shown] at ih ⊢
      rw [hlast, hlatest, hfetched]
      cases hharvest : past.harvests.getLast? with
      | none =>
        rw [hharvest] at ih
        exact ih
      | some episode =>
        rw [hharvest] at ih
        obtain ⟨booking, hmem, hbooking⟩ := ih
        exact ⟨booking, hold hmem, hbooking⟩

/-- Whenever results end a request, they are fetched once, and the listener is given no others than
those that belong to its request. Nothing but such results changes what there is to show, so in
every state that is nothing, or what the last results gave for the request that they ended. -/
theorem results_of_last_harvest (run : Run radio fallbackBatch past scanner) :
    (∀ episode ∈ past.harvests, ∃ booking : Booking, booking.toEpisode ∈ past ∧
      booking.Harvested episode) ∧
    (∀ episode ∈ past, episode.harvests = false →
      episode.reply.next.single.latest = episode.scanner.single.latest ∧
        episode.reply.next.single.fetched = episode.scanner.single.fetched) ∧
    past.Shown scanner := by
  refine ⟨fun episode hharvest ↦ ?_, fun episode hmem hquiet ↦ ?_, run.shown⟩
  · obtain ⟨hmem, hharvests⟩ := List.mem_filter.mp hharvest
    obtain ⟨earlier, later, rfl, hrun, _⟩ := run.split hmem
    obtain ⟨booking, hbooking, hharvested, _⟩ := hrun.exists_harvested hharvests
    exact ⟨booking, List.mem_append_left _ hbooking, hharvested⟩
  · obtain ⟨_, _, _, hrun, _⟩ := run.split hmem
    exact hrun.results_next_step hquiet

/-- A sighting on a channel at a time in microseconds. -/
def sighted (frequency : Frequency) (timestampMicros : Int) : RawSighting :=
  ⟨⟨[], .zero, frequency, -50, timestampMicros, ""⟩, none⟩

/-- Two results of the request's channel, one of them too old, one of the 6 GHz band and one of
another channel. -/
def mixedResults : List RawSighting :=
  [sighted 2412 5, sighted 2412 4, sighted 5955 6, sighted 2437 6]

/-- A request ends with results. The driver refuses the next one and then announces that a scan has
failed. -/
def refusedLater : List (Surroundings × Action) :=
  [({ Surroundings.calm 1 with nanos := 5999 },
      .startScan (.ofChannel 2412 Bucket.fullResults) ⟨1⟩),
    ({ Surroundings.calm 2 with nanos := 7000, scanResults := mixedResults },
      .driverEvent .scanResultsAvailable),
    ({ Surroundings.calm 2 with nanos := 8000, scanRefusal := some .busy },
      .startScan (.ofChannel 2437 0#32) ⟨2⟩),
    ({ Surroundings.calm 3 with nanos := 9000, scanResults := [sighted 2437 9] },
      .driverEvent (.scanFailed .aborted))]

theorem results_of_last_harvest_refusedLater :
    let (past, scanner) := Coordinator.play [] .specimen refusedLater
    Coordinator.Playable [] .specimen refusedLater ∧
      ∃ booking : Booking, booking.toEpisode ∈ past ∧ booking.listener = ⟨1⟩ ∧
        booking.share mixedResults = [(sighted 2412 5).sighting, (sighted 5955 6).sighting] ∧
        scanner.single.fetched = some mixedResults ∧
        booking.Presents mixedResults scanner.single.latest := by
  have hplayable : Coordinator.Playable [] .specimen refusedLater := by decide
  have run := Run.fresh.play refusedLater hplayable
  have hfirst := List.getElem_mem
    (by decide : 0 < (Coordinator.play [] .specimen refusedLater).1.length)
  obtain ⟨booking, hmem, hharvested, hfetched, hpresents⟩ := (results_of_last_harvest run).2.2
  have hlistener : booking.listener = ⟨1⟩ :=
    Option.some.inj (hharvested.occupied.listener?_eq.symm.trans rfl)
  obtain rfl : booking = ⟨_, _, _, rfl, rfl⟩ :=
    run.booking_eq_of_listener hmem hfirst hlistener
  exact ⟨hplayable, _, hmem, rfl, by decide, hfetched, hpresents⟩

end Run

end RadioScan
