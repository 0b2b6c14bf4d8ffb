import RadioScan.Proofs.Calls
import RadioScan.Proofs.Outcome

/-!
What the driver is asked to scan. Taking on a request makes one scan of it, of just the channels
that its buckets ask for together, or none if they ask for no channel (`Booking.issued`). Since a
request is taken on only when the session is idle, the listener of one scan has been told its
outcome before the driver is asked for another (`Run.orders_convey_requests`).
-/

set_option autoImplicit false
set_option relaxedAutoImplicit false

namespace RadioScan

/-! ### What a request asks for -/

/-- The bucket asks for the frequency: it lists it and names no band, or the frequency is in the
table of one of the bands that it names. -/
def Bucket.AsksFor (bucket : Bucket) (plan : ChannelPlan) (frequency : Frequency) : Prop :=
  if bucket.bands = BandMask.unspecified then frequency ∈ bucket.channels
  else ∃ band : Band, bucket.bands.getLsbD band.position = true ∧ frequency ∈ plan.table band

theorem ChannelPlan.mem_frequencies {plan : ChannelPlan} {bucket : Bucket}
    {frequency : Frequency} :
    frequency ∈ plan.frequencies bucket ↔ bucket.AsksFor plan frequency := by
  rw [frequencies, Bucket.AsksFor]
  by_cases hbands : bucket.bands = BandMask.unspecified
  · rw [if_pos hbands, if_pos hbands]
  · rw [if_neg hbands, if_neg hbands, mem_available]

namespace Booking

variable (booking : Booking)

/-- One of the request's buckets asks for the frequency. -/
def AsksFor (frequency : Frequency) : Prop :=
  ∃ bucket ∈ booking.request.buckets, bucket.AsksFor booking.scanner.radio.plan frequency

/-- What the driver is asked before the scan: its limit, if the request names hidden networks while
no limit has been learned. -/
def questions : List DriverCall :=
  if booking.request.hidden.isSome ∧ booking.scanner.single.rotation.learned = none then
    [.askProbeLimit]
  else []

/-- The networks that the rotation gives the request to probe. -/
def batch : List Ssid :=
  match booking.request.hidden with
  | none => []
  | some networks =>
    (booking.scanner.single.rotation.select networks booking.around.probeLimit).chosen

/-- The rotation as the request leaves it. -/
def rotationAfter : Rotation :=
  match booking.request.hidden with
  | none => booking.scanner.single.rotation
  | some networks =>
    (booking.scanner.single.rotation.select networks booking.around.probeLimit).next

/-- The order asks the driver for what the request asks of the scanner: its channels in ascending
order, each once, the batch that is its share of the rotation, and the rest as the caller has it. -/
structure Conveyed (order : ScanOrder) : Prop where
  effort_eq : order.effort = booking.request.effort
  neighbourReports_eq : order.neighbourReports = booking.request.neighbourReports
  vendorElements_eq : order.vendorElements = booking.request.vendorElements
  probes_eq : order.probes = booking.batch
  ascending : order.channels.toList.Pairwise (· < ·)
  mem_channels : ∀ frequency, frequency ∈ order.channels.toList ↔ booking.AsksFor frequency

/-- What taking on the request asks of the driver and makes of the rotation. -/
structure Issued : Prop where
  calls_of_asksFor : ∀ frequency, booking.AsksFor frequency →
    ∃ order, booking.Conveyed order ∧ booking.calls = booking.questions ++ [.scan order]
  calls_of_not_asksFor : (∀ frequency, ¬ booking.AsksFor frequency) →
    booking.calls = booking.questions
  rotation_eq : booking.reply.next.single.rotation = booking.rotationAfter

/-! ### Taking on a request -/

theorem mem_channels {frequency : Frequency} :
    frequency ∈ booking.request.channels booking.scanner.radio ↔ booking.AsksFor frequency := by
  rw [ScanRequest.channels, ChannelPlan.mem_gather]
  exact exists_congr fun bucket ↦ and_congr_right fun _ ↦ ChannelPlan.mem_frequencies

theorem chosen_pickProbes :
    (booking.scanner.single.pickProbes booking.request.hidden booking.around.probeLimit).chosen =
      booking.batch := by
  rw [batch]
  cases booking.request.hidden <;> rfl

theorem next_pickProbes :
    (booking.scanner.single.pickProbes booking.request.hidden booking.around.probeLimit).next =
      booking.rotationAfter := by
  rw [rotationAfter]
  cases booking.request.hidden <;> rfl

theorem asked_pickProbes :
    (if (booking.scanner.single.pickProbes booking.request.hidden booking.around.probeLimit).asked
      then [.askProbeLimit] else []) = booking.questions := by
  rw [questions]
  cases booking.request.hidden with
  | none => rfl
  | some networks =>
    cases hlearned : booking.scanner.single.rotation.learned <;>
      simp [SingleSession.pickProbes, Rotation.select, hlearned]

theorem calls_eq :
    booking.calls = booking.questions ++
      if (booking.request.channels booking.scanner.radio).isEmpty then []
      else [.scan (booking.request.order booking.scanner.radio booking.batch)] := by
  rw [Episode.calls, effects_eq_begun, SingleSession.callsIn_begun, SingleSession.openingCalls,
    asked_pickProbes, chosen_pickProbes]

theorem askProbeLimit_mem_calls :
    .askProbeLimit ∈ booking.calls ↔
      booking.request.hidden.isSome ∧ booking.scanner.single.rotation.learned = none := by
  rw [calls_eq, questions]
  split <;> split <;> simp_all

theorem scan_mem_calls {order : ScanOrder} (hscan : .scan order ∈ booking.calls) :
    order = booking.request.order booking.scanner.radio booking.batch ∧
      (booking.request.channels booking.scanner.radio).isEmpty = false := by
  have hquestions : .scan order ∉ booking.questions := by
    rw [questions]
    split <;> simp
  have hscan := (List.mem_append.mp (booking.calls_eq ▸ hscan)).resolve_left hquestions
  by_cases hempty : (booking.request.channels booking.scanner.radio).isEmpty
  · rw [if_pos hempty] at hscan
    cases hscan
  · rw [if_neg hempty] at hscan
    exact ⟨DriverCall.scan.inj (List.mem_singleton.mp hscan), by simpa using hempty⟩

theorem conveyed_order :
    booking.Conveyed (booking.request.order booking.scanner.radio booking.batch) where
  effort_eq := rfl
  neighbourReports_eq := rfl
  vendorElements_eq := rfl
  probes_eq := rfl
  ascending := (booking.request.channels booking.scanner.radio).ascending
  mem_channels := fun _ ↦ booking.mem_channels

theorem issued : booking.Issued where
  calls_of_asksFor := by
    intro frequency hasked
    refine ⟨_, booking.conveyed_order, ?_⟩
    have hchannels : ¬ (booking.request.channels booking.scanner.radio).isEmpty := fun hempty ↦
      ChannelSet.isEmpty_iff.mp hempty frequency (booking.mem_channels.mpr hasked)
    rw [calls_eq, if_neg hchannels]
  calls_of_not_asksFor := by
    intro hunasked
    have hchannels : (booking.request.channels booking.scanner.radio).isEmpty = true :=
      ChannelSet.isEmpty_iff.mpr fun frequency hmem ↦
        hunasked frequency (booking.mem_channels.mp hmem)
    rw [calls_eq, if_pos hchannels, List.append_nil]
  rotation_eq := by
    rw [Episode.reply, Coordinator.single_next_step, booking.turn_eq]
    exact booking.next_pickProbes

end Booking

/-! ### Runs -/

namespace Run

variable {radio : Radio} {fallbackBatch : Nat} {past : History} {scanner : Coordinator}

/-- But for fetching results, the driver is asked about single scans only on behalf of a request
that is taken on. -/
theorem exists_booking_of_call (run : Run radio fallbackBatch past scanner) {episode : Episode}
    (hmem : episode ∈ past) {call : DriverCall} (hcall : call ∈ episode.calls)
    (hsingle : call.isOffload = false) (hopening : call ≠ .fetchScanResults) :
    ∃ booking : Booking, booking.toEpisode = episode := by
  rw [mem_calls_of_single hsingle, Episode.singleCalls] at hcall
  rcases (run.passage_of_mem hmem).calls_cases with hcalls |
    ⟨request, listener, haction, hvacant, hfit, -, -⟩ | hcalls
  · rw [hcalls] at hcall
    cases hcall
  · have haccepted : episode.reply.rejection = none := by
      rw [Episode.reply, haction]
      exact Coordinator.accepts_of_idle hvacant.phase_eq hfit
    exact ⟨⟨episode, request, listener, haction, haccepted⟩, rfl⟩
  · rw [hcalls] at hcall
    exact absurd (List.mem_singleton.mp hcall) hopening

/-- The driver is asked to scan only for a request that is taken on. -/
theorem exists_booking_of_scan (run : Run radio fallbackBatch past scanner) {episode : Episode}
    (hmem : episode ∈ past) {order : ScanOrder} (hscan : .scan order ∈ episode.calls) :
    ∃ booking : Booking, booking.toEpisode = episode :=
  run.exists_booking_of_call hmem hscan rfl DriverCall.noConfusion

theorem channels_ne_nil_of_scan (run : Run radio fallbackBatch past scanner) {episode : Episode}
    (hmem : episode ∈ past) {order : ScanOrder} (hscan : .scan order ∈ episode.calls) :
    order.channels.toList ≠ [] := by
  obtain ⟨booking, rfl⟩ := run.exists_booking_of_scan hmem hscan
  obtain ⟨rfl, hchannels⟩ := booking.scan_mem_calls hscan
  simpa [ChannelSet.isEmpty, ScanRequest.order] using hchannels

/-- A request that was taken on has ended by the time another one is. -/
theorem concluded_before_booking (run : Run radio fallbackBatch past scanner)
    {first second : Booking} {earlier middle later : History}
    (hpast : past = earlier ++ first.toEpisode :: middle ++ second.toEpisode :: later) :
    Concluded first.scan.wantsFullResults
      (History.heardBy (earlier ++ first.toEpisode :: middle) first.listener) := by
  have hrun := (run.before hpast).1
  have hfirst : first.toEpisode ∈ earlier ++ first.toEpisode :: middle := by simp
  refine (hrun.eq_nil_or_concluded hfirst).resolve_left fun hnil ↦ ?_
  have hoccupies := (hrun.heardBy_eq_nil_iff hfirst).mp hnil
  exact hoccupies.serves.phase_ne_idle second.idle

/-- Each request that is accepted has the driver asked for one scan of just what it asks for, or for
none if it asks for no channel; either way the rotation moves on once if the request names hidden
networks, and stays as it is if it names none. The driver is never asked to scan no channel, nor to
scan again before the listener of the scan before has been told its outcome. -/
theorem orders_convey_requests (run : Run radio fallbackBatch past scanner) :
    (∀ booking : Booking, booking.toEpisode ∈ past → booking.Issued) ∧
    (∀ episode ∈ past, ∀ order, .scan order ∈ episode.calls → order.channels.toList ≠ []) ∧
    ∀ (earlier middle later : History) (first second : Episode) (order next : ScanOrder),
      past = earlier ++ first :: middle ++ second :: later →
        .scan order ∈ first.calls → .scan next ∈ second.calls →
          ∃ booking : Booking, booking.toEpisode = first ∧
            Concluded (booking.request.buckets.any Bucket.wantsFullResults)
              (History.heardBy (earlier ++ first :: middle) booking.listener) := by
  refine ⟨fun booking _ ↦ booking.issued, fun episode hmem order ↦ run.channels_ne_nil_of_scan hmem,
    ?_⟩
  intro earlier middle later first second order next hpast hfirst hsecond
  obtain ⟨booking, rfl⟩ := run.exists_booking_of_scan (by simp [hpast]) hfirst
  obtain ⟨other, rfl⟩ := run.exists_booking_of_scan (by simp [hpast]) hsecond
  exact ⟨booking, rfl, run.concluded_before_booking hpast⟩

/-- A request that names two hidden networks, of which the driver takes one at a time. -/
def forTwoHidden (buckets : List Bucket) : ScanRequest :=
  { ScanRequest.ofChannel 2412 0#32 with buckets, hidden := some [[1], [2]] }

/-- Two buckets of the first request ask for the same channel, the second request asks for none, and
the third is like the first. -/
def secondUnscanned : List (Surroundings × Action) :=
  let buckets : List Bucket := [⟨.unspecified, [2437, 2412], 0#32⟩, ⟨.unspecified, [2412], 0#32⟩]
  [({ Surroundings.calm 1 with probeLimit := 2 },
      .startScan (forTwoHidden buckets) ⟨1⟩),
    (.calm 2, .driverEvent .scanResultsAvailable),
    (.calm 2, .startScan (forTwoHidden []) ⟨2⟩),
    (.calm 3, .runTask ⟨2⟩),
    (.calm 3, .startScan (forTwoHidden buckets) ⟨3⟩)]

/-- What the driver is asked for the first and for the third of them. -/
def narrowOrder : ScanOrder :=
  ⟨.lowLatency, ChannelSet.empty.insertAll [2412, 2437], [[1]], false, []⟩

/-- The driver is asked for each channel once, and the batch of the second request is passed
over. -/
theorem orders_convey_requests_secondUnscanned :
    let (past, _) := Coordinator.play [] .specimen secondUnscanned
    Coordinator.Playable [] .specimen secondUnscanned ∧
      past.map Episode.calls = [[.askProbeLimit, .scan narrowOrder], [.fetchScanResults], [], [],
        [.scan narrowOrder]] ∧
      (∀ booking : Booking, booking.toEpisode ∈ past → booking.Issued) ∧
      ∃ booking : Booking, booking.listener = ⟨1⟩ ∧
        Concluded false (History.heardBy (past.take 4) booking.listener) := by
  have hplayable : Coordinator.Playable [] .specimen secondUnscanned := by decide
  have hclaim := orders_convey_requests (Run.fresh.play secondUnscanned hplayable)
  obtain ⟨booking, hbooking, hconcluded⟩ := hclaim.2.2 []
    (((Coordinator.play [] .specimen secondUnscanned).1.drop 1).take 3) [] _ _
    narrowOrder narrowOrder rfl (by decide) (by decide)
  have haction := booking.action_eq.symm.trans (congrArg Episode.action hbooking)
  obtain ⟨hrequest, hlistener⟩ := Action.startScan.inj haction
  have hquiet : booking.request.buckets.any Bucket.wantsFullResults = false := by
    rw [hrequest]
    decide
  rw [hquiet] at hconcluded
  exact ⟨hplayable, by decide, hclaim.1, booking, hlistener, hconcluded⟩

end Run

end RadioScan
