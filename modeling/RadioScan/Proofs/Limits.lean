import RadioScan.Proofs.Orders
import RadioScan.Proofs.Probing
import RadioScan.Proofs.Windows

/-!
The driver's limit on the names in one scan. What the rotation has learned is always what the
driver answered last, unless the scanner has been cleaned up since (`Run.learned_eq`). An order
keeps to that answer, with the broadcast probe counted in, whenever the answer leaves room for a
name (`Run.probes_within_limit`). One that leaves none counts as no answer at all, and then the
configured batch is sent, which the driver has no room for (`Run.not_keepsTo_one_roomless`).
-/

set_option autoImplicit false
set_option relaxedAutoImplicit false

namespace RadioScan

/-- The driver's latest answer about its limit, from the one that was known before the episode. A
cleanup forgets it. -/
def Episode.limitAfter (known : Option Int32) (episode : Episode) : Option Int32 :=
  if episode.action = .cleanup then none
  else if .askProbeLimit ∈ episode.calls then some episode.around.probeLimit
  else known

namespace History

/-- The driver's latest answer about its limit since the scanner was new or last cleaned up. -/
def limit? (past : History) : Option Int32 := past.foldl Episode.limitAfter none

theorem limit?_snoc (past : History) (episode : Episode) :
    limit? (past ++ [episode]) = episode.limitAfter past.limit? := by
  rw [limit?, List.foldl_append]
  rfl

/-- Whenever the driver is asked to scan and its latest answer is at least `least`, the names and
the broadcast probe are no more than the answer. -/
def KeepsTo (past : History) (least : Int) : Prop :=
  ∀ (earlier later : History) (episode : Episode) (order : ScanOrder) (limit : Int32),
    past = earlier ++ episode :: later → .scan order ∈ episode.calls →
      limit? (earlier ++ [episode]) = some limit → least ≤ limit.toInt →
        order.probes.length + 1 ≤ limit.toInt

end History

/-! ### What is learned -/

theorem Booking.learned_rotationAfter (booking : Booking) :
    booking.rotationAfter.learned =
      if .askProbeLimit ∈ booking.calls then Rotation.usable booking.around.probeLimit
      else booking.scanner.single.rotation.learned := by
  simp only [askProbeLimit_mem_calls]
  rw [rotationAfter]
  cases booking.request.hidden with
  | none => rfl
  | some networks =>
    cases hlearned : booking.scanner.single.rotation.learned <;>
      simp [Rotation.learned_select, hlearned]

namespace Run

variable {radio : Radio} {fallbackBatch : Nat} {past : History} {scanner : Coordinator}

/-- Only a request that is taken on and a cleanup change what is learned. -/
theorem learned_next (run : Run radio fallbackBatch past scanner) {episode : Episode}
    (hmem : episode ∈ past) :
    episode.reply.next.single.rotation.learned =
      if episode.action = .cleanup then none
      else if .askProbeLimit ∈ episode.calls then Rotation.usable episode.around.probeLimit
      else episode.scanner.single.rotation.learned := by
  -- The driver is asked for its limit only for a request that is taken on.
  by_cases hbooked : ∃ booking : Booking, booking.toEpisode = episode
  · obtain ⟨booking, rfl⟩ := hbooked
    have haction : booking.action ≠ .cleanup := by
      rw [booking.action_eq]
      exact Action.noConfusion
    rw [booking.issued.rotation_eq, booking.learned_rotationAfter, if_neg haction]
  · have hask : .askProbeLimit ∉ episode.calls := fun hcall ↦
      hbooked (run.exists_booking_of_call hmem hcall rfl DriverCall.noConfusion)
    rw [if_neg hask, Episode.reply, Coordinator.single_next_step, SingleSession.rotation_turn]
    cases haction : episode.action with
    | startScan request listener =>
      have hadmits : ¬ episode.scanner.single.Admits request := fun hadmits ↦
        hbooked ⟨⟨episode, request, listener, haction, by
          rw [Episode.reply, haction]
          exact Coordinator.accepts_of_idle hadmits.1 hadmits.2⟩, rfl⟩
      simp only [if_neg hadmits]
      rfl
    | cleanup => rfl
    | _ => rfl

/-- What the rotation has learned is what the driver answered last. -/
theorem learned_eq (run : Run radio fallbackBatch past scanner) :
    scanner.single.rotation.learned = past.limit?.bind Rotation.usable := by
  induction run with
  | fresh => rfl
  | @snoc past scanner around action run hpossible ih =>
    have hnext := (run.snoc hpossible).learned_next
      (List.mem_append_right past (List.mem_singleton_self _))
    rw [Episode.reply] at hnext
    rw [hnext, History.limit?_snoc, Episode.limitAfter, ih]
    split
    · rfl
    · split <;> rfl

/-- What is learned when a request is taken on is the latest answer at that point. -/
theorem learned_booking (run : Run radio fallbackBatch past scanner) {booking : Booking}
    {earlier later : History} (hpast : past = earlier ++ booking.toEpisode :: later) :
    booking.rotationAfter.learned =
      (History.limit? (earlier ++ [booking.toEpisode])).bind Rotation.usable := by
  obtain ⟨hrun, hpossible⟩ := run.before hpast
  rw [← (hrun.snoc hpossible).learned_eq, ← booking.issued.rotation_eq]
  rfl

/-! ### What the driver is asked -/

/-- An answer that leaves room for a name is kept to. -/
theorem keepsTo_two (run : Run radio fallbackBatch past scanner) : past.KeepsTo 2 := by
  intro earlier later episode order limit hpast hscan hlimit hleast
  obtain ⟨booking, rfl⟩ := run.exists_booking_of_scan (by simp [hpast]) hscan
  obtain ⟨rfl, -⟩ := booking.scan_mem_calls hscan
  -- What is learned is one less than the answer, and no more than that many names are chosen.
  have hlearned := run.learned_booking hpast
  have husable : Rotation.usable limit = some (limit.toInt - 1).toNat :=
    Rotation.usable_of_toInt (by omega) (by omega)
  rw [hlimit, Option.bind_some, husable] at hlearned
  have hbatch : booking.batch.length ≤ (limit.toInt - 1).toNat := by
    rw [Booking.rotationAfter] at hlearned
    rw [Booking.batch]
    cases hhidden : booking.request.hidden with
    | none => exact Nat.zero_le _
    | some networks =>
      rw [hhidden] at hlearned
      exact Rotation.length_chosen_select_le hlearned networks
  change (booking.batch.length : Int) + 1 ≤ limit.toInt
  omega

/-- Without an answer that leaves room for a name, the configured batch is taken from the head of
the list. -/
theorem probes_of_roomless (run : Run radio fallbackBatch past scanner) {booking : Booking}
    {earlier later : History} {order : ScanOrder}
    (hpast : past = earlier ++ booking.toEpisode :: later) (hscan : .scan order ∈ booking.calls)
    (hroomless : ∀ limit ∈ History.limit? (earlier ++ [booking.toEpisode]), limit.toInt ≤ 1) :
    order.probes = (booking.request.hidden.getD []).take fallbackBatch := by
  obtain ⟨rfl, -⟩ := booking.scan_mem_calls hscan
  have hlearned : booking.rotationAfter.learned = none := by
    rw [run.learned_booking hpast, Option.bind_eq_none_iff]
    exact fun limit hlimit ↦ Rotation.usable_of_toInt_le_one (hroomless limit hlimit)
  change booking.batch = _
  rw [Booking.rotationAfter] at hlearned
  rw [Booking.batch, ← (run.before hpast).1.fallbackBatch_eq]
  cases hhidden : booking.request.hidden with
  | none => exact List.take_nil.symm
  | some networks =>
    rw [hhidden] at hlearned
    exact Rotation.chosen_select_of_unlearned hlearned networks

/-- The driver's latest answer since the scanner was new or last cleaned up is kept to, broadcast
probe included, if it leaves room for a name. An answer that leaves none counts as unknown: the
configured batch is then taken from the head of the list. -/
theorem probes_within_limit (run : Run radio fallbackBatch past scanner) :
    past.KeepsTo 2 ∧
      ∀ (earlier later : History) (booking : Booking) (order : ScanOrder),
        past = earlier ++ booking.toEpisode :: later → .scan order ∈ booking.calls →
          (∀ limit ∈ History.limit? (earlier ++ [booking.toEpisode]), limit.toInt ≤ 1) →
            order.probes = (booking.request.hidden.getD []).take fallbackBatch :=
  ⟨run.keepsTo_two, fun _ _ _ _ hpast hscan ↦ run.probes_of_roomless hpast hscan⟩

/-- A request for one channel that names three hidden networks. -/
def forThreeHidden : ScanRequest :=
  { ScanRequest.ofChannel 2412 0#32 with hidden := some [[1], [2], [3]] }

/-- What the driver is asked for such a request. -/
def orderFor (probes : List Ssid) : ScanOrder :=
  ⟨.lowLatency, ChannelSet.empty.insertAll [2412], probes, false, []⟩

/-- The driver takes two names at a time, and none after a cleanup. -/
def shrinkingRoom : List (Surroundings × Action) :=
  [({ Surroundings.calm 1 with probeLimit := 3 }, .startScan forThreeHidden ⟨1⟩),
    (.calm 2, .driverEvent .scanResultsAvailable),
    (.calm 2, .startScan forThreeHidden ⟨2⟩),
    (.calm 3, .cleanup),
    ({ Surroundings.calm 3 with probeLimit := 1 }, .startScan forThreeHidden ⟨3⟩)]

/-- The second request keeps to the answer that the first one had, and the third has one of its
own. -/
theorem probes_within_limit_shrinkingRoom :
    let (past, scanner) := Coordinator.play [] .specimen shrinkingRoom
    Run Coordinator.specimen.radio 16 past scanner ∧
      past.map Episode.calls = [[.askProbeLimit, .scan (orderFor [[1], [2]])], [.fetchScanResults],
        [.scan (orderFor [[3], [1]])], [.stopOffload],
        [.askProbeLimit, .scan (orderFor [[1], [2], [3]])]] ∧
      ((orderFor [[3], [1]]).probes.length : Int) + 1 ≤ (3 : Int32).toInt ∧
      (orderFor [[1], [2], [3]]).probes = (forThreeHidden.hidden.getD []).take 16 := by
  have hrun : Run Coordinator.specimen.radio 16 _ _ := Run.fresh.play shrinkingRoom (by decide)
  obtain ⟨hkeeps, hroomless⟩ := probes_within_limit hrun
  let past := (Coordinator.play [] .specimen shrinkingRoom).1
  have hsecond := hkeeps (past.take 2) (past.drop 3) _ (orderFor [[3], [1]]) 3 rfl (by decide)
    (by decide) (by decide)
  have hlimit : past.limit? = some 1 := by decide
  have hnone : ∀ limit ∈ past.limit?, limit.toInt ≤ 1 := by simp [hlimit]
  have hthird := hroomless (past.take 4) []
    { past[4] with request := forThreeHidden, listener := ⟨3⟩, action_eq := rfl, accepted := rfl }
    (orderFor [[1], [2], [3]]) rfl (by decide) hnone
  exact ⟨hrun, by decide, hsecond, hthird⟩

/-- An answer of one has room for the broadcast probe alone. -/
def roomless : List (Surroundings × Action) :=
  [({ Surroundings.calm 1 with probeLimit := 1 }, .startScan forThreeHidden ⟨1⟩)]

/-- A positive answer is not always kept to. -/
theorem not_keepsTo_one_roomless :
    let (past, scanner) := Coordinator.play [] .specimen roomless
    Run Coordinator.specimen.radio 16 past scanner ∧ ¬ past.KeepsTo 1 := by
  refine ⟨Run.fresh.play roomless (by decide), fun hkeeps ↦ ?_⟩
  have hfits := hkeeps [] [] _ (orderFor [[1], [2], [3]]) 1 rfl (by decide) (by decide) (by decide)
  exact absurd hfits (by decide)

end Run

end RadioScan
