import RadioScan.Proofs.Notices
import RadioScan.Proofs.Probing
import RadioScan.Proofs.Rejection
import RadioScan.Proofs.Windows

/-!
Rounds through a list of hidden networks. Requests name the same list over and over, the driver
takes `batch` of the networks at a time, and the scans that it makes are to go round the list
without leaving anything out (`History.Fair`). But the rotation moves on with every request that is
accepted, also when the driver then refuses it or it has no channel. The networks of such a request
are passed over, unless the requests that fail between two scans make up whole rounds
(`Run.rounds_fair_iff`).
-/

set_option autoImplicit false
set_option relaxedAutoImplicit false

namespace RadioScan

/-- The hidden networks that a request names. -/
def Action.hidden? : Action → Option (List Ssid)
  | .startScan request _ => request.hidden
  | _ => none

/-- A scan that the driver is asked for. -/
def Effect.order? : Effect → Option ScanOrder
  | .driver _ (.scan order) => some order
  | _ => none

namespace Episode

/-- A request that names hidden networks is accepted. -/
def seeks (episode : Episode) : Bool :=
  episode.action.hidden?.isSome && episode.reply.rejection.isNone

/-- The networks that are probed for such a request, in the scans that the driver takes. -/
def probed (episode : Episode) : List (List Ssid) :=
  if episode.seeks && episode.around.scanRefusal.isNone then
    (episode.effects.filterMap Effect.order?).map ScanOrder.probes
  else []

/-- Nothing is probed for such a request: the driver refuses it, or it has no channel. -/
def misses (episode : Episode) : Bool := episode.seeks && episode.probed.isEmpty

/-- Nothing is cleaned up, hidden networks are named only as the given list, and the driver has
room for `batch` of them. -/
structure Steady (networks : List Ssid) (batch : Nat) (episode : Episode) : Prop where
  kept : episode.action ≠ .cleanup
  listed : ∀ named ∈ episode.action.hidden?, named = networks
  limit : episode.around.probeLimit.toInt = batch + 1

instance (networks : List Ssid) (batch : Nat) (episode : Episode) :
    Decidable (episode.Steady networks batch) :=
  decidable_of_iff (episode.action ≠ .cleanup ∧
      (∀ named ∈ episode.action.hidden?, named = networks) ∧
      episode.around.probeLimit.toInt = batch + 1)
    ⟨fun h ↦ ⟨h.1, h.2.1, h.2.2⟩, fun h ↦ ⟨h.kept, h.listed, h.limit⟩⟩

end Episode

namespace History

variable (past : History) (networks : List Ssid) (batch : Nat)

/-- The networks that were probed, scan by scan. -/
def probed : List (List Ssid) := past.flatMap Episode.probed

/-- How many requests for hidden networks were accepted. -/
def seekers : Nat := past.countP Episode.seeks

/-- How many of them failed before anything was probed. -/
def misses : Nat := past.countP Episode.misses

/-- The scans go round the list, so that each network has its turn in any ⌈length / batch⌉
scans. -/
structure Fair : Prop where
  cyclic : ∀ i < past.probed.flatten.length,
    past.probed.flatten[i]? = networks[i % networks.length]?
  covering : ∀ earlier scans later, past.probed = earlier ++ scans ++ later →
    (networks.length + batch - 1) / batch ≤ scans.length →
      ∀ network ∈ networks, network ∈ scans.flatten

/-- Whenever something is probed, the requests that failed before that make up whole rounds. -/
def InStep : Prop :=
  ∀ (earlier : History) (episode : Episode) (later : History),
    past = earlier ++ episode :: later → episode.probed ≠ [] →
      networks.length ∣ earlier.misses * batch

theorem inStep_iff_getElem (past : History) (networks : List Ssid) (batch : Nat) :
    past.InStep networks batch ↔ ∀ i (hi : i < past.length), past[i].probed ≠ [] →
      networks.length ∣ misses (past.take i) * batch := by
  constructor
  · intro hstep i hi
    exact hstep (past.take i) past[i] (past.drop (i + 1)) (by simp)
  · rintro hstep earlier episode later rfl hprobed
    simpa [hprobed] using hstep earlier.length (by simp)

instance (past : History) (networks : List Ssid) (batch : Nat) :
    Decidable (past.InStep networks batch) :=
  decidable_of_iff _ (inStep_iff_getElem past networks batch).symm

end History

/-! ### One episode -/

theorem Coordinator.rejection_eq_none_iff {scanner : Coordinator} {around : Surroundings}
    {request : ScanRequest} {listener : ListenerId} :
    (scanner.step around (.startScan request listener)).rejection = none ↔
      scanner.single.Admits request := by
  have hlimit : Capabilities.standard.buckets = 16 := rfl
  rw [rejection_startScan, SingleSession.Admits, hlimit]
  by_cases hidle : scanner.single.phase = .idle <;>
    by_cases hmany : 16 < request.buckets.length <;>
      simp [hidle, hmany, Nat.not_lt.mp, Nat.not_le_of_lt]

namespace Episode

variable {scanner : Coordinator} {around : Surroundings} {request : ScanRequest}
variable {listener : ListenerId}

theorem seeks_startScan :
    seeks ⟨scanner, around, .startScan request listener⟩ =
      (request.hidden.isSome && decide (scanner.single.Admits request)) := by
  have haccepted : (scanner.step around (.startScan request listener)).rejection.isNone =
      decide (scanner.single.Admits request) := by
    rw [Bool.eq_iff_iff, Option.isNone_iff_eq_none, Coordinator.rejection_eq_none_iff,
      decide_eq_true_iff]
  exact congrArg (request.hidden.isSome && ·) haccepted

theorem probed_of_seeks_eq_false {episode : Episode} (hseeks : episode.seeks = false) :
    episode.probed = [] := by
  rw [probed, hseeks]
  rfl

theorem orders_of_admits (hadmits : scanner.single.Admits request) :
    (effects ⟨scanner, around, .startScan request listener⟩).filterMap Effect.order? =
      if (request.channels scanner.radio).isEmpty then []
      else [request.order scanner.radio
        (scanner.single.pickProbes request.hidden around.probeLimit).chosen] := by
  have heffects : effects ⟨scanner, around, .startScan request listener⟩ =
      (scanner.single.begun scanner.radio around request listener).effects := by
    rw [effects_eq, scanner.single.turn_startScan_of_admits scanner.radio around hadmits]
    exact List.append_nil _
  rw [heffects, SingleSession.begun, SingleSession.openingCalls]
  by_cases hempty : (request.channels scanner.radio).isEmpty <;>
    by_cases hasked : (scanner.single.pickProbes request.hidden around.probeLimit).asked <;>
      simp only [hempty, hasked, if_true, if_false, Bool.false_eq_true] <;> rfl

/-- What is probed for a request that is accepted. -/
theorem probed_of_admits (hadmits : scanner.single.Admits request) {networks : List Ssid}
    (hidden : request.hidden = some networks) :
    probed ⟨scanner, around, .startScan request listener⟩ =
      if request.refusal? scanner.radio around = none then
        [(scanner.single.rotation.select networks around.probeLimit).chosen]
      else [] := by
  have hseeks : seeks ⟨scanner, around, .startScan request listener⟩ = true := by
    rw [seeks_startScan, hidden]
    exact decide_eq_true hadmits
  rw [probed, hseeks, orders_of_admits hadmits, ScanRequest.refusal?, hidden]
  by_cases hempty : (request.channels scanner.radio).isEmpty <;>
    cases around.scanRefusal <;>
      simp [hempty, ScanRequest.order, SingleSession.pickProbes]

theorem exists_of_seeks {episode : Episode} (hseeks : episode.seeks = true) :
    ∃ request listener networks, episode.action = .startScan request listener ∧
      request.hidden = some networks ∧ episode.scanner.single.Admits request := by
  obtain ⟨scanner, around, action⟩ := episode
  cases action with
  | startScan request listener =>
    rw [seeks_startScan, Bool.and_eq_true] at hseeks
    obtain ⟨networks, hidden⟩ := Option.isSome_iff_exists.mp hseeks.1
    exact ⟨request, listener, networks, rfl, hidden, of_decide_eq_true hseeks.2⟩
  | _ => cases hseeks

/-- A request that does not fail has the driver scan once. -/
theorem length_probed (episode : Episode) :
    episode.probed.length + episode.misses.toNat = episode.seeks.toNat := by
  cases hseeks : episode.seeks with
  | false =>
    rw [misses, probed_of_seeks_eq_false hseeks, hseeks]
    rfl
  | true =>
    obtain ⟨scanner, around, action⟩ := episode
    obtain ⟨request, listener, networks, rfl, hidden, hadmits⟩ := exists_of_seeks hseeks
    rw [misses, probed_of_admits hadmits hidden, hseeks]
    by_cases htaken : request.refusal? scanner.radio around = none
    · rw [if_pos htaken]
      rfl
    · rw [if_neg htaken]
      rfl

end Episode

namespace History

variable (past rest : History) (episode : Episode)

theorem seekers_append : seekers (past ++ rest) = past.seekers + rest.seekers :=
  List.countP_append

theorem misses_append : misses (past ++ rest) = past.misses + rest.misses :=
  List.countP_append

theorem probed_append : probed (past ++ rest) = past.probed ++ rest.probed :=
  List.flatMap_append

theorem seekers_singleton : seekers [episode] = episode.seeks.toNat := by
  cases hseeks : episode.seeks <;> simp [seekers, hseeks]

theorem misses_singleton : misses [episode] = episode.misses.toNat := by
  cases hmisses : episode.misses <;> simp [misses, hmisses]

theorem probed_singleton : probed [episode] = episode.probed := List.append_nil _

theorem InStep.of_append {past rest : History} {networks : List Ssid} {batch : Nat}
    (hstep : InStep (past ++ rest) networks batch) : past.InStep networks batch := by
  intro earlier episode later hpast hprobed
  exact hstep earlier episode (later ++ rest) (by rw [hpast]; simp) hprobed

/-- Something is probed for each request unless it fails. -/
theorem seekers_eq : past.seekers = past.probed.length + past.misses := by
  induction past with
  | nil => rfl
  | cons episode rest ih =>
    have hepisode := episode.length_probed
    show seekers ([episode] ++ rest) =
      (probed ([episode] ++ rest)).length + misses ([episode] ++ rest)
    rw [seekers_append, probed_append, misses_append, seekers_singleton, misses_singleton,
      probed_singleton, List.length_append, ih]
    omega

end History

/-! ### The place of the rotation -/

/-- The rotation stands where `turns` selections of `batch` networks each have brought it. -/
structure Rotation.StandsAt (rotation : Rotation) (length batch turns : Nat) : Prop where
  learned : rotation.learned = none ∨ rotation.learned = some batch
  cursor_eq : rotation.cursor = turns * batch % length

namespace Rotation.StandsAt

variable {rotation : Rotation} {networks : List Ssid} {batch turns : Nat} {answer : Int32}

theorem select_eq (hstands : rotation.StandsAt networks.length batch turns) (hpos : 0 < batch)
    (hlong : batch < networks.length) (hanswer : answer.toInt = batch + 1) :
    (rotation.select networks answer).chosen = window networks (turns * batch) batch ∧
      (rotation.select networks answer).next.StandsAt networks.length batch (turns + 1) := by
  have hlearned : rotation.learned.or (usable answer) = some batch :=
    learned_or_usable (hstands.learned.symm.imp_right fun hunknown ↦ ⟨hunknown, hanswer⟩) hpos
  have hcursor : rotation.cursor < networks.length := by
    rw [hstands.cursor_eq]
    exact Nat.mod_lt _ (Nat.zero_lt_of_lt hlong)
  rw [select_of_lt hlearned hlong hcursor, hstands.cursor_eq, window_mod, Nat.mod_add_mod]
  exact ⟨rfl, Or.inr rfl, by rw [Nat.succ_mul]⟩

end Rotation.StandsAt

namespace Run

variable {radio : Radio} {fallbackBatch : Nat} {past : History} {scanner : Coordinator}
variable {networks : List Ssid} {batch : Nat}

/-- Each request for hidden networks that is accepted moves the rotation on by one batch. -/
theorem standsAt (run : Run radio fallbackBatch past scanner) (hpos : 0 < batch)
    (hlong : batch < networks.length)
    (hsteady : ∀ episode ∈ past, episode.Steady networks batch) :
    scanner.single.rotation.StandsAt networks.length batch past.seekers := by
  induction run with
  | fresh => exact ⟨Or.inl rfl, by simp [History.seekers, Coordinator.fresh, SingleSession.fresh,
      Rotation.fresh]⟩
  | @snoc past scanner around action run hpossible ih =>
    have hpast := ih fun episode hmem ↦ hsteady episode (List.mem_append_left _ hmem)
    have hlast := hsteady _ (List.mem_append_right _ (List.mem_singleton_self _))
    rw [Coordinator.single_next_step, SingleSession.rotation_turn, History.seekers_append,
      History.seekers_singleton]
    cases action with
    | startScan request listener =>
      rw [Episode.seeks_startScan]
      dsimp only
      by_cases hadmits : scanner.single.Admits request
      · rw [if_pos hadmits, decide_eq_true hadmits, Bool.and_true]
        cases hidden : request.hidden with
        | none => exact hpast
        | some named =>
          obtain rfl : named = networks := hlast.listed named hidden
          exact (hpast.select_eq hpos hlong hlast.limit).2
      · rw [if_neg hadmits, decide_eq_false hadmits, Bool.and_false]
        exact hpast
    | cleanup => exact absurd rfl hlast.kept
    | _ => exact hpast

/-- The networks that are probed depend on how many requests were accepted before, whether or not
those were scanned for. -/
theorem probed_eq (run : Run radio fallbackBatch past scanner) (hpos : 0 < batch)
    (hlong : batch < networks.length)
    (hsteady : ∀ episode ∈ past, episode.Steady networks batch) {earlier later : History}
    {episode : Episode} (hpast : past = earlier ++ episode :: later)
    (hprobed : episode.probed ≠ []) :
    episode.probed = [Rotation.window networks (earlier.seekers * batch) batch] := by
  have hearlier (other : Episode) (hmem : other ∈ earlier) : other.Steady networks batch :=
    hsteady other (hpast ▸ List.mem_append_left _ hmem)
  have hlast : episode.Steady networks batch :=
    hsteady episode (hpast ▸ List.mem_append_right _ List.mem_cons_self)
  have hstands := (run.before hpast).1.standsAt hpos hlong hearlier
  obtain ⟨scanner, around, action⟩ := episode
  cases hseeks : Episode.seeks ⟨scanner, around, action⟩ with
  | false => exact absurd (Episode.probed_of_seeks_eq_false hseeks) hprobed
  | true =>
    obtain ⟨request, listener, named, rfl, hidden, hadmits⟩ := Episode.exists_of_seeks hseeks
    obtain rfl : named = networks := hlast.listed named hidden
    rw [Episode.probed_of_admits hadmits hidden] at hprobed ⊢
    by_cases htaken : request.refusal? scanner.radio around = none
    · rw [if_pos htaken, (hstands.select_eq hpos hlong hlast.limit).1]
    · rw [if_neg htaken] at hprobed
      exact absurd rfl hprobed

theorem length_of_mem_probed (run : Run radio fallbackBatch past scanner) (hpos : 0 < batch)
    (hlong : batch < networks.length)
    (hsteady : ∀ episode ∈ past, episode.Steady networks batch) {scan : List Ssid}
    (hmem : scan ∈ past.probed) : scan.length = batch := by
  obtain ⟨episode, hepisode, hscan⟩ := List.mem_flatMap.mp hmem
  obtain ⟨earlier, later, hpast⟩ := List.append_of_mem hepisode
  rw [run.probed_eq hpos hlong hsteady hpast (List.ne_nil_of_mem hscan)] at hscan
  rw [List.mem_singleton.mp hscan]
  exact Rotation.length_window (Nat.zero_lt_of_lt hlong) _ _

/-- A history in step walks through the list from its head without a gap. -/
theorem flatten_probed_of_inStep (run : Run radio fallbackBatch past scanner) (hpos : 0 < batch)
    (hlong : batch < networks.length)
    (hsteady : ∀ episode ∈ past, episode.Steady networks batch)
    (hstep : past.InStep networks batch) :
    past.probed.flatten = Rotation.window networks 0 (past.probed.length * batch) := by
  induction run with
  | fresh => simp [History.probed, Rotation.window]
  | @snoc past scanner around action run hpossible ih =>
    have hpast := ih (fun episode hmem ↦ hsteady episode (List.mem_append_left _ hmem))
      hstep.of_append
    rw [History.probed_append, History.probed_singleton]
    by_cases hprobed : Episode.probed ⟨scanner, around, action⟩ = []
    · rw [hprobed, List.append_nil, hpast]
    · obtain ⟨rounds, hrounds⟩ := hstep past ⟨scanner, around, action⟩ [] rfl hprobed
      -- what failed before makes up whole rounds, so that the place is as if it had not been there
      have hplace : past.seekers * batch % networks.length =
          past.probed.length * batch % networks.length := by
        rw [past.seekers_eq, Nat.add_mul, hrounds, Nat.add_mul_mod_self_left]
      rw [(run.snoc hpossible).probed_eq hpos hlong hsteady rfl hprobed, List.flatten_append, hpast,
        List.flatten_singleton, Rotation.window_congr hplace, List.length_append, Nat.add_mul,
        Rotation.window_append, Nat.zero_add, List.length_singleton, Nat.one_mul]

theorem fair_of_inStep (run : Run radio fallbackBatch past scanner) (hpos : 0 < batch)
    (hlong : batch < networks.length)
    (hsteady : ∀ episode ∈ past, episode.Steady networks batch)
    (hstep : past.InStep networks batch) : past.Fair networks batch := by
  have hnetworks : 0 < networks.length := Nat.zero_lt_of_lt hlong
  have hflatten := run.flatten_probed_of_inStep hpos hlong hsteady hstep
  refine ⟨fun i hi ↦ ?_, fun earlier scans later hprobed hmany network hnetwork ↦ ?_⟩
  · rw [hflatten, Rotation.length_window hnetworks] at hi
    rw [hflatten, Rotation.getElem?_window hnetworks hi, Nat.zero_add]
  · have hlength (scan : List Ssid) (hmem : scan ∈ past.probed) : scan.length = batch :=
      run.length_of_mem_probed hpos hlong hsteady hmem
    have hround : networks.length ≤ scans.length * batch := by
      have hceil := Nat.lt_mul_of_div_lt (Nat.lt_succ_of_le hmany) hpos
      rw [Nat.succ_mul] at hceil
      omega
    rw [hprobed] at hlength hflatten
    rw [Rotation.flatten_eq_window hlength hnetworks hflatten]
    exact Rotation.mem_window hround hnetwork

theorem inStep_of_fair (run : Run radio fallbackBatch past scanner) (hpos : 0 < batch)
    (hlong : batch < networks.length)
    (hsteady : ∀ episode ∈ past, episode.Steady networks batch) (hnodup : networks.Nodup)
    (hfair : past.Fair networks batch) : past.InStep networks batch := by
  intro earlier episode later hpast hprobed
  have hnetworks : 0 < networks.length := Nat.zero_lt_of_lt hlong
  have hsplit : past.probed.flatten = earlier.probed.flatten ++
      (Rotation.window networks (earlier.seekers * batch) batch ++
        (History.probed later).flatten) := by
    have hscan := run.probed_eq hpos hlong hsteady hpast hprobed
    rw [hpast, History.probed_append, List.flatten_append]
    show _ ++ (episode.probed ++ History.probed later).flatten = _
    rw [hscan, List.flatten_append, List.flatten_singleton]
  have hearlier : earlier.probed.flatten.length = earlier.probed.length * batch := by
    refine Rotation.length_flatten_of_forall fun scan hmem ↦ ?_
    refine run.length_of_mem_probed hpos hlong hsteady ?_
    rw [hpast, History.probed_append]
    exact List.mem_append_left _ hmem
  -- the first network of this scan is where the scans before it left off
  have hfirst := hfair.cyclic (earlier.probed.length * batch) (by
    rw [hsplit, List.length_append, List.length_append, hearlier,
      Rotation.length_window hnetworks]
    omega)
  rw [hsplit, List.getElem?_append_right (Nat.le_of_eq hearlier), hearlier, Nat.sub_self,
    List.getElem?_append_left (by rw [Rotation.length_window hnetworks]; exact hpos),
    Rotation.getElem?_window hnetworks hpos, Nat.add_zero] at hfirst
  have hplace := (List.getElem?_inj (Nat.mod_lt _ hnetworks) hnodup).mp hfirst
  have hmissed := Nat.sub_mod_eq_zero_of_mod_eq hplace
  rw [earlier.seekers_eq, Nat.add_mul, Nat.add_sub_cancel_left] at hmissed
  exact Nat.dvd_of_mod_eq_zero hmissed

/-- Requests for more hidden networks than fit go on probing all of them in turn, provided that
whenever something is probed, the requests that failed before make up whole rounds through the
list; otherwise networks are passed over. For each request that is accepted moves the rotation on by
one batch, even if the driver then refuses it or it has no channel. -/
theorem rounds_fair_iff (run : Run radio fallbackBatch past scanner) (hpos : 0 < batch)
    (hlong : batch < networks.length)
    (hsteady : ∀ episode ∈ past, episode.Steady networks batch) :
    (∀ (earlier : History) (episode : Episode) (later : History),
      past = earlier ++ episode :: later → episode.probed ≠ [] →
        episode.probed =
          [Rotation.window networks ((earlier.probed.length + earlier.misses) * batch) batch]) ∧
    (past.InStep networks batch → past.Fair networks batch) ∧
    (networks.Nodup → past.Fair networks batch → past.InStep networks batch) := by
  refine ⟨fun earlier episode later hpast hprobed ↦ ?_,
    run.fair_of_inStep hpos hlong hsteady, run.inStep_of_fair hpos hlong hsteady⟩
  rw [← earlier.seekers_eq]
  exact run.probed_eq hpos hlong hsteady hpast hprobed

/-- Surroundings in which the driver has room for two networks. -/
def roomForTwo (handle : Nat) : Surroundings := { Surroundings.calm handle with probeLimit := 3 }

def fourHidden : List Ssid := [[0], [1], [2], [3]]

def forFourHidden : ScanRequest :=
  { ScanRequest.ofChannel 2412 0#32 with hidden := some fourHidden }

/-- Of four requests the driver refuses the second, and the third has no channel. -/
def twoMissed : List (Surroundings × Action) :=
  [(roomForTwo 1, .startScan forFourHidden ⟨1⟩),
    (roomForTwo 2, .driverEvent .scanResultsAvailable),
    ({ roomForTwo 2 with scanRefusal := some .busy }, .startScan forFourHidden ⟨2⟩),
    (roomForTwo 3, .runTask ⟨2⟩),
    (roomForTwo 3, .startScan { forFourHidden with buckets := [] } ⟨3⟩),
    (roomForTwo 4, .runTask ⟨3⟩),
    (roomForTwo 4, .startScan forFourHidden ⟨4⟩)]

/-- The two that failed make up a round. -/
theorem rounds_fair_iff_twoMissed :
    let (past, _) := Coordinator.play [] .specimen twoMissed
    Coordinator.Playable [] .specimen twoMissed ∧ past.seekers = 4 ∧ past.misses = 2 ∧
      past.probed = [[[0], [1]], [[2], [3]]] ∧ past.Fair fourHidden 2 := by
  have hplayable : Coordinator.Playable [] .specimen twoMissed := by decide
  have hclaim := rounds_fair_iff (Run.fresh.play twoMissed hplayable) (by decide : 0 < 2)
    (by decide : 2 < fourHidden.length) (by decide)
  exact ⟨hplayable, by decide, by decide, by decide, hclaim.2.1 (by decide)⟩

/-- Of three requests the driver refuses the second. -/
def oneRefused : List (Surroundings × Action) :=
  [(roomForTwo 1, .startScan forFourHidden ⟨1⟩),
    (roomForTwo 2, .driverEvent .scanResultsAvailable),
    ({ roomForTwo 2 with scanRefusal := some .busy }, .startScan forFourHidden ⟨2⟩),
    (roomForTwo 3, .runTask ⟨2⟩),
    (roomForTwo 3, .startScan forFourHidden ⟨3⟩)]

/-- The same two networks are probed again, and the other two not at all. -/
theorem not_fair_oneRefused :
    let (past, _) := Coordinator.play [] .specimen oneRefused
    Coordinator.Playable [] .specimen oneRefused ∧
      (∀ episode ∈ past, episode.Steady fourHidden 2) ∧ past.misses = 1 ∧
      past.probed = [[[0], [1]], [[0], [1]]] ∧ ¬ past.Fair fourHidden 2 := by
  have hprobed : (Coordinator.play [] .specimen oneRefused).1.probed =
      [[[0], [1]], [[0], [1]]] := by decide
  have hunfair : ¬ (Coordinator.play [] .specimen oneRefused).1.Fair fourHidden 2 := by
    intro hfair
    have hthird := hfair.cyclic 2
    rw [hprobed] at hthird
    exact absurd (hthird (by decide)) (by decide)
  exact ⟨by decide, by decide, by decide, hprobed, hunfair⟩

end Run

end RadioScan
