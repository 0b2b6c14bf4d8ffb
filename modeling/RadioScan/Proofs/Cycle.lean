import Mathlib.Data.List.Nodup
import RadioScan.Proofs.Windows

/-!
The cycle of a rotation. While more networks are listed than the driver takes, selections walk round
the list from wherever the rotation stands, batch by batch, and each goes on where the one before it
stopped (`Rotation.cycles`). What makes the walk a fair one is a matter of the positions it stops
at, `Rotation.places`: those of one round are all the positions, each once.
-/

set_option autoImplicit false
set_option relaxedAutoImplicit false

namespace RadioScan.Rotation

variable {α : Type} {networks : List α}

/-- The positions at which a walk round a list of a given length stops. -/
def places (length start count : Nat) : List Nat :=
  (List.range' start count).map fun place ↦ place % length

/-- Where the next selection from a longer list than fits begins. -/
def start (rotation : Rotation) (length : Nat) : Nat :=
  if rotation.cursor < length then rotation.cursor else 0

/-- The rotation after several uses, one after the other. -/
def after (rotation : Rotation) (uses : List (Use α)) : Rotation :=
  uses.foldl (fun rotation use ↦ (rotation.apply use).next) rotation

/-- The picks go round the list from `start`, a batch at a time. -/
structure Cycles (networks : List α) (start batch : Nat) (picks : List (Pick α)) : Prop where
  in_order : (picks.flatMap Pick.chosen).map some =
    (places networks.length start (picks.length * batch)).map fun position ↦ networks[position]?
  distinct : ∀ segment, segment <:+: places networks.length start (picks.length * batch) →
    segment.length ≤ networks.length → segment.Nodup
  covering : ∀ calls, calls <:+: picks →
    (networks.length + batch - 1) / batch ≤ calls.length →
      ∀ network ∈ networks, network ∈ calls.flatMap Pick.chosen
  even : ∀ segment, segment <:+: places networks.length start (picks.length * batch) →
    ∀ position < networks.length, ∀ other < networks.length,
      segment.count position ≤ segment.count other + 1

/-! ### Positions -/

/-- What follows one another in a walk is a walk. -/
theorem eq_map_range'_of_infix {β : Type} {value : Nat → β} {start count : Nat} {segment : List β}
    (hsegment : segment <:+: (List.range' start count).map value) :
    ∃ place, segment = (List.range' place segment.length).map value := by
  obtain ⟨earlier, later, heq⟩ := hsegment
  obtain ⟨front, _, hrange, hfront, -⟩ := List.map_eq_append_iff.mp heq.symm
  obtain ⟨_, middle, rfl, -, rfl⟩ := List.map_eq_append_iff.mp hfront
  obtain ⟨steps, -, hfront, -⟩ := List.range'_eq_append_iff.mp hrange
  obtain ⟨skipped, -, -, rfl⟩ := List.range'_eq_append_iff.mp hfront.symm
  exact ⟨start + skipped, by simp⟩

variable {length : Nat}

theorem places_succ (length start count : Nat) :
    places length start (count + 1) = start % length :: places length (start + 1) count := by
  rw [places, List.range'_succ, List.map_cons]
  rfl

theorem places_append (length start first second : Nat) :
    places length start (first + second) =
      places length start first ++ places length (start + first) second := by
  rw [places, ← List.range'_append_1, List.map_append]
  rfl

/-- A round leads back to where it began. -/
theorem places_add_length (length start count : Nat) :
    places length (start + length) count = places length start count := by
  induction count generalizing start with
  | zero => rfl
  | succ count ih =>
    rw [places_succ, places_succ, Nat.add_right_comm, ih, Nat.add_mod_right]

theorem nodup_places {count : Nat} (hcount : count ≤ length) (start : Nat) :
    (places length start count).Nodup := by
  refine List.Nodup.map_on (fun first hfirst second hsecond heq ↦ ?_) List.nodup_range'
  rw [List.mem_range'_1] at hfirst hsecond
  have hdvd := Nat.dvd_of_mod_eq_zero (Nat.sub_mod_eq_zero_of_mod_eq heq)
  have hdvd' := Nat.dvd_of_mod_eq_zero (Nat.sub_mod_eq_zero_of_mod_eq heq.symm)
  have hle := Nat.eq_zero_of_dvd_of_lt hdvd (by omega)
  have hge := Nat.eq_zero_of_dvd_of_lt hdvd' (by omega)
  omega

theorem mem_places {position : Nat} (hposition : position < length) (start : Nat) :
    position ∈ places length start length := by
  obtain ⟨steps, hsteps, hplace⟩ := exists_add_mod_eq hposition start
  exact List.mem_map.mpr ⟨start + steps, List.mem_range'_1.mpr (by omega), hplace⟩

/-- A whole round adds one to the count of each position. -/
theorem count_places_add {position : Nat} (hposition : position < length) (start count : Nat) :
    (places length start (length + count)).count position =
      (places length start count).count position + 1 := by
  rw [places_append, places_add_length, List.count_append,
    List.count_eq_one_of_mem (nodup_places (Nat.le_refl _) start) (mem_places hposition start),
    Nat.add_comm]

theorem count_places_le {position other : Nat} (hposition : position < length)
    (hother : other < length) (start count : Nat) :
    (places length start count).count position ≤
      (places length start count).count other + 1 := by
  induction count using Nat.strongRecOn with
  | ind count ih =>
    rcases Nat.le_total count length with hcount | hcount
    · have honce := List.nodup_iff_count_le_one.mp (nodup_places hcount start) position
      omega
    · obtain ⟨rest, rfl⟩ := Nat.exists_eq_add_of_le hcount
      rw [count_places_add hposition, count_places_add hother]
      exact Nat.succ_le_succ (ih rest (by omega))

theorem map_some_window (hnetworks : 0 < networks.length) (start count : Nat) :
    (window networks start count).map some =
      (places networks.length start count).map fun position ↦ networks[position]? := by
  induction count generalizing start with
  | zero => rfl
  | succ count ih =>
    rw [window_succ hnetworks, places_succ, List.map_cons, List.map_cons, ih,
      List.getElem?_eq_getElem (Nat.mod_lt _ hnetworks)]
    rfl

/-! ### Batches -/

/-- Batches that follow one another make a longer window. -/
theorem flatten_windows (networks : List α) (start batch first count : Nat) :
    ((List.range' first count).map fun i ↦ window networks (start + i * batch) batch).flatten =
      window networks (start + first * batch) (count * batch) := by
  induction count generalizing first with
  | zero => simp [window]
  | succ count ih =>
    rw [List.range'_succ, List.map_cons, List.flatten_cons, ih, Nat.succ_mul, Nat.succ_mul,
      Nat.add_comm (count * batch), window_append, Nat.add_assoc]

variable {rotation : Rotation} {answer : Int32} {batch : Nat}

/-- How many networks a selection takes. -/
def batchFor (rotation : Rotation) (networks : List α) (answer : Int32) : Nat :=
  min networks.length ((rotation.learned.or (usable answer)).getD rotation.fallbackBatch)

/-- Where a selection begins. -/
def startFor (rotation : Rotation) (networks : List α) (answer : Int32) : Nat :=
  if rotation.batchFor networks answer = networks.length ∨ networks.length ≤ rotation.cursor ∨
      rotation.learned.or (usable answer) = none then 0
  else rotation.cursor

/-- What `select` does, in terms of where it begins and how much it takes. -/
theorem select_eq (rotation : Rotation) (networks : List α) (answer : Int32) :
    rotation.select networks answer =
      { chosen :=
          window networks (rotation.startFor networks answer) (rotation.batchFor networks answer)
        asked := rotation.learned.isNone
        next :=
          { rotation with
            learned := rotation.learned.or (usable answer)
            cursor :=
              if networks.isEmpty then 0
              else (rotation.startFor networks answer + rotation.batchFor networks answer) %
                networks.length } } :=
  rfl

theorem cursor_next_select (hnetworks : 0 < networks.length) (rotation : Rotation)
    (answer : Int32) :
    (rotation.select networks answer).next.cursor =
      (rotation.startFor networks answer + rotation.batchFor networks answer) %
        networks.length := by
  rw [select_eq, List.isEmpty_eq_false_iff.mpr (List.ne_nil_of_length_pos hnetworks)]
  rfl

/-- A cursor that is beyond the list counts as being at its head. -/
theorem select_of_le (hcursor : networks.length ≤ rotation.cursor) (answer : Int32) :
    rotation.select networks answer =
      ({ rotation with cursor := 0 } : Rotation).select networks answer := by
  simp [select, hcursor]

theorem select_start (hlearned : rotation.learned.or (usable answer) = some batch)
    (hlong : batch < networks.length) :
    rotation.select networks answer =
      { chosen := window networks (rotation.start networks.length) batch
        asked := rotation.learned.isNone
        next :=
          { rotation with
            learned := some batch
            cursor := (rotation.start networks.length + batch) % networks.length } } := by
  by_cases hcursor : rotation.cursor < networks.length
  · rw [start, if_pos hcursor, select_of_lt hlearned hlong hcursor]
  · rw [start, if_neg hcursor, select_of_le (Nat.le_of_not_lt hcursor)]
    exact select_of_lt hlearned hlong (Nat.zero_lt_of_lt hlong)

theorem start_lt (rotation : Rotation) (hnetworks : 0 < networks.length) :
    rotation.start networks.length < networks.length := by
  rw [start]
  split
  · assumption
  · exact hnetworks

/-- The limit is known, or the first answer tells it. -/
def Learns (rotation : Rotation) (answers : List Int32) (batch : Nat) : Prop :=
  rotation.learned = some batch ∨
    rotation.learned = none ∧ ∀ answer ∈ answers.head?, answer.toInt = batch + 1

theorem Learns.learned_or {rest : List Int32} (hlearns : rotation.Learns (answer :: rest) batch)
    (hpos : 0 < batch) : rotation.learned.or (usable answer) = some batch :=
  learned_or_usable (hlearns.imp_right fun hunknown ↦ ⟨hunknown.1, hunknown.2 answer rfl⟩) hpos

/-- A selection takes a batch, and the next one begins behind it. -/
theorem Learns.select {rest : List Int32} (hlearns : rotation.Learns (answer :: rest) batch)
    (hpos : 0 < batch) (hlong : batch < networks.length) :
    (rotation.select networks answer).chosen =
        window networks (rotation.start networks.length) batch ∧
      (rotation.select networks answer).next.Learns rest batch ∧
      (rotation.select networks answer).next.start networks.length =
        (rotation.start networks.length + batch) % networks.length := by
  rw [select_start (hlearns.learned_or hpos) hlong]
  refine ⟨rfl, Or.inl rfl, ?_⟩
  rw [start, if_pos (Nat.mod_lt _ (Nat.zero_lt_of_lt hlong))]

/-- Each selection takes the batch after the one before it. -/
theorem map_chosen_trace (hpos : 0 < batch) (hlong : batch < networks.length)
    {answers : List Int32} (hlearns : rotation.Learns answers batch) :
    (rotation.trace (answers.map (.pick networks))).map Pick.chosen =
      (List.range' 0 answers.length).map fun i ↦
        window networks (rotation.start networks.length + i * batch) batch := by
  induction answers generalizing rotation with
  | nil => rfl
  | cons answer rest ih =>
    obtain ⟨hchosen, hnext, hstart⟩ := hlearns.select hpos hlong
    have hrange : List.range' 1 rest.length = (List.range' 0 rest.length).map (1 + ·) :=
      (List.map_add_range' 0 rest.length 1).symm
    show (rotation.select networks answer).chosen ::
      ((rotation.select networks answer).next.trace (rest.map _)).map Pick.chosen = _
    rw [ih hnext, hstart, hchosen, List.length_cons, List.range'_succ, List.map_cons,
      Nat.zero_mul, Nat.add_zero, hrange, List.map_map]
    refine congrArg _ (List.map_congr_left fun i _ ↦ window_congr ?_ batch)
    rw [Nat.mod_add_mod, Nat.add_mul, Nat.one_mul, Nat.add_assoc]

theorem start_after_picks (hpos : 0 < batch) (hlong : batch < networks.length)
    {answers : List Int32} (hlearns : rotation.Learns answers batch) :
    (rotation.after (answers.map (.pick networks))).start networks.length =
      (rotation.start networks.length + answers.length * batch) % networks.length := by
  induction answers generalizing rotation with
  | nil =>
    have hstart := rotation.start_lt (Nat.zero_lt_of_lt hlong)
    rw [List.length_nil, Nat.zero_mul, Nat.add_zero, Nat.mod_eq_of_lt hstart]
    rfl
  | cons answer rest ih =>
    obtain ⟨-, hnext, hstart⟩ := hlearns.select hpos hlong
    show ((rotation.select networks answer).next.after (rest.map _)).start networks.length = _
    rw [ih hnext, hstart, Nat.mod_add_mod, List.length_cons, Nat.succ_mul, Nat.add_assoc,
      Nat.add_comm batch]

theorem length_trace (rotation : Rotation) (uses : List (Use α)) :
    (rotation.trace uses).length = uses.length := by
  induction uses generalizing rotation with
  | nil => rfl
  | cons use rest ih => exact congrArg Nat.succ (ih _)

theorem after_append (rotation : Rotation) (uses rest : List (Use α)) :
    rotation.after (uses ++ rest) = (rotation.after uses).after rest :=
  List.foldl_append

theorem trace_append (rotation : Rotation) (uses rest : List (Use α)) :
    rotation.trace (uses ++ rest) = rotation.trace uses ++ (rotation.after uses).trace rest := by
  induction uses generalizing rotation with
  | nil => rfl
  | cons use uses ih => exact congrArg _ (ih _)

/-- A selection leaves the cursor in the list. -/
theorem cursor_next_select_lt (hnetworks : 0 < networks.length) (rotation : Rotation)
    (answer : Int32) : (rotation.select networks answer).next.cursor < networks.length := by
  rw [cursor_next_select hnetworks]
  exact Nat.mod_lt _ hnetworks

theorem cursor_after_picks (hnetworks : 0 < networks.length) (rotation : Rotation)
    {answers : List Int32} (hanswers : answers ≠ []) :
    (rotation.after (answers.map (.pick networks))).cursor =
      (rotation.after (answers.map (.pick networks))).start networks.length := by
  rcases List.eq_nil_or_concat answers with rfl | ⟨earlier, last, rfl⟩
  · exact absurd rfl hanswers
  · rw [List.concat_eq_append, List.map_append, after_append, start]
    exact (if_pos (cursor_next_select_lt hnetworks _ last)).symm

theorem length_le_of_calls {length batch calls : Nat} (hpos : 0 < batch)
    (hcalls : (length + batch - 1) / batch ≤ calls) : length ≤ calls * batch := by
  have hbound := (Nat.div_le_iff_le_mul_add_pred hpos).mp hcalls
  rw [Nat.mul_comm] at hbound
  omega

/-- Selections that follow one another walk from some place on. -/
theorem flatMap_chosen_of_infix {picks calls : List (Pick α)} {start batch count : Nat}
    (hpicks : picks.map Pick.chosen =
      (List.range' 0 count).map fun i ↦ window networks (start + i * batch) batch)
    (hcalls : calls <:+: picks) :
    ∃ place, calls.flatMap Pick.chosen = window networks place (calls.length * batch) := by
  obtain ⟨place, hmap⟩ := eq_map_range'_of_infix (hpicks ▸ hcalls.map Pick.chosen)
  refine ⟨start + place * batch, ?_⟩
  rw [List.flatMap_def, hmap, List.length_map, flatten_windows]

theorem cycles_of_map_chosen {picks : List (Pick α)} {start : Nat} (hpos : 0 < batch)
    (hnetworks : 0 < networks.length)
    (hpicks : picks.map Pick.chosen =
      (List.range' 0 picks.length).map fun i ↦ window networks (start + i * batch) batch) :
    Cycles networks start batch picks where
  in_order := by
    rw [List.flatMap_def, hpicks, flatten_windows, Nat.zero_mul, Nat.add_zero,
      map_some_window hnetworks]
  distinct := by
    intro segment hsegment hlength
    obtain ⟨place, heq⟩ := eq_map_range'_of_infix hsegment
    exact heq ▸ nodup_places hlength place
  covering := by
    intro calls hcalls hmany network hnetwork
    obtain ⟨place, hchosen⟩ := flatMap_chosen_of_infix hpicks hcalls
    rw [hchosen]
    exact mem_window (length_le_of_calls hpos hmany) hnetwork
  even := by
    intro segment hsegment position hposition other hother
    obtain ⟨place, heq⟩ := eq_map_range'_of_infix hsegment
    exact heq ▸ count_places_le hposition hother place _

/-- As long as more networks are listed than the driver takes, selections go round the list from
wherever the rotation stands, or from its head if that is beyond the list. (A cursor that is beyond
the list stays there until something is selected.) -/
theorem cycles (rotation : Rotation) (networks : List α) {answers : List Int32} (hpos : 0 < batch)
    (hlong : batch < networks.length) (hlearns : rotation.Learns answers batch) :
    (rotation.trace (answers.map (.pick networks))).length = answers.length ∧
      Cycles networks (rotation.start networks.length) batch
        (rotation.trace (answers.map (.pick networks))) ∧
      (rotation.after (answers.map (.pick networks))).start networks.length =
        (rotation.start networks.length + answers.length * batch) % networks.length ∧
      (answers ≠ [] → (rotation.after (answers.map (.pick networks))).cursor =
        (rotation.start networks.length + answers.length * batch) % networks.length) := by
  have hnetworks : 0 < networks.length := Nat.zero_lt_of_lt hlong
  have hlength : (rotation.trace (answers.map (.pick networks))).length = answers.length := by
    rw [length_trace, List.length_map]
  have hchosen := map_chosen_trace hpos hlong hlearns
  have hafter := start_after_picks hpos hlong hlearns
  refine ⟨hlength, ?_, hafter, fun hanswers ↦ ?_⟩
  · rw [← hlength] at hchosen
    exact cycles_of_map_chosen hpos hnetworks hchosen
  · rw [cursor_after_picks hnetworks rotation hanswers, hafter]

/-- A list that has shrunk since the last selection, five of whose entries are taken three at a
time. -/
theorem cycles_shrunk :
    let rotation : Rotation := ⟨16, none, 9⟩
    let uses := [4, 0].map (.pick [10, 11, 12, 13, 14])
    rotation.Learns [4, 0] 3 ∧
      (rotation.trace uses).map Pick.chosen = [[10, 11, 12], [13, 14, 10]] ∧
      Cycles [10, 11, 12, 13, 14] 0 3 (rotation.trace uses) ∧ (rotation.after uses).cursor = 1 := by
  have hlearns : (⟨16, none, 9⟩ : Rotation).Learns [4, 0] 3 := by
    refine Or.inr ⟨rfl, ?_⟩
    rintro _ ⟨⟩
    rfl
  have hclaim := cycles _ [10, 11, 12, 13, 14] (by decide) (by decide) hlearns
  exact ⟨hlearns, by decide, hclaim.2.1, hclaim.2.2.2 (by decide)⟩

end RadioScan.Rotation
