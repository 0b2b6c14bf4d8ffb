import RadioScan.Rotation

/-!
Windows of a cyclic walk through a list, and the selections that make them. A window is as long as
it is asked to be, entry `i` of it is entry `start + i` of the walk, and one that is as long as the
list has every network in it. A selection for a list that does not fit takes the window at the
cursor and moves the cursor behind it (`Rotation.select_of_lt`).
-/

set_option autoImplicit false
set_option relaxedAutoImplicit false

namespace RadioScan.Rotation

variable {α : Type} {networks : List α}

/-! ### Windows -/

theorem window_succ (hnetworks : 0 < networks.length) (start count : Nat) :
    window networks start (count + 1) =
      networks.get ⟨start % networks.length, Nat.mod_lt _ hnetworks⟩ ::
        window networks (start + 1) count := by
  rw [window, List.range'_succ, List.filterMap_cons,
    List.getElem?_eq_getElem (Nat.mod_lt _ hnetworks)]
  rfl

theorem window_append (networks : List α) (start first second : Nat) :
    window networks start (first + second) =
      window networks start first ++ window networks (start + first) second := by
  rw [window, ← List.range'_append_1, List.filterMap_append]
  rfl

theorem length_window (hnetworks : 0 < networks.length) (start count : Nat) :
    (window networks start count).length = count := by
  induction count generalizing start with
  | zero => rfl
  | succ count ih => rw [window_succ hnetworks, List.length_cons, ih]

theorem getElem?_window (hnetworks : 0 < networks.length) {start count i : Nat} (hi : i < count) :
    (window networks start count)[i]? = networks[(start + i) % networks.length]? := by
  induction count generalizing start i with
  | zero => cases hi
  | succ count ih =>
    rw [window_succ hnetworks]
    cases i with
    | zero => exact (List.getElem?_eq_getElem _).symm
    | succ i =>
      rw [List.getElem?_cons_succ, ih (Nat.lt_of_succ_lt_succ hi), Nat.add_right_comm]
      rfl

/-- Where a window starts counts only up to whole rounds. -/
theorem window_congr {start other : Nat}
    (hmod : start % networks.length = other % networks.length) (count : Nat) :
    window networks start count = window networks other count := by
  have hpositions (place : Nat) : window networks place count =
      (List.range count).filterMap fun i ↦
        networks[(place % networks.length + i) % networks.length]? := by
    rw [window, List.range'_eq_map_range, List.filterMap_map]
    simp only [Function.comp_def, Nat.mod_add_mod]
  rw [hpositions start, hpositions other, hmod]

@[simp] theorem window_mod (networks : List α) (start count : Nat) :
    window networks (start % networks.length) count = window networks start count :=
  window_congr (Nat.mod_mod _ _) count

/-- From any place one comes to every position within a round. -/
theorem exists_add_mod_eq {length position : Nat} (hposition : position < length)
    (start : Nat) : ∃ steps < length, (start + steps) % length = position := by
  have hlength : 0 < length := Nat.zero_lt_of_lt hposition
  have hstart := Nat.mod_lt start hlength
  have hsum : start % length + (position + (length - start % length)) = position + length := by
    omega
  refine ⟨(position + (length - start % length)) % length, Nat.mod_lt _ hlength, ?_⟩
  rw [Nat.add_mod_mod, ← Nat.mod_add_mod, hsum, Nat.add_mod_right, Nat.mod_eq_of_lt hposition]

/-- A window that is at least as long as the list leaves out none of it. -/
theorem mem_window {start count : Nat} (hcount : networks.length ≤ count) {network : α}
    (hmem : network ∈ networks) : network ∈ window networks start count := by
  obtain ⟨position, hposition, rfl⟩ := List.mem_iff_getElem.mp hmem
  obtain ⟨steps, hsteps, hplace⟩ := exists_add_mod_eq hposition start
  refine List.mem_iff_getElem?.mpr ⟨steps, ?_⟩
  rw [getElem?_window (Nat.zero_lt_of_lt hposition) (Nat.lt_of_lt_of_le hsteps hcount), hplace,
    List.getElem?_eq_getElem hposition]

theorem length_window_le (networks : List α) (start count : Nat) :
    (window networks start count).length ≤ count := by
  rw [window]
  exact Nat.le_trans (List.length_filterMap_le _ _) (Nat.le_of_eq List.length_range')

/-- A window at the head of the list that stays within the first round. -/
theorem window_zero_of_le {count : Nat} (hcount : count ≤ networks.length) :
    window networks 0 count = networks.take count := by
  rcases Nat.eq_zero_or_pos networks.length with hempty | hnetworks
  · obtain rfl : count = 0 := Nat.le_zero.mp (hempty ▸ hcount)
    rfl
  refine List.ext_getElem? fun i ↦ ?_
  by_cases hi : i < count
  · rw [getElem?_window hnetworks hi, List.getElem?_take_of_lt hi, Nat.zero_add,
      Nat.mod_eq_of_lt (Nat.lt_of_lt_of_le hi hcount)]
  · have hcount := Nat.le_of_not_lt hi
    rw [List.getElem?_eq_none (by rwa [length_window hnetworks]),
      List.getElem?_eq_none (Nat.le_trans (List.length_take_le _ _) hcount)]

/-! ### Walks in batches -/

theorem length_flatten_of_forall {scans : List (List α)} {batch : Nat}
    (hlength : ∀ scan ∈ scans, scan.length = batch) :
    scans.flatten.length = scans.length * batch := by
  induction scans with
  | nil => exact (Nat.zero_mul batch).symm
  | cons scan rest ih =>
    obtain ⟨hscan, hrest⟩ := List.forall_mem_cons.mp hlength
    rw [List.flatten_cons, List.length_append, hscan, ih hrest, List.length_cons, Nat.succ_mul,
      Nat.add_comm]

/-- Successive batches of a walk are a window. -/
theorem flatten_eq_window {earlier scans later : List (List α)} {batch : Nat}
    (hlength : ∀ scan ∈ earlier ++ scans ++ later, scan.length = batch)
    (hnetworks : 0 < networks.length)
    (hflatten : (earlier ++ scans ++ later).flatten =
      window networks 0 ((earlier ++ scans ++ later).length * batch)) :
    scans.flatten = window networks (earlier.length * batch) (scans.length * batch) := by
  simp only [List.forall_mem_append] at hlength
  rw [List.flatten_append, List.flatten_append, List.length_append, List.length_append,
    Nat.add_mul, Nat.add_mul, window_append, window_append, Nat.zero_add] at hflatten
  have hearlier := length_flatten_of_forall hlength.1.1
  have hscans := length_flatten_of_forall hlength.1.2
  obtain ⟨hflatten, -⟩ := List.append_inj hflatten (by
    rw [List.length_append, List.length_append, hearlier, hscans, length_window hnetworks,
      length_window hnetworks])
  exact (List.append_inj hflatten (by rw [hearlier, length_window hnetworks])).2

/-! ### Selections -/

/-- A driver whose limit is one more than `batch` takes `batch` names. -/
theorem usable_of_toInt {answer : Int32} {batch : Nat} (hanswer : answer.toInt = batch + 1)
    (hbatch : 0 < batch) : usable answer = some batch := by
  have hne : answer ≠ Int32.minValue := by
    rintro rfl
    rw [Int32.toInt_minValue] at hanswer
    omega
  have hnames : (answer - 1).toInt = batch := by
    have hlt := answer.toInt_lt
    rw [Int32.toInt_sub, hanswer, Int32.toInt_one, Int.add_sub_cancel]
    apply Int.bmod_eq_of_le <;> omega
  have hpos : 0 < answer - 1 := by
    rw [Int32.lt_iff_toInt_lt, hnames, Int32.toInt_zero]
    omega
  simp only [usable, if_neg hne, if_pos hpos]
  rw [← Int32.toNat_toInt, hnames, Int.toNat_natCast]

/-- An answer that leaves no room beside the broadcast probe is of no use. -/
theorem usable_of_toInt_le_one {answer : Int32} (hanswer : answer.toInt ≤ 1) :
    usable answer = none := by
  by_cases hmin : answer = Int32.minValue
  · rw [hmin]
    rfl
  have hne : answer.toInt ≠ -2 ^ 31 := fun heq ↦ hmin (Int32.toInt_inj.mp heq)
  have hnames : (answer - 1).toInt = answer.toInt - 1 := by
    have hle := answer.le_toInt
    have hlt := answer.toInt_lt
    rw [Int32.toInt_sub, Int32.toInt_one]
    apply Int.bmod_eq_of_le <;> omega
  have hpos : ¬ 0 < answer - 1 := by
    rw [Int32.lt_iff_toInt_lt, hnames, Int32.toInt_zero]
    omega
  simp only [usable, if_neg hmin, if_neg hpos]

/-- A limit is in force when it is known or the answer tells it. -/
theorem learned_or_usable {rotation : Rotation} {answer : Int32} {batch : Nat}
    (hlearned : rotation.learned = some batch ∨
      rotation.learned = none ∧ answer.toInt = batch + 1) (hpos : 0 < batch) :
    rotation.learned.or (usable answer) = some batch := by
  rcases hlearned with hlearned | ⟨hlearned, hanswer⟩
  · rw [hlearned, Option.some_or]
  · rw [hlearned, Option.none_or, usable_of_toInt hanswer hpos]

theorem learned_select (rotation : Rotation) (networks : List α) (answer : Int32) :
    (rotation.select networks answer).next.learned = rotation.learned.or (usable answer) := rfl

/-- No more networks are chosen than the limit that is learned. -/
theorem length_chosen_select_le {rotation : Rotation} {answer : Int32} {batch : Nat}
    (hlearned : rotation.learned.or (usable answer) = some batch) (networks : List α) :
    (rotation.select networks answer).chosen.length ≤ batch := by
  simp only [select, hlearned, Option.getD_some]
  exact Nat.le_trans (length_window_le _ _ _) (Nat.min_le_right _ _)

/-- As long as nothing is learned, each choice is the head of the list. -/
theorem chosen_select_of_unlearned {rotation : Rotation} {answer : Int32}
    (hlearned : rotation.learned.or (usable answer) = none) (networks : List α) :
    (rotation.select networks answer).chosen = networks.take rotation.fallbackBatch := by
  simp only [select, hlearned, Option.getD_none, or_true, if_true]
  rw [window_zero_of_le (Nat.min_le_left _ _), Nat.min_comm, ← List.take_take, List.take_length]

/-- When not all of the networks fit, those at the cursor are chosen. -/
theorem select_of_lt {rotation : Rotation} {answer : Int32} {batch : Nat}
    (hlearned : rotation.learned.or (usable answer) = some batch)
    (hbatch : batch < networks.length) (hcursor : rotation.cursor < networks.length) :
    rotation.select networks answer =
      { chosen := window networks rotation.cursor batch
        asked := rotation.learned.isNone
        next :=
          { rotation with
            learned := some batch
            cursor := (rotation.cursor + batch) % networks.length } } := by
  have hmin : min networks.length batch = batch := Nat.min_eq_right (Nat.le_of_lt hbatch)
  have hempty : networks.isEmpty = false :=
    List.isEmpty_eq_false_iff.mpr (List.ne_nil_of_length_pos (Nat.zero_lt_of_lt hbatch))
  have hstart : ¬ (batch = networks.length ∨ networks.length ≤ rotation.cursor ∨
      some batch = none) := by
    rintro (hall | hpast | hunknown)
    · exact Nat.ne_of_lt hbatch hall
    · exact Nat.not_le_of_lt hcursor hpast
    · cases hunknown
  simp only [select, hlearned, Option.getD_some, hmin, if_neg hstart, hempty, Bool.false_eq_true,
    if_false]

end RadioScan.Rotation
