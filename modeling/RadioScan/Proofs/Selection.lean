import Mathlib.Data.List.Induction
import RadioScan.Proofs.Cycle

/-!
Selections from any lists, one after the other, whatever the driver answers. The cursor and the
limit outlive the list and the answer they came from; all the same each selection takes as many
networks as the limit allows, from positions of its own list that follow one another
(`Rotation.Proper`). `Rotation.selectChecked` is a selection whose arithmetic can fail and whose
positions can miss the list; neither ever happens (`Rotation.selections_proper`).
-/

set_option autoImplicit false
set_option relaxedAutoImplicit false

namespace RadioScan.Rotation

variable {α : Type} {networks : List α}

/-! ### Arithmetic that can fail -/

/-- The sum, if 64 bits can hold it. -/
def addWord (first second : Nat) : Option Nat :=
  if first + second < UInt64.size then some (first + second) else none

/-- The remainder, if there is one. -/
def remWord (dividend divisor : Nat) : Option Nat :=
  if divisor = 0 then none else some (dividend % divisor)

/-- The entry `steps` positions after `start`, going round at the end. -/
def entryChecked (networks : List α) (start steps : Nat) : Option α := do
  let place ← addWord start steps
  let position ← remWord place networks.length
  networks[position]?

/-- A selection that fails when a sum needs more than 64 bits, when something is divided by zero,
and when a position is not in the list. -/
def selectChecked (rotation : Rotation) (networks : List α) (answer : Int32) :
    Option (Pick α) := do
  let batch := rotation.batchFor networks answer
  let start := rotation.startFor networks answer
  let chosen ← (List.range' 0 batch).mapM (entryChecked networks start)
  let cursor ←
    if networks.isEmpty then some 0
    else do
      let place ← addWord start batch
      remWord place networks.length
  return {
    chosen
    asked := rotation.learned.isNone
    next := { rotation with learned := rotation.learned.or (usable answer), cursor } }

/-! ### What the driver has told -/

/-- How many names fit beside the broadcast probe, according to an answer. -/
def room (answer : Int32) : Option Nat :=
  if 2 ≤ answer.toInt then some (answer.toInt - 1).toNat else none

/-- The answers since the last reset, after one more use. -/
def hear (answers : List Int32) (use : Use α) (pick : Pick α) : List Int32 :=
  match use with
  | .pick _ answer => if pick.asked then answers ++ [answer] else answers
  | .reset => []

/-- The answers that the driver has given since the last reset, if there was one. -/
def answersSince (fallbackBatch : Nat) (past : List (Use α)) : List Int32 :=
  (past.zip ((fresh fallbackBatch).trace past)).foldl
    (fun answers used ↦ hear answers used.1 used.2) []

/-- The limit that follows from some answers: the first one with room tells it. -/
def limit (fallbackBatch : Nat) (answers : List Int32) : Nat :=
  (answers.findSome? room).getD fallbackBatch

/-- The pick takes as many networks as the limit allows, from positions that follow one another. -/
structure Proper (networks : List α) (limit : Nat) (pick : Pick α) : Prop where
  length_eq : pick.chosen.length = min networks.length limit
  in_cycle : ∃ start, (start < networks.length ∨ networks = []) ∧
    pick.chosen.map some = (places networks.length start (min networks.length limit)).map
      (fun position ↦ networks[position]?) ∧
    (places networks.length start (min networks.length limit)).Nodup
  cursor : pick.next.cursor < networks.length ∨ networks = [] ∧ pick.next.cursor = 0
  whole : pick.chosen.length = networks.length → pick.chosen = networks ∧ pick.next.cursor = 0

variable {rotation : Rotation} {answer : Int32}

theorem usable_eq_room (answer : Int32) : usable answer = room answer := by
  rw [room]
  split
  · next hroom =>
    have hcast : ((answer.toInt - 1).toNat : Int) = answer.toInt - 1 :=
      Int.toNat_of_nonneg (by omega)
    exact usable_of_toInt (by omega) (by omega)
  · next hroom => exact usable_of_toInt_le_one (by omega)

theorem findSome?_room_eq_none_iff {answers : List Int32} :
    answers.findSome? room = none ↔ ∀ answer ∈ answers, answer.toInt < 2 := by
  simp [room, List.findSome?_eq_none_iff]

theorem answersSince_snoc (fallbackBatch : Nat) (past : List (Use α)) (use : Use α) :
    answersSince fallbackBatch (past ++ [use]) =
      hear (answersSince fallbackBatch past) use
        (((fresh fallbackBatch).after past).apply use) := by
  rw [answersSince, trace_append, List.zip_append (length_trace _ _).symm, List.foldl_append]
  rfl

/-- The limit in force is the one that the answers since the last reset tell. -/
theorem learned_after (fallbackBatch : Nat) (past : List (Use α)) :
    ((fresh fallbackBatch).after past).fallbackBatch = fallbackBatch ∧
      ((fresh fallbackBatch).after past).learned =
        (answersSince fallbackBatch past).findSome? room := by
  induction past using List.reverseRecOn with
  | nil => exact ⟨rfl, rfl⟩
  | append_singleton past use ih =>
    obtain ⟨hfallback, hlearned⟩ := ih
    rw [after_append, answersSince_snoc]
    cases use with
    | pick networks answer =>
      refine ⟨hfallback, ?_⟩
      show ((fresh fallbackBatch).after past).learned.or (usable answer) = List.findSome? room
        (if ((fresh fallbackBatch).after past).learned.isNone then
          answersSince fallbackBatch past ++ [answer] else answersSince fallbackBatch past)
      -- an answer is given exactly when none of before had room
      cases hknown : ((fresh fallbackBatch).after past).learned with
      | none =>
        rw [if_pos Option.isNone_none, List.findSome?_append, ← hlearned, hknown,
          List.findSome?_singleton, usable_eq_room]
      | some batch => rw [if_neg (by simp), ← hlearned, hknown, Option.some_or]
    | reset => exact ⟨hfallback, rfl⟩

/-! ### One selection -/

theorem entryChecked_eq (hnetworks : 0 < networks.length) {start steps : Nat}
    (hfits : start + steps < UInt64.size) :
    entryChecked networks start steps =
      some (networks.get ⟨(start + steps) % networks.length, Nat.mod_lt _ hnetworks⟩) := by
  simp only [entryChecked, addWord, if_pos hfits, remWord, if_neg (Nat.ne_of_gt hnetworks),
    Option.bind_eq_bind, Option.bind_some]
  exact List.getElem?_eq_getElem _

theorem mapM_entryChecked (hnetworks : 0 < networks.length) {start first count : Nat}
    (hfits : start + first + count ≤ UInt64.size) :
    (List.range' first count).mapM (entryChecked networks start) =
      some (window networks (start + first) count) := by
  induction count generalizing first with
  | zero => rfl
  | succ count ih =>
    rw [List.range'_succ, List.mapM_cons, entryChecked_eq hnetworks (by omega), ih (by omega),
      window_succ hnetworks]
    rfl

theorem startFor_lt (hnetworks : 0 < networks.length) (rotation : Rotation) (answer : Int32) :
    rotation.startFor networks answer < networks.length := by
  rw [startFor]
  split
  · exact hnetworks
  · next hstart => exact Nat.lt_of_not_le fun hcursor ↦ hstart (Or.inr (Or.inl hcursor))

/-- A list has at most half as many entries as a word has values, so a selection never fails. -/
theorem selectChecked_eq (rotation : Rotation) (answer : Int32)
    (hlength : 2 * networks.length ≤ UInt64.size) :
    rotation.selectChecked networks answer = some (rotation.select networks answer) := by
  have hbatch : rotation.batchFor networks answer ≤ networks.length := Nat.min_le_left _ _
  rcases Nat.eq_zero_or_pos networks.length with hempty | hnetworks
  · obtain rfl := List.length_eq_zero_iff.mp hempty
    have hbatch : rotation.batchFor ([] : List α) answer = 0 := Nat.le_zero.mp hbatch
    simp [selectChecked, select_eq, hbatch, window]
  · have hstart := startFor_lt hnetworks rotation answer
    have hempty : networks.isEmpty = false :=
      List.isEmpty_eq_false_iff.mpr (List.ne_nil_of_length_pos hnetworks)
    have hchosen : (List.range' 0 (rotation.batchFor networks answer)).mapM
        (entryChecked networks (rotation.startFor networks answer)) =
          some (window networks (rotation.startFor networks answer + 0)
            (rotation.batchFor networks answer)) :=
      mapM_entryChecked hnetworks (by omega)
    have hsum : rotation.startFor networks answer + rotation.batchFor networks answer <
        UInt64.size := by omega
    simp only [selectChecked, hchosen, hempty, addWord, if_pos hsum, remWord,
      if_neg (Nat.ne_of_gt hnetworks), Bool.false_eq_true, if_false, Option.bind_eq_bind,
      Option.bind_some, Nat.add_zero, select_eq]
    rfl

/-- What is taken whole is taken from its head. -/
theorem select_whole (hnetworks : 0 < networks.length)
    (hbatch : rotation.batchFor networks answer = networks.length) :
    (rotation.select networks answer).chosen = networks ∧
      (rotation.select networks answer).next.cursor = 0 := by
  have hstart : rotation.startFor networks answer = 0 := if_pos (Or.inl hbatch)
  rw [cursor_next_select hnetworks, select_eq, hbatch, hstart, window_zero_of_le (Nat.le_refl _),
    List.take_length, Nat.zero_add]
  exact ⟨rfl, Nat.mod_self _⟩

theorem select_nil_proper (rotation : Rotation) (answer : Int32) (limit : Nat) :
    Proper ([] : List α) limit (rotation.select [] answer) := by
  have hchosen : (rotation.select ([] : List α) answer).chosen = [] := by simp [select, window]
  constructor
  · simp [hchosen]
  · exact ⟨0, Or.inr rfl, by simp [hchosen, places], by simp [places]⟩
  · exact Or.inr ⟨rfl, rfl⟩
  · exact fun _ ↦ ⟨hchosen, rfl⟩

theorem select_proper (rotation : Rotation) (networks : List α) (answer : Int32) :
    Proper networks ((rotation.learned.or (usable answer)).getD rotation.fallbackBatch)
      (rotation.select networks answer) := by
  rcases Nat.eq_zero_or_pos networks.length with hempty | hnetworks
  · obtain rfl := List.length_eq_zero_iff.mp hempty
    exact rotation.select_nil_proper answer _
  have hlength : (rotation.select networks answer).chosen.length =
      rotation.batchFor networks answer := by
    rw [select_eq, length_window hnetworks]
  constructor
  · exact hlength
  · exact ⟨rotation.startFor networks answer, Or.inl (startFor_lt hnetworks _ _),
      map_some_window hnetworks _ _, nodup_places (Nat.min_le_left _ _) _⟩
  · exact Or.inl (cursor_next_select_lt hnetworks _ _)
  · intro hwhole
    exact select_whole hnetworks (hlength ▸ hwhole)

/-! ### Any selections -/

/-- Whatever the lists and the answers were before, a selection takes as many networks as the limit
allows, from successive positions of its own list. The driver is asked for its limit until an answer
has told it, and until then each selection is the head of the list. -/
theorem selections_proper (fallbackBatch : Nat) (past : List (Use α)) (networks : List α)
    (answer : Int32) :
    let rotation := (fresh fallbackBatch).after past
    let pick := rotation.select networks answer
    let answers := answersSince fallbackBatch (past ++ [.pick networks answer])
    (∀ later, ((fresh fallbackBatch).trace (past ++ .pick networks answer :: later))[past.length]? =
        some pick) ∧
      (2 * networks.length ≤ UInt64.size → rotation.selectChecked networks answer = some pick) ∧
      Proper networks (limit fallbackBatch answers) pick ∧
      (pick.asked = true ↔ ∀ given ∈ answersSince fallbackBatch past, given.toInt < 2) ∧
      ((∀ given ∈ answers, given.toInt < 2) → pick.chosen <+: networks) := by
  obtain ⟨hfallback, hbefore⟩ := learned_after fallbackBatch past
  have hlearned : ((fresh fallbackBatch).after past).learned.or (usable answer) =
      (answersSince fallbackBatch (past ++ [.pick networks answer])).findSome? room := by
    rw [← (learned_after fallbackBatch _).2, after_append]
    rfl
  refine ⟨fun later ↦ ?_, selectChecked_eq _ answer, ?_, ?_, fun hroomless ↦ ?_⟩
  · rw [trace_append, List.getElem?_append_right (Nat.le_of_eq (length_trace _ _)), length_trace,
      Nat.sub_self]
    rfl
  · have hproper := select_proper ((fresh fallbackBatch).after past) networks answer
    rwa [hlearned, hfallback] at hproper
  · rw [← findSome?_room_eq_none_iff, ← hbefore]
    exact Option.isNone_iff_eq_none
  · rw [chosen_select_of_unlearned (hlearned.trans (findSome?_room_eq_none_iff.mpr hroomless))]
    exact List.take_prefix _ _

/-- The last of some lists is shorter than where the rotation stands. -/
def changingLists : List (Use Nat) :=
  [.pick [0, 1] 5, .reset, .pick [] Int32.minValue, .pick [0, 1, 2, 3, 4] 3,
    .pick [0, 1, 2, 3, 4] 0]

theorem selections_proper_changingLists :
    let rotation := (fresh 1).after changingLists
    let pick := rotation.select [5, 6, 7] 9
    let roomless := ((fresh 1).after (changingLists.take 3)).select [5, 6, 7] 1
    rotation.cursor = 4 ∧ pick.asked = false ∧ pick.chosen = [5, 6] ∧ Proper [5, 6, 7] 2 pick ∧
      rotation.selectChecked [5, 6, 7] 9 = some pick ∧
      roomless.asked = true ∧ roomless.chosen = [5] ∧ roomless.chosen <+: [5, 6, 7] := by
  have hpick := selections_proper 1 changingLists [5, 6, 7] 9
  have hroomless := selections_proper 1 (changingLists.take 3) [5, 6, 7] 1
  have hlimit : limit 1 (answersSince 1 (changingLists ++ [.pick [5, 6, 7] 9])) = 2 := by decide
  refine ⟨by decide, by decide, by decide, hlimit ▸ hpick.2.2.1, hpick.2.1 (by decide), by decide,
    by decide, hroomless.2.2.2.2 (findSome?_room_eq_none_iff.mp (by decide))⟩

end RadioScan.Rotation
