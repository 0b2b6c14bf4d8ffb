import RadioScan.Spectrum.Band

/-!
Finite sets of channels, held as their strictly ascending list of frequencies. Membership after an
insertion is the expected one (`mem_insert`, `mem_insertAll`), and the list of a set is determined
by its members (`ext_of_mem`), so two ways of building one set give one list.
-/
set_option autoImplicit false
set_option relaxedAutoImplicit false

namespace RadioScan

/-- A set of channels; its frequencies ascend without repetition. -/
structure ChannelSet where
  toList : List Frequency
  ascending : toList.Pairwise (· < ·)
  deriving DecidableEq, Repr

namespace ChannelSet

/-- Puts a frequency at its place in an ascending list, unless it is there already. -/
def insertAscending (frequency : Frequency) : List Frequency → List Frequency
  | [] => [frequency]
  | head :: tail =>
    if frequency < head then frequency :: head :: tail
    else if frequency = head then head :: tail
    else head :: insertAscending frequency tail

theorem mem_insertAscending {frequency x : Frequency} {list : List Frequency} :
    x ∈ insertAscending frequency list ↔ x = frequency ∨ x ∈ list := by
  induction list with
  | nil => simp [insertAscending]
  | cons head tail ih =>
    rw [insertAscending]
    split
    · simp
    · split
      · next _ heq => simp [heq]
      · simp only [List.mem_cons, ih]
        constructor
        · rintro (h | h | h) <;> simp [h]
        · rintro (h | h | h) <;> simp [h]

theorem pairwise_insertAscending (frequency : Frequency) {list : List Frequency}
    (h : list.Pairwise (· < ·)) : (insertAscending frequency list).Pairwise (· < ·) := by
  induction list with
  | nil => simp [insertAscending]
  | cons head tail ih =>
    rw [insertAscending]
    rw [List.pairwise_cons] at h
    split
    · next hlt =>
      refine List.pairwise_cons.mpr ⟨?_, List.pairwise_cons.mpr h⟩
      intro x hx
      rcases List.mem_cons.mp hx with rfl | hx
      · exact hlt
      · exact Nat.lt_trans hlt (h.1 x hx)
    · split
      · exact List.pairwise_cons.mpr h
      · next hge hne =>
        refine List.pairwise_cons.mpr ⟨?_, ih h.2⟩
        intro x hx
        rcases mem_insertAscending.mp hx with rfl | hx
        · exact Nat.lt_of_le_of_ne (Nat.le_of_not_lt hge) (Ne.symm hne)
        · exact h.1 x hx

def empty : ChannelSet := ⟨[], List.Pairwise.nil⟩

def insert (set : ChannelSet) (frequency : Frequency) : ChannelSet :=
  ⟨insertAscending frequency set.toList, pairwise_insertAscending frequency set.ascending⟩

def insertAll (set : ChannelSet) (frequencies : List Frequency) : ChannelSet :=
  frequencies.foldl insert set

def isEmpty (set : ChannelSet) : Bool := set.toList.isEmpty

instance : Membership Frequency ChannelSet where
  mem set frequency := frequency ∈ set.toList

instance (frequency : Frequency) (set : ChannelSet) : Decidable (frequency ∈ set) :=
  inferInstanceAs (Decidable (frequency ∈ set.toList))

theorem mem_toList {frequency : Frequency} {set : ChannelSet} :
    frequency ∈ set.toList ↔ frequency ∈ set := Iff.rfl

theorem not_mem_empty (frequency : Frequency) : frequency ∉ empty := by
  simp [← mem_toList, empty]

theorem mem_insert {set : ChannelSet} {frequency x : Frequency} :
    x ∈ set.insert frequency ↔ x = frequency ∨ x ∈ set :=
  mem_insertAscending

theorem mem_insertAll {set : ChannelSet} {frequencies : List Frequency} {x : Frequency} :
    x ∈ set.insertAll frequencies ↔ x ∈ set ∨ x ∈ frequencies := by
  induction frequencies generalizing set with
  | nil => simp [insertAll]
  | cons head tail ih =>
    have hstep : set.insertAll (head :: tail) = (set.insert head).insertAll tail := rfl
    rw [hstep, ih, mem_insert, List.mem_cons]
    constructor
    · rintro ((h | h) | h) <;> simp [h]
    · rintro (h | h | h) <;> simp [h]

theorem isEmpty_iff {set : ChannelSet} : set.isEmpty = true ↔ ∀ x : Frequency, x ∉ set := by
  simp only [isEmpty, List.isEmpty_iff, ← mem_toList]
  exact List.eq_nil_iff_forall_not_mem

theorem eq_of_pairwise_of_mem {left right : List Frequency} (hl : left.Pairwise (· < ·))
    (hr : right.Pairwise (· < ·)) (h : ∀ x, x ∈ left ↔ x ∈ right) : left = right := by
  induction left generalizing right with
  | nil => exact (List.eq_nil_iff_forall_not_mem.mpr fun x hx ↦ by simpa using (h x).mpr hx).symm
  | cons a left ih =>
    cases right with
    | nil => exact absurd ((h a).mp (by simp)) (by simp)
    | cons b right =>
      rw [List.pairwise_cons] at hl hr
      have hab : a = b := by
        have ha := (h a).mp (by simp)
        have hb := (h b).mpr (by simp)
        rcases List.mem_cons.mp ha with ha | ha
        · exact ha
        · rcases List.mem_cons.mp hb with hb | hb
          · exact hb.symm
          · exact absurd (Nat.lt_trans (hr.1 a ha) (hl.1 b hb)) (Nat.lt_irrefl _)
      subst hab
      congr 1
      refine ih hl.2 hr.2 fun x ↦ ?_
      have hx := h x
      simp only [List.mem_cons] at hx
      constructor
      · intro hmem
        rcases hx.mp (Or.inr hmem) with rfl | hmem'
        · exact absurd (hl.1 x hmem) (Nat.lt_irrefl _)
        · exact hmem'
      · intro hmem
        rcases hx.mpr (Or.inr hmem) with rfl | hmem'
        · exact absurd (hr.1 x hmem) (Nat.lt_irrefl _)
        · exact hmem'

theorem ext_of_mem {left right : ChannelSet} (h : ∀ x : Frequency, x ∈ left ↔ x ∈ right) :
    left = right := by
  have hlist := eq_of_pairwise_of_mem left.ascending right.ascending h
  cases left
  cases right
  simpa using hlist

end ChannelSet

end RadioScan
