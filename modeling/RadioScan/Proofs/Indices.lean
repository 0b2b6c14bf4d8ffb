import Mathlib.Data.List.Nodup
import RadioScan.Agenda.Basic
import RadioScan.Proofs.Registry

/-!
The two indices of an agenda. In a sound agenda the waiting tasks stand in running order, no two
share a handle, and the deadlines are theirs and no others (`Agenda.Sound`). Scheduling under a new
handle keeps an agenda sound, and so does taking a task off, whether to cancel it
(`Agenda.Sound.cancel_of_mem`) or to run it (`Agenda.Sound.popDue_eq_some_iff`): either removes the
task from both indices.
-/

set_option autoImplicit false
set_option relaxedAutoImplicit false

namespace RadioScan

/-- An item and those with other keys are all items, if no two have the same key. -/
theorem perm_cons_filter_of_nodup {α κ : Type} [DecidableEq κ] {key : α → κ} {items : List α}
    (hkeys : (items.map key).Nodup) {item : α} (hmem : item ∈ items) :
    items.Perm (item :: items.filter fun other ↦ key other ≠ key item) := by
  have hitems : items.Nodup := hkeys.of_map key
  have hnot : item ∉ items.filter fun other ↦ key other ≠ key item := by simp
  have hnodup := List.nodup_cons.mpr ⟨hnot, hitems.filter _⟩
  refine (List.perm_ext_iff_of_nodup hitems hnodup).mpr fun other ↦ ?_
  simp only [List.mem_cons, List.mem_filter, decide_eq_true_eq]
  constructor
  · intro hother
    by_cases heq : key other = key item
    · exact Or.inl (List.inj_on_of_nodup_map hkeys hother hmem heq)
    · exact Or.inr ⟨hother, heq⟩
  · rintro (rfl | ⟨hother, -⟩)
    · exact hmem
    · exact hother

variable {α : Type}

namespace Entry

theorem precedes_iff {first second : Entry α} : first.precedes second = true ↔
    first.due < second.due ∨
      first.due = second.due ∧ first.handle.number < second.handle.number := by
  simp [precedes]

theorem precedes_trans {first second third : Entry α} (hfirst : first.precedes second = true)
    (hsecond : second.precedes third = true) : first.precedes third = true := by
  rw [precedes_iff] at hfirst hsecond ⊢
  omega

/-- Of two tasks with handles of their own one precedes the other. -/
theorem precedes_of_not_precedes {first second : Entry α} (hne : first.handle ≠ second.handle)
    (hnot : ¬ first.precedes second = true) : second.precedes first = true := by
  have hnumber : first.handle.number ≠ second.handle.number := fun heq ↦
    hne (congrArg TaskHandle.mk heq)
  rw [precedes_iff] at hnot ⊢
  omega

theorem isAt_iff {due : Nat} {handle : TaskHandle} {entry : Entry α} :
    entry.isAt due handle = true ↔ entry.due = due ∧ entry.handle = handle := by
  simp [isAt]

end Entry

namespace Agenda

variable {agenda : Agenda α} {queue : List (Entry α)} {entry : Entry α} {handle : TaskHandle}

/-- The agenda without the task that has a handle. -/
def without (agenda : Agenda α) (handle : TaskHandle) : Agenda α :=
  { agenda with
    queue := agenda.queue.filter fun entry ↦ entry.handle ≠ handle
    deadlines := agenda.forget handle }

/-- The indices of the agenda describe the same tasks. -/
structure Sound (agenda : Agenda α) : Prop where
  ordered : agenda.queue.Pairwise fun first second ↦ first.precedes second = true
  nodup_handles : (agenda.queue.map Entry.handle).Nodup
  deadline?_eq_some_iff : ∀ handle due, agenda.deadline? handle = some due ↔
    ∃ entry ∈ agenda.queue, entry.isAt due handle = true

/-- A handle with a deadline is that of a waiting task. -/
theorem Sound.mem_handles (sound : agenda.Sound) {due : Nat}
    (hdeadline : agenda.deadline? handle = some due) : handle ∈ agenda.queue.map Entry.handle := by
  obtain ⟨entry, hmem, hat⟩ := (sound.deadline?_eq_some_iff handle due).mp hdeadline
  exact List.mem_map.mpr ⟨entry, hmem, (Entry.isAt_iff.mp hat).2⟩

theorem sound_empty : (empty : Agenda α).Sound where
  ordered := List.Pairwise.nil
  nodup_handles := List.nodup_nil
  deadline?_eq_some_iff := by simp [empty, deadline?]

/-! ### Scheduling -/

theorem insert_cons {head : Entry α} (hne : entry.handle ≠ head.handle)
    (rest : List (Entry α)) : insert entry (head :: rest) =
      if head.precedes entry = true then head :: insert entry rest else entry :: head :: rest := by
  have hplace : ¬ head.isAt entry.due entry.handle = true := by
    rw [Entry.isAt_iff]
    exact fun hat ↦ hne hat.2.symm
  rw [insert, if_neg hplace]

theorem insert_perm (hnew : entry.handle ∉ queue.map Entry.handle) :
    (insert entry queue).Perm (entry :: queue) := by
  induction queue with
  | nil => exact List.Perm.refl _
  | cons head rest ih =>
    obtain ⟨hne, hrest⟩ := List.ne_and_not_mem_of_not_mem_cons hnew
    rw [insert_cons hne]
    split
    · exact ((ih hrest).cons head).trans (List.Perm.swap entry head rest)
    · exact List.Perm.refl _

theorem pairwise_insert (hnew : entry.handle ∉ queue.map Entry.handle)
    (hordered : queue.Pairwise fun first second ↦ first.precedes second = true) :
    (insert entry queue).Pairwise fun first second ↦ first.precedes second = true := by
  induction queue with
  | nil => exact List.pairwise_singleton _ _
  | cons head rest ih =>
    obtain ⟨hne, hrest⟩ := List.ne_and_not_mem_of_not_mem_cons hnew
    obtain ⟨hfirst, hlater⟩ := List.pairwise_cons.mp hordered
    rw [insert_cons hne]
    split
    next hprecedes =>
      refine List.pairwise_cons.mpr ⟨fun other hother ↦ ?_, ih hrest hlater⟩
      rcases List.mem_cons.mp ((insert_perm hrest).subset hother) with rfl | hmem
      · exact hprecedes
      · exact hfirst other hmem
    next hnot =>
      have hentry := Entry.precedes_of_not_precedes (Ne.symm hne) hnot
      refine List.pairwise_cons.mpr ⟨fun other hother ↦ ?_, hordered⟩
      rcases List.mem_cons.mp hother with rfl | hmem
      · exact hentry
      · exact Entry.precedes_trans hentry (hfirst other hmem)

theorem lookup_cons_eq_ite (known : TaskHandle × Nat) (rest : List (TaskHandle × Nat))
    (other : TaskHandle) : (known :: rest).lookup other =
      if other = known.1 then some known.2 else rest.lookup other := by
  rw [List.lookup_cons]
  by_cases heq : other = known.1
  · rw [if_pos heq, heq, beq_self_eq_true]
  · rw [if_neg heq, beq_false_of_ne heq]

theorem lookup_forget (agenda : Agenda α) (handle other : TaskHandle) :
    (agenda.forget handle).lookup other =
      if other = handle then none else agenda.deadline? other := by
  rw [forget, deadline?]
  induction agenda.deadlines with
  | nil => simp
  | cons known rest ih =>
    by_cases hknown : known.1 = handle
    · rw [List.filter_cons_of_neg (by simpa using hknown), ih, lookup_cons_eq_ite, hknown]
      split <;> rfl
    · rw [List.filter_cons_of_pos (by simpa using hknown), lookup_cons_eq_ite, ih,
        lookup_cons_eq_ite]
      by_cases hother : other = handle
      · rw [if_neg fun heq ↦ hknown (heq.symm.trans hother), if_pos hother, if_pos hother]
      · rw [if_neg hother, if_neg hother]

theorem deadline?_schedule (agenda : Agenda α) (due : Nat) (handle other : TaskHandle) (job : α) :
    (agenda.schedule due handle job).deadline? other =
      if other = handle then some due else agenda.deadline? other := by
  show ((handle, due) :: agenda.forget handle).lookup other = _
  rw [lookup_cons_eq_ite, lookup_forget]
  split <;> rfl

/-- Scheduling under a new handle keeps the indices together. -/
theorem Sound.schedule (sound : agenda.Sound) (hnew : entry.handle ∉ agenda.queue.map Entry.handle) :
    (agenda.schedule entry.due entry.handle entry.job).Sound where
  ordered := pairwise_insert hnew sound.ordered
  nodup_handles := by
    show ((insert entry agenda.queue).map Entry.handle).Nodup
    rw [((insert_perm hnew).map Entry.handle).nodup_iff]
    exact List.nodup_cons.mpr ⟨hnew, sound.nodup_handles⟩
  deadline?_eq_some_iff := by
    intro other time
    have hqueue : (∃ task ∈ insert entry agenda.queue, task.isAt time other = true) ↔
        (entry.due = time ∧ entry.handle = other) ∨ agenda.deadline? other = some time := by
      simp only [(insert_perm hnew).mem_iff, List.exists_mem_cons_iff]
      rw [sound.deadline?_eq_some_iff, Entry.isAt_iff]
    show _ ↔ ∃ task ∈ insert entry agenda.queue, task.isAt time other = true
    rw [deadline?_schedule, hqueue]
    split
    next heq =>
      have hnone : ¬ agenda.deadline? other = some time := by
        rw [heq]
        exact fun hsome ↦ hnew (sound.mem_handles hsome)
      rw [Option.some_inj, or_iff_left hnone, and_iff_left heq.symm]
    next hne => simp [Ne.symm hne]

/-! ### Taking off -/

/-- A sound agenda is still sound when it forgets a task in both indices. -/
theorem Sound.without (sound : agenda.Sound) (handle : TaskHandle) :
    (agenda.without handle).Sound where
  ordered := sound.ordered.filter _
  nodup_handles := sound.nodup_handles.sublist (List.filter_sublist.map _)
  deadline?_eq_some_iff := by
    intro other time
    show (agenda.forget handle).lookup other = some time ↔ ∃ entry ∈ agenda.queue.filter _, _
    rw [lookup_forget]
    simp only [List.mem_filter, decide_eq_true_eq, Entry.isAt_iff]
    split
    next heq =>
      refine iff_of_false (Option.some_ne_none time).symm ?_
      rintro ⟨entry, ⟨-, hne⟩, -, hhandle⟩
      exact hne (hhandle.trans heq)
    next hne =>
      rw [sound.deadline?_eq_some_iff]
      constructor
      · rintro ⟨entry, hmem, hat⟩
        obtain ⟨hdue, hhandle⟩ := Entry.isAt_iff.mp hat
        exact ⟨entry, ⟨hmem, hhandle.symm ▸ hne⟩, hdue, hhandle⟩
      · rintro ⟨entry, ⟨hmem, -⟩, hat⟩
        exact ⟨entry, hmem, Entry.isAt_iff.mpr hat⟩

/-- Those that stay and the task that is taken off are all that were waiting. -/
theorem Sound.perm_without (sound : agenda.Sound) (hmem : entry ∈ agenda.queue) :
    agenda.queue.Perm ((agenda.without entry.handle).queue ++ [entry]) :=
  (perm_cons_filter_of_nodup sound.nodup_handles hmem).trans (List.perm_append_singleton _ _).symm

/-- A waiting task is found by its handle when it is cancelled. -/
theorem Sound.cancel_of_mem (sound : agenda.Sound) (hmem : entry ∈ agenda.queue) :
    agenda.cancel entry.handle = (some entry, agenda.without entry.handle) := by
  have hdeadline : agenda.deadline? entry.handle = some entry.due :=
    (sound.deadline?_eq_some_iff _ _).mpr ⟨entry, hmem, Entry.isAt_iff.mpr ⟨rfl, rfl⟩⟩
  -- no other task has the handle, so the place of the task is as good as its handle
  have hat : ∀ other ∈ agenda.queue,
      other.isAt entry.due entry.handle = decide (other.handle = entry.handle) := by
    intro other hother
    rw [Bool.eq_iff_iff, decide_eq_true_iff, Entry.isAt_iff]
    refine and_iff_right_of_imp fun heq ↦ ?_
    rw [List.inj_on_of_nodup_map sound.nodup_handles hother hmem heq]
  have hfind : agenda.queue.find? (Entry.isAt entry.due entry.handle) = some entry := by
    rw [← List.head?_filter, List.filter_congr hat, List.head?_filter]
    exact (find?_eq_some_iff_of_nodup sound.nodup_handles).mpr ⟨hmem, rfl⟩
  have hkeep : agenda.queue.filter (fun other ↦ !other.isAt entry.due entry.handle) =
      agenda.queue.filter fun other ↦ other.handle ≠ entry.handle := by
    refine List.filter_congr fun other hother ↦ ?_
    rw [hat other hother, decide_not]
  rw [cancel, hdeadline]
  show (_, _) = _
  rw [hfind, hkeep]
  rfl

/-- A handle that is not waiting is nothing to cancel. -/
theorem Sound.cancel_of_not_mem (sound : agenda.Sound)
    (hnot : handle ∉ agenda.queue.map Entry.handle) : agenda.cancel handle = (none, agenda) := by
  have hdeadline : agenda.deadline? handle = none :=
    Option.eq_none_iff_forall_ne_some.mpr fun due hsome ↦ hnot (sound.mem_handles hsome)
  rw [cancel, hdeadline]

/-- What is cancelled is the waiting task that has the handle. -/
theorem Sound.cancelled_eq_some_iff (sound : agenda.Sound) :
    (agenda.cancel handle).1 = some entry ↔ entry ∈ agenda.queue ∧ entry.handle = handle := by
  constructor
  · intro hcancelled
    by_cases hwaiting : handle ∈ agenda.queue.map Entry.handle
    · obtain ⟨other, hmem, rfl⟩ := List.mem_map.mp hwaiting
      rw [sound.cancel_of_mem hmem] at hcancelled
      obtain rfl := Option.some.inj hcancelled
      exact ⟨hmem, rfl⟩
    · rw [sound.cancel_of_not_mem hwaiting] at hcancelled
      cases hcancelled
  · rintro ⟨hmem, rfl⟩
    rw [sound.cancel_of_mem hmem]

/-- No waiting task runs before the first one. -/
theorem Sound.first_runs (sound : agenda.Sound) (hfirst : agenda.queue.head? = some entry) :
    ∀ other ∈ agenda.queue, entry.due < other.due ∨
      entry.due = other.due ∧ entry.handle.number ≤ other.handle.number := by
  obtain ⟨rest, hqueue⟩ := List.head?_eq_some_iff.mp hfirst
  have hordered := sound.ordered
  rw [hqueue, List.pairwise_cons] at hordered
  intro other hother
  rw [hqueue] at hother
  rcases List.mem_cons.mp hother with rfl | hlater
  · exact Or.inr ⟨rfl, Nat.le_refl _⟩
  · exact (Entry.precedes_iff.mp (hordered.1 other hlater)).imp_right
      fun heq ↦ ⟨heq.1, Nat.le_of_lt heq.2⟩

theorem Sound.popDue_of_head? (sound : agenda.Sound) (hfirst : agenda.queue.head? = some entry)
    (now : Nat) : agenda.popDue now =
      if agenda.closed = true ∨ now < entry.due then none
      else some (entry, agenda.without entry.handle) := by
  obtain ⟨rest, hqueue⟩ := List.head?_eq_some_iff.mp hfirst
  have hnodup := sound.nodup_handles
  rw [hqueue, List.map_cons, List.nodup_cons] at hnodup
  have hstay : ∀ other ∈ rest, decide (other.handle ≠ entry.handle) = true := fun other hmem ↦
    decide_eq_true fun heq ↦ hnodup.1 (heq ▸ List.mem_map_of_mem hmem)
  have hrest : agenda.queue.filter (fun other ↦ other.handle ≠ entry.handle) = rest := by
    rw [hqueue, List.filter_cons_of_neg (by simp), List.filter_eq_self.mpr hstay]
  rw [popDue, hqueue, Agenda.without, hrest]

/-- What is run is the first waiting task, once it is due. -/
theorem Sound.popDue_eq_some_iff (sound : agenda.Sound) {now : Nat} {next : Agenda α} :
    agenda.popDue now = some (entry, next) ↔ agenda.closed = false ∧ entry.due ≤ now ∧
      agenda.queue.head? = some entry ∧ next = agenda.without entry.handle := by
  cases hfirst : agenda.queue.head? with
  | none =>
    rw [popDue, List.head?_eq_none_iff.mp hfirst]
    simp
  | some first =>
    rw [sound.popDue_of_head? hfirst]
    constructor
    · intro hpop
      obtain ⟨hopen, hpop⟩ := Option.ite_none_left_eq_some.mp hpop
      obtain ⟨rfl, rfl⟩ := Prod.mk.inj (Option.some.inj hpop)
      obtain ⟨hclosed, hdue⟩ := not_or.mp hopen
      exact ⟨Bool.eq_false_iff.mpr hclosed, Nat.le_of_not_lt hdue, rfl, rfl⟩
    · rintro ⟨hclosed, hdue, hentry, rfl⟩
      obtain rfl := Option.some.inj hentry
      rw [if_neg (not_or.mpr ⟨Bool.eq_false_iff.mp hclosed, Nat.not_lt.mpr hdue⟩)]

/-- Nothing is run if the agenda is closed or nothing is due yet, and only then. -/
theorem Sound.popDue_eq_none_iff (sound : agenda.Sound) {now : Nat} :
    agenda.popDue now = none ↔
      agenda.closed = true ∨ ∀ entry ∈ agenda.queue, now < entry.due := by
  cases hfirst : agenda.queue.head? with
  | none =>
    rw [popDue, List.head?_eq_none_iff.mp hfirst]
    simp
  | some first =>
    have hdue : (∀ entry ∈ agenda.queue, now < entry.due) ↔ now < first.due := by
      constructor
      · intro hall
        exact hall first (List.mem_of_head? hfirst)
      · intro hlater other hother
        have hruns := sound.first_runs hfirst other hother
        omega
    rw [sound.popDue_of_head? hfirst, hdue]
    split
    next hstop => exact iff_of_true rfl hstop
    next hgo => exact iff_of_false (Option.some_ne_none _) hgo

end Agenda

end RadioScan
