import Mathlib.Algebra.Order.Group.Multiset
import Mathlib.Data.List.Pairwise
import Mathlib.Tactic.Abel
import RadioScan.Proofs.Indices

/-!
What becomes of tasks. An `AgendaSystem` is an agenda with the callers on their way to it, and a
`Course` anything that can be done with the two, in any order. A caller who schedules a job draws a
handle first and enters the agenda later, when others may have overtaken it and its task may be due
already. Clocks may read anything at any time.

Each task that has entered is waiting, was run, was cancelled or was discarded (`Fate`). The tasks
of the four fates together are those that have entered, each once (`Log.Kept`), and what else there
is to say of a course follows from that and is put together in `Course.settled`.
-/

set_option autoImplicit false
set_option relaxedAutoImplicit false

namespace RadioScan

/-- A job that is to be scheduled, and the handle that was drawn for it. -/
structure Ticket (α : Type) where
  handle : TaskHandle
  delay : Nat
  job : α
  deriving DecidableEq, Repr

/-- The task of a ticket whose caller has read the clock. -/
def Ticket.entry {α : Type} (ticket : Ticket α) (now : Nat) : Entry α :=
  ⟨now + ticket.delay, ticket.handle, ticket.job⟩

/-- An agenda, the tickets of the callers who are still on their way to it, and how many handles
were drawn. -/
structure AgendaSystem (α : Type) where
  issued : Nat
  underway : List (Ticket α)
  agenda : Agenda α

namespace AgendaSystem

variable {α : Type}

def empty : AgendaSystem α := ⟨0, [], .empty⟩

/-- The ticket that is drawn next. -/
def nextTicket (system : AgendaSystem α) (delay : Nat) (job : α) : Ticket α :=
  ⟨⟨system.issued + 1⟩, delay, job⟩

/-- Something that a caller or the worker does. A caller who enters the agenda has read the clock on
the way, and the worker reads it when it looks for a task to run. -/
inductive Use (α : Type)
  | draw (delay : Nat) (job : α)
  | enter (handle : TaskHandle) (now : Nat)
  | cancel (handle : TaskHandle)
  | run (now : Nat)
  | close

/-- What a use brings about: the ticket that is drawn, the task that enters the agenda, those that
leave it because they are run, cancelled or discarded, and the system afterwards. -/
structure Outcome (α : Type) where
  ticket : Option (Ticket α) := none
  entered : Option (Entry α) := none
  ran : Option (Entry α) := none
  cancelled : Option (Entry α) := none
  discarded : List (Entry α) := []
  next : AgendaSystem α

def step (system : AgendaSystem α) : Use α → Outcome α
  | .draw delay job =>
    let ticket := system.nextTicket delay job
    { ticket := some ticket
      next := { system with
        issued := system.issued + 1
        underway := system.underway ++ [ticket] } }
  | .enter handle now =>
    match system.underway.find? fun ticket ↦ ticket.handle = handle with
    | none => { next := system }
    | some ticket =>
      let entry := ticket.entry now
      { entered := some entry
        next := { system with
          underway := system.underway.filter fun other ↦ other.handle ≠ handle
          agenda := system.agenda.schedule entry.due entry.handle entry.job } }
  | .cancel handle =>
    let (cancelled, agenda) := system.agenda.cancel handle
    { cancelled, next := { system with agenda } }
  | .run now =>
    match system.agenda.popDue now with
    | none => { next := system }
    | some (first, agenda) => { ran := some first, next := { system with agenda } }
  | .close =>
    let (discarded, agenda) := system.agenda.close
    { discarded, next := { system with agenda } }

/-- One use, with the system that it found. -/
structure Record (α : Type) where
  system : AgendaSystem α
  use : Use α

def Record.outcome (record : Record α) : Outcome α := record.system.step record.use

/-- What has been done with a system, oldest first. -/
abbrev Log (α : Type) := List (Record α)

/-- What can become of a task that has entered an agenda. -/
inductive Fate
  | waiting
  | ran
  | cancelled
  | discarded
  deriving DecidableEq, Repr

def Fate.all : List Fate := [.waiting, .ran, .cancelled, .discarded]

theorem Fate.mem_all (fate : Fate) : fate ∈ Fate.all := by cases fate <;> decide

namespace Log

variable (log : Log α)

/-- All tickets that were ever drawn. -/
def tickets : List (Ticket α) := log.filterMap fun record ↦ record.outcome.ticket

/-- All tasks that ever entered the agenda. -/
def entered : List (Entry α) := log.filterMap fun record ↦ record.outcome.entered

/-- The tasks of a fate. -/
def tasks (system : AgendaSystem α) : Fate → List (Entry α)
  | .waiting => system.agenda.queue
  | .ran => log.filterMap fun record ↦ record.outcome.ran
  | .cancelled => log.filterMap fun record ↦ record.outcome.cancelled
  | .discarded => log.flatMap fun record ↦ record.outcome.discarded

/-- The handle is that of a task of the fate. -/
def Meets (system : AgendaSystem α) (handle : TaskHandle) (fate : Fate) : Prop :=
  handle ∈ (log.tasks system fate).map Entry.handle

end Log

/-- The log of some uses after another log, and the system that comes of them. -/
def play (system : AgendaSystem α) (log : Log α) : List (Use α) → Log α × AgendaSystem α
  | [] => (log, system)
  | use :: rest => (system.step use).next.play (log ++ [⟨system, use⟩]) rest

/-- What can be done with a new system, and the system that comes of it. -/
inductive Course : Log α → AgendaSystem α → Prop
  | fresh : Course [] .empty
  | snoc {log : Log α} {system : AgendaSystem α} (course : Course log system) (use : Use α) :
      Course (log ++ [⟨system, use⟩]) (system.step use).next

/-- What is to be said of a log that leads to a system. -/
structure Log.Settled (log : Log α) (system : AgendaSystem α) : Prop where
  /-- The two indices of the agenda describe the same tasks. -/
  indices_agree : ∀ handle due, system.agenda.deadline? handle = some due ↔
    ∃ entry ∈ system.agenda.queue, entry.isAt due handle = true
  /-- Every handle is drawn once, and the callers who drew them are on their way or have entered. -/
  handles_once : (log.tickets.map Ticket.handle).Nodup ∧
    (log.tickets.map Ticket.handle).Perm
      (system.underway.map Ticket.handle ++ log.entered.map Entry.handle)
  /-- A counter of 64 bits is enough for fewer than `2 ^ 64` handles. -/
  handles_fit : log.tickets.length < UInt64.size →
    system.issued < UInt64.size ∧ ∀ ticket ∈ log.tickets, ticket.handle.number < UInt64.size
  /-- A task that enters is that of a ticket drawn before, and is due its delay after the reading of
  the clock with which its caller enters. -/
  entered_of_ticket : ∀ (earlier : Log α) (record : Record α) (later : Log α),
    log = earlier ++ record :: later → ∀ entry, record.outcome.entered = some entry →
      ∃ ticket ∈ earlier.tickets, ∃ now,
        record.use = .enter ticket.handle now ∧ entry = ticket.entry now
  /-- The tasks that have entered are those of the four fates, no more and no less. -/
  tasks_perm : log.entered.Perm (Fate.all.flatMap (log.tasks system))
  /-- A handle that has entered meets just one fate, and a handle that has not meets none. -/
  one_fate : ∀ handle, handle ∈ log.entered.map Entry.handle ↔ ∃! fate, log.Meets system handle fate
  ran_once : ((log.tasks system .ran).map Entry.handle).Nodup
  /-- The task that is run is due, and none that waits has an earlier deadline or, with the same
  deadline, an earlier handle. -/
  ran_first : ∀ (earlier : Log α) (record : Record α) (later : Log α),
    log = earlier ++ record :: later → ∀ entry, record.outcome.ran = some entry →
      (∃ now, record.use = .run now ∧ entry.due ≤ now) ∧ record.system.agenda.closed = false ∧
      entry ∈ record.system.agenda.queue ∧ ∀ other ∈ record.system.agenda.queue,
        entry.due < other.due ∨
          entry.due = other.due ∧ entry.handle.number ≤ other.handle.number
  /-- The worker runs a task whenever the agenda is open and one is due. -/
  ran_none_iff : ∀ (earlier : Log α) (record : Record α) (later : Log α),
    log = earlier ++ record :: later → ∀ now, record.use = .run now →
      (record.outcome.ran = none ↔ record.system.agenda.closed = true ∨
        ∀ entry ∈ record.system.agenda.queue, now < entry.due)
  cancelled_iff : ∀ (earlier : Log α) (record : Record α) (later : Log α),
    log = earlier ++ record :: later → ∀ handle, record.use = .cancel handle → ∀ entry,
      (record.outcome.cancelled = some entry ↔
        entry ∈ record.system.agenda.queue ∧ entry.handle = handle)
  /-- A task that was found waiting when it was cancelled is never run. -/
  cancelled_never_runs : ∀ (earlier : Log α) (record : Record α) (later : Log α),
    log = earlier ++ record :: later → ∀ entry, record.outcome.cancelled = some entry →
      ∀ other ∈ later, ∀ ran, other.outcome.ran = some ran → ran.handle ≠ entry.handle
  /-- To cancel a handle that has not entered, or whose task has met another fate than to wait,
  changes nothing. -/
  cancel_idle : ∀ (earlier : Log α) (record : Record α) (later : Log α),
    log = earlier ++ record :: later → ∀ handle, record.use = .cancel handle →
      (handle ∉ earlier.entered.map Entry.handle ∨
        ∃ fate, fate ≠ .waiting ∧ earlier.Meets record.system handle fate) →
      record.outcome = { next := record.system }
  /-- What waits when the agenda is closed is discarded, and nothing is run after that. -/
  closed_for_good : ∀ (earlier : Log α) (record : Record α) (later : Log α),
    log = earlier ++ record :: later → record.use = .close →
      record.outcome.discarded = record.system.agenda.queue ∧
      ∀ other ∈ later, other.outcome.ran = none

/-! ### One use -/

/-- What the uses of a system bring about, case by case. -/
inductive Brings (system : AgendaSystem α) : Use α → Outcome α → Prop
  | drawn (delay : Nat) (job : α) :
      Brings system (.draw delay job)
        { ticket := some (system.nextTicket delay job)
          next := { system with
            issued := system.issued + 1
            underway := system.underway ++ [system.nextTicket delay job] } }
  | entered (ticket : Ticket α) (now : Nat) (hunderway : ticket ∈ system.underway) :
      Brings system (.enter ticket.handle now)
        { entered := some (ticket.entry now)
          next := { system with
            underway := system.underway.filter fun other ↦ other.handle ≠ ticket.handle
            agenda := system.agenda.schedule (ticket.entry now).due (ticket.entry now).handle
              (ticket.entry now).job } }
  | cancelled (entry : Entry α) (hwaiting : entry ∈ system.agenda.queue) :
      Brings system (.cancel entry.handle)
        { cancelled := some entry
          next := { system with agenda := system.agenda.without entry.handle } }
  | ran (entry : Entry α) (now : Nat) (hopen : system.agenda.closed = false)
      (hdue : entry.due ≤ now) (hfirst : system.agenda.queue.head? = some entry) :
      Brings system (.run now)
        { ran := some entry
          next := { system with agenda := system.agenda.without entry.handle } }
  | closed :
      Brings system .close
        { discarded := system.agenda.queue
          next := { system with agenda := ⟨[], [], true⟩ } }
  | strange (handle : TaskHandle) (now : Nat)
      (hnot : handle ∉ system.underway.map Ticket.handle) :
      Brings system (.enter handle now) { next := system }
  | gone (handle : TaskHandle) (hnot : handle ∉ system.agenda.queue.map Entry.handle) :
      Brings system (.cancel handle) { next := system }
  | early (now : Nat)
      (hearly : system.agenda.closed = true ∨ ∀ entry ∈ system.agenda.queue, now < entry.due) :
      Brings system (.run now) { next := system }

variable {log : Log α} {system : AgendaSystem α} {use : Use α} {outcome : Outcome α}
  {entry : Entry α}

theorem brings_step (sound : system.agenda.Sound) (use : Use α) :
    Brings system use (system.step use) := by
  cases use with
  | draw delay job => exact .drawn delay job
  | enter handle now =>
    rw [step]
    cases hfind : system.underway.find? fun ticket ↦ ticket.handle = handle with
    | none =>
      refine .strange handle now fun hmem ↦ ?_
      obtain ⟨ticket, hticket, hhandle⟩ := List.mem_map.mp hmem
      have hother := List.find?_eq_none.mp hfind ticket hticket
      exact hother (decide_eq_true hhandle)
    | some ticket =>
      obtain rfl : ticket.handle = handle := by simpa using List.find?_some hfind
      exact .entered ticket now (List.mem_of_find?_eq_some hfind)
  | cancel handle =>
    rw [step]
    by_cases hwaiting : handle ∈ system.agenda.queue.map Entry.handle
    · obtain ⟨entry, hmem, rfl⟩ := List.mem_map.mp hwaiting
      rw [sound.cancel_of_mem hmem]
      exact .cancelled entry hmem
    · rw [sound.cancel_of_not_mem hwaiting]
      exact .gone handle hwaiting
  | run now =>
    rw [step]
    cases hpop : system.agenda.popDue now with
    | none => exact .early now (sound.popDue_eq_none_iff.mp hpop)
    | some popped =>
      obtain ⟨entry, next⟩ := popped
      obtain ⟨hopen, hdue, hfirst, rfl⟩ := sound.popDue_eq_some_iff.mp hpop
      exact .ran entry now hopen hdue hfirst
  | close => exact .closed

namespace Brings

variable (brings : Brings system use outcome)
include brings

theorem issued_next :
    outcome.next.issued = system.issued + outcome.ticket.toList.length := by
  cases brings <;> rfl

theorem number_of_ticket {ticket : Ticket α} (hticket : outcome.ticket = some ticket) :
    ticket.handle.number = system.issued + 1 := by
  cases brings with
  | drawn delay job => rw [← Option.some.inj hticket]; rfl
  | _ => cases hticket

theorem mem_underway_next {ticket : Ticket α} (hticket : ticket ∈ outcome.next.underway) :
    ticket ∈ system.underway ∨ outcome.ticket = some ticket := by
  cases brings with
  | drawn delay job =>
    exact (List.mem_append.mp hticket).imp_right fun hnew ↦
      congrArg some (List.mem_singleton.mp hnew).symm
  | entered other now hunderway => exact Or.inl (List.mem_filter.mp hticket).1
  | _ => exact Or.inl hticket

theorem of_entered (hentered : outcome.entered = some entry) :
    ∃ ticket ∈ system.underway, ∃ now,
      use = .enter ticket.handle now ∧ entry = ticket.entry now := by
  cases brings with
  | entered ticket now hunderway =>
    exact ⟨ticket, hunderway, now, rfl, (Option.some.inj hentered).symm⟩
  | _ => cases hentered

/-- A caller is on the way until the task enters. -/
theorem handles_perm (hnodup : (system.underway.map Ticket.handle).Nodup) :
    (system.underway.map Ticket.handle ++ outcome.ticket.toList.map Ticket.handle).Perm
      (outcome.next.underway.map Ticket.handle ++ outcome.entered.toList.map Entry.handle) := by
  cases brings with
  | drawn delay job =>
    rw [List.map_append]
    exact (List.Perm.of_eq (List.append_nil _)).symm
  | entered ticket now hunderway =>
    have hperm := (perm_cons_filter_of_nodup hnodup hunderway).map Ticket.handle
    show (system.underway.map Ticket.handle ++ []).Perm (_ ++ [ticket.handle])
    rw [List.append_nil]
    exact hperm.trans (List.perm_append_singleton _ _).symm
  | _ => exact List.Perm.refl _

theorem of_ran (hran : outcome.ran = some entry) :
    (∃ now, use = .run now ∧ entry.due ≤ now) ∧ system.agenda.closed = false ∧
      system.agenda.queue.head? = some entry := by
  cases brings with
  | ran first now hopen hdue hfirst =>
    obtain rfl := Option.some.inj hran
    exact ⟨⟨now, rfl, hdue⟩, hopen, hfirst⟩
  | _ => cases hran

theorem closed_next (hclosed : use = .close ∨ system.agenda.closed = true) :
    outcome.next.agenda.closed = true := by
  cases brings with
  | closed => rfl
  | _ => exact hclosed.resolve_left fun huse ↦ nomatch huse

section Agenda

variable (sound : system.agenda.Sound)
  (hapart : ∀ ticket ∈ system.underway, ticket.handle ∉ system.agenda.queue.map Entry.handle)
include sound hapart

theorem sound_next : outcome.next.agenda.Sound := by
  cases brings with
  | entered ticket now hunderway => exact sound.schedule (hapart ticket hunderway)
  | cancelled entry hwaiting => exact sound.without entry.handle
  | ran entry now hopen hdue hfirst => exact sound.without entry.handle
  | closed => exact ⟨List.Pairwise.nil, List.nodup_nil, by simp [Agenda.deadline?]⟩
  | _ => exact sound

/-- What waited or enters waits on, or is run, cancelled or discarded. -/
theorem tasks_perm : (system.agenda.queue ++ outcome.entered.toList).Perm
    (outcome.next.agenda.queue ++
      (outcome.ran.toList ++ (outcome.cancelled.toList ++ outcome.discarded))) := by
  cases brings with
  | entered ticket now hunderway =>
    have hperm : (Agenda.insert (ticket.entry now) system.agenda.queue).Perm
        (ticket.entry now :: system.agenda.queue) := Agenda.insert_perm (hapart ticket hunderway)
    exact (List.perm_append_singleton _ _).trans (hperm.symm.trans (by simp [Agenda.schedule]))
  | cancelled entry hwaiting =>
    rw [Option.toList_none, List.append_nil]
    exact sound.perm_without hwaiting
  | ran entry now hopen hdue hfirst =>
    rw [Option.toList_none, List.append_nil]
    exact sound.perm_without (List.mem_of_head? hfirst)
  | closed => simp
  | _ => exact List.Perm.refl _

end Agenda

end Brings

/-! ### Courses -/

/-- What comes in joins those inside, and what leaves joins those outside. -/
theorem perm_of_exchange {β : Type} {all inside outside coming staying leaving : List β}
    (hall : all.Perm (inside ++ outside))
    (hstep : (inside ++ coming).Perm (staying ++ leaving)) :
    (all ++ coming).Perm (staying ++ (outside ++ leaving)) := by
  rw [← Multiset.coe_eq_coe] at hall hstep ⊢
  simp only [← Multiset.coe_add] at hall hstep ⊢
  calc (all + coming : Multiset β) = (inside + coming) + outside := by rw [hall]; abel
    _ = staying + (outside + leaving) := by rw [hstep]; abel

namespace Log

variable {record : Record α}

theorem filterMap_snoc {β : Type} (f : Record α → Option β) :
    (log ++ [record]).filterMap f = log.filterMap f ++ (f record).toList := by
  rw [List.filterMap_append]
  cases hrecord : f record <;> simp [hrecord]

theorem tickets_snoc : tickets (log ++ [record]) = log.tickets ++ record.outcome.ticket.toList :=
  filterMap_snoc _

theorem entered_snoc : entered (log ++ [record]) = log.entered ++ record.outcome.entered.toList :=
  filterMap_snoc _

/-- The tasks of the four fates, one after the other. -/
theorem flatMap_tasks (log : Log α) (system : AgendaSystem α) :
    Fate.all.flatMap (log.tasks system) = system.agenda.queue ++ (log.tasks system .ran ++
      (log.tasks system .cancelled ++ log.tasks system .discarded)) := by
  simp [Fate.all, tasks]

/-- Only the waiting tasks depend on where the log has led to, and those with another fate are
never fewer. -/
theorem tasks_snoc (log : Log α) (record : Record α) (system next : AgendaSystem α) :
    tasks (log ++ [record]) next .ran = log.tasks system .ran ++ record.outcome.ran.toList ∧
    tasks (log ++ [record]) next .cancelled =
      log.tasks system .cancelled ++ record.outcome.cancelled.toList ∧
    tasks (log ++ [record]) next .discarded =
      log.tasks system .discarded ++ record.outcome.discarded := by
  refine ⟨filterMap_snoc _, filterMap_snoc _, ?_⟩
  rw [tasks, tasks, List.flatMap_append, List.flatMap_singleton]

/-- The tickets are numbered one by one, their tasks are those of the four fates, and the agenda is
sound. -/
structure Kept (log : Log α) (system : AgendaSystem α) : Prop where
  issued_eq : system.issued = log.tickets.length
  numbers_eq :
    log.tickets.map (fun ticket ↦ ticket.handle.number) = List.range' 1 log.tickets.length
  handles_perm : (log.tickets.map Ticket.handle).Perm
    (system.underway.map Ticket.handle ++ log.entered.map Entry.handle)
  underway_subset : system.underway ⊆ log.tickets
  tasks_perm : log.entered.Perm (Fate.all.flatMap (log.tasks system))
  sound : system.agenda.Sound

theorem kept_nil : Kept [] (empty : AgendaSystem α) where
  issued_eq := rfl
  numbers_eq := rfl
  handles_perm := List.Perm.refl _
  underway_subset := List.Subset.refl _
  tasks_perm := List.Perm.refl _
  sound := Agenda.sound_empty

namespace Kept

variable (kept : log.Kept system)
include kept

theorem nodup_tickets : (log.tickets.map Ticket.handle).Nodup := by
  refine List.Nodup.of_map TaskHandle.number ?_
  rw [List.map_map]
  exact kept.numbers_eq ▸ List.nodup_range'

theorem nodup_underway : (system.underway.map Ticket.handle).Nodup :=
  (List.nodup_append.mp (kept.handles_perm.nodup_iff.mp kept.nodup_tickets)).1

theorem nodup_entered : (log.entered.map Entry.handle).Nodup :=
  (List.nodup_append.mp (kept.handles_perm.nodup_iff.mp kept.nodup_tickets)).2.1

/-- The handles of the four fates are those that have entered. -/
theorem handles_of_fates : (log.entered.map Entry.handle).Perm
    (Fate.all.flatMap fun fate ↦ (log.tasks system fate).map Entry.handle) := by
  rw [← List.map_flatMap]
  exact kept.tasks_perm.map Entry.handle

theorem mem_entered_of_meets {handle : TaskHandle} {fate : Fate}
    (hmeets : log.Meets system handle fate) : handle ∈ log.entered.map Entry.handle :=
  kept.handles_of_fates.mem_iff.mpr (List.mem_flatMap.mpr ⟨fate, fate.mem_all, hmeets⟩)

/-- No handle meets two fates. -/
theorem fate_unique {handle : TaskHandle} {first second : Fate}
    (hfirst : log.Meets system handle first) (hsecond : log.Meets system handle second) :
    first = second := by
  have hnodup := kept.handles_of_fates.nodup_iff.mp kept.nodup_entered
  have hpairwise := (List.nodup_flatMap.mp hnodup).2
  have hsymm : Std.Symm
      (Function.onFun List.Disjoint fun fate ↦ (log.tasks system fate).map Entry.handle) :=
    ⟨fun _ _ hdisjoint ↦ hdisjoint.symm⟩
  by_contra hne
  exact hpairwise.forall first.mem_all second.mem_all hne hfirst hsecond

/-- A caller on the way is not the one of a waiting task. -/
theorem apart : ∀ ticket ∈ system.underway,
    ticket.handle ∉ system.agenda.queue.map Entry.handle := by
  intro ticket hticket hwaiting
  have hmeets : log.Meets system ticket.handle .waiting := hwaiting
  have hentered := kept.mem_entered_of_meets hmeets
  have hnodup := kept.handles_perm.nodup_iff.mp kept.nodup_tickets
  exact (List.nodup_append.mp hnodup).2.2 _ (List.mem_map_of_mem hticket) _ hentered rfl

theorem brings (use : Use α) : Brings system use (system.step use) := brings_step kept.sound use

theorem snoc (use : Use α) : Kept (log ++ [⟨system, use⟩]) (system.step use).next where
  issued_eq := by
    rw [tickets_snoc, List.length_append, ← kept.issued_eq]
    exact (kept.brings use).issued_next
  numbers_eq := by
    rw [tickets_snoc, List.length_append, List.map_append, kept.numbers_eq]
    cases hticket : Record.outcome ⟨system, use⟩ |>.ticket with
    | none => simp
    | some ticket =>
      show _ ++ [ticket.handle.number] = List.range' 1 (log.tickets.length + 1)
      rw [(kept.brings use).number_of_ticket hticket, List.range'_1_concat, kept.issued_eq,
        Nat.add_comm]
  handles_perm := by
    rw [tickets_snoc, entered_snoc, List.map_append, List.map_append]
    exact perm_of_exchange kept.handles_perm ((kept.brings use).handles_perm kept.nodup_underway)
  underway_subset := by
    intro ticket hticket
    rw [tickets_snoc]
    rcases (kept.brings use).mem_underway_next hticket with hold | hnew
    · exact List.mem_append_left _ (kept.underway_subset hold)
    · exact List.mem_append_right _ (Option.mem_toList.mpr hnew)
  tasks_perm := by
    obtain ⟨hran, hcancelled, hdiscarded⟩ :=
      tasks_snoc log ⟨system, use⟩ system (system.step use).next
    have hold := kept.tasks_perm
    rw [flatMap_tasks] at hold ⊢
    rw [entered_snoc, hran, hcancelled, hdiscarded]
    refine (perm_of_exchange hold
      ((kept.brings use).tasks_perm kept.sound kept.apart)).trans (List.Perm.append_left _ ?_)
    rw [← Multiset.coe_eq_coe]
    simp only [← Multiset.coe_add]
    abel
  sound := (kept.brings use).sound_next kept.sound kept.apart

end Kept

end Log

namespace Course

theorem kept (course : Course log system) : log.Kept system := by
  induction course with
  | fresh => exact Log.kept_nil
  | snoc course use ih => exact ih.snoc use

theorem play (course : Course log system) (uses : List (Use α)) :
    Course (system.play log uses).1 (system.play log uses).2 := by
  induction uses generalizing log system with
  | nil => exact course
  | cons use rest ih => exact ih (course.snoc use)

variable {earlier later : Log α} {record : Record α}

/-- What came before a record led up to its system. -/
theorem before (course : Course log system) (hlog : log = earlier ++ record :: later) :
    Course earlier record.system := by
  induction course generalizing later with
  | fresh => cases earlier <;> cases hlog
  | snoc course use ih =>
    rcases History.split_snoc hlog with ⟨-, rfl, rfl⟩ | ⟨rest, -, hlog⟩
    · exact course
    · exact ih hlog

theorem brings (course : Course log system) (hlog : log = earlier ++ record :: later) :
    Brings record.system record.use record.outcome :=
  (course.before hlog).kept.brings record.use

/-- A record that comes later finds a system that the earlier one has led to. -/
theorem before_later (course : Course log system) (hlog : log = earlier ++ record :: later)
    {other : Record α} (hother : other ∈ later) :
    ∃ between, Course (earlier ++ record :: between) other.system := by
  obtain ⟨between, rest, rfl⟩ := List.append_of_mem hother
  have hsplit : log = (earlier ++ record :: between) ++ other :: rest := by
    rw [hlog, List.append_assoc, List.cons_append]
  exact ⟨between, course.before hsplit⟩

theorem closed_of_close (course : Course log system) (hmem : record ∈ log)
    (hclose : record.use = .close) : system.agenda.closed = true := by
  induction course with
  | fresh => cases hmem
  | snoc course use ih =>
    refine (course.kept.brings use).closed_next ?_
    rcases List.mem_append.mp hmem with hold | hlast
    · exact Or.inr (ih hold)
    · rw [List.mem_singleton.mp hlast] at hclose
      exact Or.inl hclose

theorem number_le (course : Course log system) {ticket : Ticket α} (hmem : ticket ∈ log.tickets) :
    ticket.handle.number ≤ log.tickets.length := by
  have hnumber : ticket.handle.number ∈ log.tickets.map fun ticket ↦ ticket.handle.number :=
    List.mem_map_of_mem hmem
  rw [course.kept.numbers_eq, List.mem_range'_1] at hnumber
  omega

theorem entered_of_ticket (course : Course log system)
    (hlog : log = earlier ++ record :: later) {entry : Entry α}
    (hentered : record.outcome.entered = some entry) :
    ∃ ticket ∈ earlier.tickets, ∃ now,
      record.use = .enter ticket.handle now ∧ entry = ticket.entry now := by
  obtain ⟨ticket, hunderway, hnow⟩ := (course.brings hlog).of_entered hentered
  exact ⟨ticket, (course.before hlog).kept.underway_subset hunderway, hnow⟩

theorem one_fate (course : Course log system) (handle : TaskHandle) :
    handle ∈ log.entered.map Entry.handle ↔ ∃! fate, log.Meets system handle fate := by
  constructor
  · intro hentered
    obtain ⟨fate, -, hmeets⟩ :=
      List.mem_flatMap.mp (course.kept.handles_of_fates.mem_iff.mp hentered)
    exact ⟨fate, hmeets, fun other hother ↦ course.kept.fate_unique hother hmeets⟩
  · rintro ⟨fate, hmeets, -⟩
    exact course.kept.mem_entered_of_meets hmeets

theorem ran_once (course : Course log system) :
    ((log.tasks system .ran).map Entry.handle).Nodup := by
  have hnodup := course.kept.handles_of_fates.nodup_iff.mp course.kept.nodup_entered
  exact (List.nodup_flatMap.mp hnodup).1 .ran (Fate.mem_all .ran)

theorem ran_first (course : Course log system) (hlog : log = earlier ++ record :: later)
    {entry : Entry α} (hran : record.outcome.ran = some entry) :
    (∃ now, record.use = .run now ∧ entry.due ≤ now) ∧ record.system.agenda.closed = false ∧
      entry ∈ record.system.agenda.queue ∧ ∀ other ∈ record.system.agenda.queue,
        entry.due < other.due ∨
          entry.due = other.due ∧ entry.handle.number ≤ other.handle.number := by
  obtain ⟨hnow, hopen, hfirst⟩ := (course.brings hlog).of_ran hran
  exact ⟨hnow, hopen, List.mem_of_head? hfirst,
    (course.before hlog).kept.sound.first_runs hfirst⟩

theorem ran_none_iff (course : Course log system) (hlog : log = earlier ++ record :: later)
    {now : Nat} (huse : record.use = .run now) :
    record.outcome.ran = none ↔ record.system.agenda.closed = true ∨
      ∀ entry ∈ record.system.agenda.queue, now < entry.due := by
  rw [← (course.before hlog).kept.sound.popDue_eq_none_iff, Record.outcome, huse, step]
  cases record.system.agenda.popDue now <;> simp

theorem cancelled_iff (course : Course log system) (hlog : log = earlier ++ record :: later)
    {handle : TaskHandle} (huse : record.use = .cancel handle) (entry : Entry α) :
    record.outcome.cancelled = some entry ↔
      entry ∈ record.system.agenda.queue ∧ entry.handle = handle := by
  rw [← (course.before hlog).kept.sound.cancelled_eq_some_iff, Record.outcome, huse]
  exact Iff.rfl

theorem cancelled_never_runs (course : Course log system)
    (hlog : log = earlier ++ record :: later) {entry : Entry α}
    (hcancelled : record.outcome.cancelled = some entry) {other : Record α} (hother : other ∈ later)
    {ran : Entry α} (hran : other.outcome.ran = some ran) : ran.handle ≠ entry.handle := by
  obtain ⟨between, hbefore⟩ := course.before_later hlog hother
  have hentry : Log.Meets (earlier ++ record :: between) other.system entry.handle .cancelled := by
    refine List.mem_map_of_mem (List.mem_filterMap.mpr ⟨record, ?_, hcancelled⟩)
    exact List.mem_append_right _ List.mem_cons_self
  obtain ⟨-, -, hfirst⟩ := (hbefore.kept.brings other.use).of_ran hran
  have hwaits : Log.Meets (earlier ++ record :: between) other.system ran.handle .waiting :=
    List.mem_map_of_mem (List.mem_of_head? hfirst)
  intro heq
  rw [heq] at hwaits
  cases hbefore.kept.fate_unique hwaits hentry

theorem cancel_idle (course : Course log system) (hlog : log = earlier ++ record :: later)
    {handle : TaskHandle} (huse : record.use = .cancel handle)
    (hidle : handle ∉ earlier.entered.map Entry.handle ∨
      ∃ fate, fate ≠ .waiting ∧ earlier.Meets record.system handle fate) :
    record.outcome = { next := record.system } := by
  have kept := (course.before hlog).kept
  have hgone : handle ∉ record.system.agenda.queue.map Entry.handle := by
    intro hwaits
    have hmeets : earlier.Meets record.system handle .waiting := hwaits
    rcases hidle with hnew | ⟨fate, hfate, hother⟩
    · exact hnew (kept.mem_entered_of_meets hmeets)
    · exact hfate (kept.fate_unique hother hmeets)
  rw [Record.outcome, huse, step, kept.sound.cancel_of_not_mem hgone]

theorem closed_for_good (course : Course log system) (hlog : log = earlier ++ record :: later)
    (huse : record.use = .close) :
    record.outcome.discarded = record.system.agenda.queue ∧
      ∀ other ∈ later, other.outcome.ran = none := by
  constructor
  · rw [Record.outcome, huse]
    rfl
  · intro other hother
    obtain ⟨between, hbefore⟩ := course.before_later hlog hother
    have hclosed : other.system.agenda.closed = true :=
      hbefore.closed_of_close (List.mem_append_right _ List.mem_cons_self) huse
    refine Option.eq_none_iff_forall_ne_some.mpr fun ran hran ↦ ?_
    obtain ⟨-, hopen, -⟩ := (hbefore.kept.brings other.use).of_ran hran
    rw [hclosed] at hopen
    cases hopen

/-- Nothing that happens to an agenda loses a task or lets it run twice. -/
theorem settled (course : Course log system) : log.Settled system where
  indices_agree := course.kept.sound.deadline?_eq_some_iff
  handles_once := ⟨course.kept.nodup_tickets, course.kept.handles_perm⟩
  handles_fit := by
    intro hcount
    rw [course.kept.issued_eq]
    exact ⟨hcount, fun ticket hmem ↦ Nat.lt_of_le_of_lt (course.number_le hmem) hcount⟩
  entered_of_ticket := fun _ _ _ hlog _ hentered ↦ course.entered_of_ticket hlog hentered
  tasks_perm := course.kept.tasks_perm
  one_fate := course.one_fate
  ran_once := course.ran_once
  ran_first := fun _ _ _ hlog _ hran ↦ course.ran_first hlog hran
  ran_none_iff := fun _ _ _ hlog _ huse ↦ course.ran_none_iff hlog huse
  cancelled_iff := fun _ _ _ hlog _ huse ↦ course.cancelled_iff hlog huse
  cancelled_never_runs := fun _ _ _ hlog _ hcancelled _ hother _ hran ↦
    course.cancelled_never_runs hlog hcancelled hother hran
  cancel_idle := fun _ _ _ hlog _ huse hidle ↦ course.cancel_idle hlog huse hidle
  closed_for_good := fun _ _ _ hlog huse ↦ course.closed_for_good hlog huse

/-- The first caller is overtaken by the second, whose task is due at the same time. A handle is
cancelled before it enters, one when it has run, and one while it waits. The last task enters when
the agenda is closed. -/
def overtaking : List (Use String) :=
  [.draw 50 "a", .draw 20 "b", .enter ⟨2⟩ 30, .cancel ⟨1⟩, .enter ⟨1⟩ 0, .run 49, .run 60,
    .cancel ⟨1⟩, .draw 5 "c", .enter ⟨3⟩ 60, .cancel ⟨3⟩, .run 61, .draw 0 "d", .enter ⟨4⟩ 70,
    .close, .run 90, .draw 0 "e", .enter ⟨5⟩ 90, .run 99]

theorem settled_overtaking :
    let (log, system) := empty.play [] overtaking
    Course log system ∧
      log.tasks system .ran = [⟨50, ⟨1⟩, "a"⟩, ⟨50, ⟨2⟩, "b"⟩] ∧
      log.tasks system .cancelled = [⟨65, ⟨3⟩, "c"⟩] ∧
      log.tasks system .discarded = [⟨70, ⟨4⟩, "d"⟩] ∧
      log.tasks system .waiting = [⟨90, ⟨5⟩, "e"⟩] ∧ log.Settled system := by
  have course := Course.fresh.play overtaking
  exact ⟨course, by decide, by decide, by decide, by decide, course.settled⟩

end Course

end AgendaSystem

end RadioScan
