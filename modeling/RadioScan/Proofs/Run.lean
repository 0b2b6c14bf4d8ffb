import RadioScan.Proofs.Occupancy

/-!
Runs of a scanner. A `History` is the list of everything that has happened, oldest first, and
`Run radio fallbackBatch past scanner` says that a fresh scanner can go through `past` and then be
`scanner`. Callers, the driver, the clock and the policy may do and answer anything at any time.
What is asked of them is in `Possible`: each request brings a listener of its own, the scheduler
gives each task a handle of its own, and it runs a task at most once and only after it was given
it. A task may run long after it was dropped, as one that had left the queue by then.

A `Booking` is a request for a single scan that was accepted in some episode of a history.
-/

set_option autoImplicit false
set_option relaxedAutoImplicit false

namespace RadioScan

/-- The listener that comes with a request. -/
def Action.listener? : Action → Option ListenerId
  | .startScan _ listener => some listener
  | .startBatchedScan _ listener => some listener
  | .startOffload _ listener => some listener
  | _ => none

/-- The alarm whose task is run. -/
def Action.task? : Action → Option AlarmId
  | .runTask alarm => some alarm
  | _ => none

/-- A task as the scheduler was given it. -/
structure ScheduledTask where
  handle : TaskHandle
  tag : String
  delayMillis : Nat
  alarm : AlarmId
  deriving DecidableEq, Repr

namespace Effect

/-- The task that the scheduler is given. -/
def task? : Effect → Option ScheduledTask
  | .scheduler (.schedule handle tag delayMillis alarm) => some ⟨handle, tag, delayMillis, alarm⟩
  | _ => none

/-- The handle whose task the scheduler is to drop. -/
def dropped? : Effect → Option TaskHandle
  | .scheduler (.cancel handle) => some handle
  | _ => none

/-- What the listener is told. -/
def noticeTo? (listener : ListenerId) : Effect → Option Notice
  | .notify other notice => if other = listener then some notice else none
  | _ => none

end Effect

/-- The notices among some effects that go to a listener. -/
def noticesTo (listener : ListenerId) (effects : List Effect) : List Notice :=
  effects.filterMap (Effect.noticeTo? listener)

/-- One action, with the scanner that it found and what was answered during it. -/
structure Episode where
  scanner : Coordinator
  around : Surroundings
  action : Action

namespace Episode

def reply (episode : Episode) : Reply Coordinator :=
  episode.scanner.step episode.around episode.action

def effects (episode : Episode) : List Effect := episode.reply.effects

end Episode

/-- What has happened to a scanner, oldest first. -/
abbrev History := List Episode

namespace History

def effects (past : History) : List Effect := past.flatMap Episode.effects

/-- The listeners of all requests, whether or not they were accepted. -/
def listeners (past : History) : List ListenerId :=
  past.filterMap fun episode ↦ episode.action.listener?

/-- The tasks that the scheduler was given. -/
def tasks (past : History) : List ScheduledTask := past.effects.filterMap Effect.task?

/-- The handles whose tasks the scheduler was told to drop. -/
def dropped (past : History) : List TaskHandle := past.effects.filterMap Effect.dropped?

/-- The alarms whose tasks have run. -/
def ran (past : History) : List AlarmId := past.filterMap fun episode ↦ episode.action.task?

/-- Everything that a listener has been told. -/
def heardBy (past : History) (listener : ListenerId) : List Notice :=
  noticesTo listener past.effects

variable (past : History) (episode : Episode)

theorem effects_snoc : effects (past ++ [episode]) = past.effects ++ episode.effects := by
  simp [effects]

theorem tasks_snoc :
    tasks (past ++ [episode]) = past.tasks ++ episode.effects.filterMap Effect.task? := by
  simp [tasks, effects_snoc]

theorem dropped_snoc :
    dropped (past ++ [episode]) = past.dropped ++ episode.effects.filterMap Effect.dropped? := by
  simp [dropped, effects_snoc]

theorem ran_snoc : ran (past ++ [episode]) = past.ran ++ episode.action.task?.toList := by
  cases h : episode.action.task? <;> simp [ran, h]

theorem heardBy_snoc (listener : ListenerId) :
    heardBy (past ++ [episode]) listener =
      past.heardBy listener ++ noticesTo listener episode.effects := by
  simp [heardBy, noticesTo, effects_snoc]

/-- A history, of whatever kind, that goes on for one more episode splits at an episode of before or
at the last. -/
theorem split_snoc {α : Type} {past earlier later : List α} {last episode : α}
    (hpast : past ++ [last] = earlier ++ episode :: later) :
    (later = [] ∧ past = earlier ∧ last = episode) ∨
      ∃ rest, later = rest ++ [last] ∧ past = earlier ++ episode :: rest := by
  rcases List.eq_nil_or_concat later with rfl | ⟨rest, other, rfl⟩
  · obtain ⟨hearlier, hlast⟩ := List.append_inj' hpast rfl
    exact Or.inl ⟨rfl, hearlier, List.singleton_inj.mp hlast⟩
  · rw [List.concat_eq_append, ← List.cons_append, ← List.append_assoc] at hpast
    obtain ⟨hearlier, hlast⟩ := List.append_inj' hpast rfl
    rw [List.concat_eq_append, List.singleton_inj.mp hlast]
    exact Or.inr ⟨rest, rfl, hearlier⟩

end History

/-- What callers and the scheduler keep to when an action follows a history. -/
structure Possible (past : History) (around : Surroundings) (action : Action) : Prop where
  listener_new : ∀ listener ∈ action.listener?, listener ∉ past.listeners
  handle_new : around.nextHandle ∉ past.tasks.map ScheduledTask.handle
  task_waits : ∀ alarm ∈ action.task?,
    alarm ∈ past.tasks.map ScheduledTask.alarm ∧ alarm ∉ past.ran

instance (past : History) (around : Surroundings) (action : Action) :
    Decidable (Possible past around action) :=
  decidable_of_iff
    ((∀ listener ∈ action.listener?, listener ∉ past.listeners) ∧
      around.nextHandle ∉ past.tasks.map ScheduledTask.handle ∧
      ∀ alarm ∈ action.task?, alarm ∈ past.tasks.map ScheduledTask.alarm ∧ alarm ∉ past.ran)
    ⟨fun h ↦ ⟨h.1, h.2.1, h.2.2⟩, fun h ↦ ⟨h.listener_new, h.handle_new, h.task_waits⟩⟩

/-- A fresh scanner can go through the history and then be the scanner. -/
inductive Run (radio : Radio) (fallbackBatch : Nat) : History → Coordinator → Prop
  | fresh : Run radio fallbackBatch [] (.fresh radio fallbackBatch)
  | snoc {past : History} {scanner : Coordinator} {around : Surroundings} {action : Action}
      (run : Run radio fallbackBatch past scanner) (hpossible : Possible past around action) :
      Run radio fallbackBatch (past ++ [⟨scanner, around, action⟩])
        (scanner.step around action).next

/-- An accepted request for a single scan. -/
structure Booking extends Episode where
  request : ScanRequest
  listener : ListenerId
  action_eq : action = .startScan request listener
  accepted : toEpisode.reply.rejection = none

namespace Booking

variable (booking : Booking)

/-- Why the request could not be scanned for. `none` when the driver took it. -/
def refusal? : Option Reason := booking.request.refusal? booking.scanner.radio booking.around

/-- The request as it occupies the session. -/
def scan : ActiveScan :=
  booking.request.scan booking.scanner.radio booking.around booking.listener

/-- What the request's alarm means. -/
def deferred : Deferred := .ofRefusal booking.refusal?

/-- The request's alarm. -/
def alarm : Alarm Deferred where
  id := booking.scanner.single.alarms.nextId
  event := booking.deferred
  task := booking.around.nextHandle

/-- The task that the scheduler is given for the request's alarm. -/
def task : ScheduledTask where
  handle := booking.around.nextHandle
  tag := booking.deferred.tag
  delayMillis := booking.deferred.delayMillis
  alarm := booking.scanner.single.alarms.nextId

theorem listener?_eq : booking.action.listener? = some booking.listener := by
  rw [booking.action_eq]
  rfl

/-- A booking is known by its episode. -/
theorem eq_of_toEpisode {first second : Booking} (heq : first.toEpisode = second.toEpisode) :
    first = second := by
  have haction := congrArg Episode.action heq
  rw [first.action_eq, second.action_eq] at haction
  obtain ⟨episode, request, listener, _, _⟩ := first
  obtain ⟨other, request', listener', _, _⟩ := second
  obtain rfl : episode = other := heq
  obtain ⟨rfl, rfl⟩ := Action.startScan.inj haction
  rfl

/-- A request is accepted only by a session that no other request occupies. -/
theorem idle : booking.scanner.single.phase = .idle := by
  have haccepted := booking.accepted
  rw [Episode.reply, booking.action_eq, Coordinator.step, SingleSession.start] at haccepted
  by_cases hidle : booking.scanner.single.phase = .idle
  · exact hidle
  · rw [if_pos hidle] at haccepted
    cases haccepted

theorem fits : booking.request.buckets.length ≤ Capabilities.standard.buckets := by
  have haccepted := booking.accepted
  rw [Episode.reply, booking.action_eq, Coordinator.step, SingleSession.start,
    if_neg (not_not_intro booking.idle)] at haccepted
  by_cases hfit : Capabilities.standard.buckets < booking.request.buckets.length
  · rw [if_pos hfit] at haccepted
    cases haccepted
  · exact Nat.le_of_not_lt hfit

/-- What an accepted request made of the session. -/
theorem turn_eq :
    booking.scanner.single.turn booking.scanner.radio booking.around booking.action =
      booking.scanner.single.begun booking.scanner.radio booking.around booking.request
        booking.listener := by
  rw [booking.action_eq, SingleSession.turn, SingleSession.start_of_idle booking.idle booking.fits]
  rfl

end Booking

namespace Run

variable {radio : Radio} {fallbackBatch : Nat} {past : History} {scanner : Coordinator}

/-- What came before an episode led up to it. -/
theorem before (run : Run radio fallbackBatch past scanner) {earlier later : History}
    {episode : Episode} (hpast : past = earlier ++ episode :: later) :
    Run radio fallbackBatch earlier episode.scanner ∧
      Possible earlier episode.around episode.action := by
  induction run generalizing later with
  | fresh => cases earlier <;> cases hpast
  | @snoc past scanner around action run hpossible ih =>
    rcases History.split_snoc hpast with ⟨-, rfl, rfl⟩ | ⟨rest, -, hpast⟩
    · exact ⟨run, hpossible⟩
    · exact ih hpast

/-- Whatever has happened followed on a run of its own. -/
theorem split (run : Run radio fallbackBatch past scanner) {episode : Episode}
    (hmem : episode ∈ past) :
    ∃ earlier later, past = earlier ++ episode :: later ∧
      Run radio fallbackBatch earlier episode.scanner ∧
      Possible earlier episode.around episode.action := by
  obtain ⟨earlier, later, hpast⟩ := List.append_of_mem hmem
  exact ⟨earlier, later, hpast, run.before hpast⟩

theorem mem_listeners {episode : Episode} {listener : ListenerId} (hmem : episode ∈ past)
    (hlistener : episode.action.listener? = some listener) : listener ∈ past.listeners :=
  List.mem_filterMap.mpr ⟨episode, hmem, hlistener⟩

/-- A listener tells which request it came with. -/
theorem eq_of_listener (run : Run radio fallbackBatch past scanner) {first second : Episode}
    {listener : ListenerId} (hfirst : first ∈ past) (hsecond : second ∈ past)
    (hfirstListener : first.action.listener? = some listener)
    (hsecondListener : second.action.listener? = some listener) : first = second := by
  induction run with
  | fresh => cases hfirst
  | @snoc past scanner around action run hpossible ih =>
    have hnew {episode : Episode} (hmem : episode ∈ past)
        (heq : episode.action.listener? = some listener) :
        action.listener? ≠ some listener := fun haction ↦
      hpossible.listener_new listener haction (mem_listeners hmem heq)
    rcases List.mem_append.mp hfirst with hfirst | hfirst <;>
      rcases List.mem_append.mp hsecond with hsecond | hsecond
    · exact ih hfirst hsecond
    · obtain rfl := List.mem_singleton.mp hsecond
      exact absurd hsecondListener (hnew hfirst hfirstListener)
    · obtain rfl := List.mem_singleton.mp hfirst
      exact absurd hfirstListener (hnew hsecond hsecondListener)
    · exact (List.mem_singleton.mp hfirst).trans (List.mem_singleton.mp hsecond).symm

theorem booking_eq_of_listener (run : Run radio fallbackBatch past scanner)
    {first second : Booking} (hfirst : first.toEpisode ∈ past) (hsecond : second.toEpisode ∈ past)
    (heq : first.listener = second.listener) : first = second :=
  Booking.eq_of_toEpisode
    (run.eq_of_listener hfirst hsecond (heq ▸ first.listener?_eq) second.listener?_eq)

end Run

/-! ### Scripts -/

namespace Coordinator

/-- The history and the scanner after a script of actions that follows a history. -/
def play (past : History) (scanner : Coordinator) :
    List (Surroundings × Action) → History × Coordinator
  | [] => (past, scanner)
  | (around, action) :: rest =>
    play (past ++ [⟨scanner, around, action⟩]) (scanner.step around action).next rest

/-- Each action of a script is possible when its turn comes. -/
def Playable (past : History) (scanner : Coordinator) : List (Surroundings × Action) → Prop
  | [] => True
  | (around, action) :: rest =>
    Possible past around action ∧
      Playable (past ++ [⟨scanner, around, action⟩]) (scanner.step around action).next rest

instance decidablePlayable : (past : History) → (scanner : Coordinator) →
    (script : List (Surroundings × Action)) → Decidable (Playable past scanner script)
  | _, _, [] => .isTrue trivial
  | past, scanner, (around, action) :: rest =>
    have : Decidable (Playable (past ++ [⟨scanner, around, action⟩])
        (scanner.step around action).next rest) :=
      decidablePlayable _ _ rest
    inferInstanceAs (Decidable (Possible past around action ∧
      Playable (past ++ [⟨scanner, around, action⟩]) (scanner.step around action).next rest))

end Coordinator

theorem Run.play {radio : Radio} {fallbackBatch : Nat} {past : History} {scanner : Coordinator}
    (run : Run radio fallbackBatch past scanner) (script : List (Surroundings × Action))
    (hplayable : scanner.Playable past script) :
    Run radio fallbackBatch (scanner.play past script).1 (scanner.play past script).2 := by
  induction script generalizing past scanner with
  | nil => exact run
  | cons head rest ih => exact ih (run.snoc hplayable.1) hplayable.2

/-- Surroundings in which the driver takes every scan and finds nothing. -/
def Surroundings.calm (handle : Nat) : Surroundings where
  scanRefusal := none
  offloadRefusal := none
  stopRefusal := none
  probeLimit := 0
  scanResults := []
  offloadResults := []
  nanos := 0
  backgroundScanning := true
  nextHandle := ⟨handle⟩

/-- A request for one channel. -/
def ScanRequest.ofChannel (frequency : Frequency) (reportEvents : BitVec 32) : ScanRequest where
  effort := .lowLatency
  buckets := [⟨.unspecified, [frequency], reportEvents⟩]
  hidden := none
  neighbourReports := false
  vendorElements := []

/-- A scanner that nothing has happened to. -/
def Coordinator.specimen : Coordinator := .fresh ⟨"wlan0", .standard⟩ 16

end RadioScan
