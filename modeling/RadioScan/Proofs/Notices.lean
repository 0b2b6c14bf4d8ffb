import RadioScan.Proofs.Offloading
import RadioScan.Proofs.Run

/-!
What a step tells listeners and the scheduler. The session of single scans speaks only to the
listener of the request that it serves, and the session of offloaded scans only to the listener of
its own request and never to the scheduler. So if every request comes with a listener of its kind,
then listeners are told nothing of the other kind (`Coordinator.Suits.kind_of_mem`).
-/

set_option autoImplicit false
set_option relaxedAutoImplicit false

namespace RadioScan

section Effects

variable {radio : Radio} {listener : ListenerId} {scan : ActiveScan}

@[simp] theorem noticesTo_nil : noticesTo listener [] = [] := rfl

@[simp] theorem noticesTo_append (first second : List Effect) :
    noticesTo listener (first ++ second) = noticesTo listener first ++ noticesTo listener second :=
  List.filterMap_append

theorem mem_noticesTo {notice : Notice} {effects : List Effect} :
    notice ∈ noticesTo listener effects ↔ .notify listener notice ∈ effects := by
  simp only [noticesTo, List.mem_filterMap]
  constructor
  · rintro ⟨effect, hmem, hnotice⟩
    cases effect with
    | driver interface call => cases hnotice
    | scheduler call => cases hnotice
    | notify other notice' =>
      simp only [Effect.noticeTo?, Option.ite_none_right_eq_some, Option.some.injEq] at hnotice
      obtain ⟨rfl, rfl⟩ := hnotice
      exact hmem
  · exact fun hmem ↦ ⟨_, hmem, if_pos rfl⟩

@[simp] theorem noticesTo_cons_scheduler (call : SchedulerCall) (rest : List Effect) :
    noticesTo listener (.scheduler call :: rest) = noticesTo listener rest := rfl

@[simp] theorem noticesTo_cons_call (call : DriverCall) (rest : List Effect) :
    noticesTo listener (radio.call call :: rest) = noticesTo listener rest := rfl

@[simp] theorem noticesTo_cons_notify_self (notice : Notice) (rest : List Effect) :
    noticesTo listener (.notify listener notice :: rest) = notice :: noticesTo listener rest := by
  simp [noticesTo, Effect.noticeTo?]

@[simp] theorem noticesTo_map_call (calls : List DriverCall) :
    noticesTo listener (calls.map radio.call) = [] := by
  induction calls with
  | nil => rfl
  | cons call rest ih => simpa using ih

@[simp] theorem noticesTo_cons_tell_self (notice : ScanNotice) (rest : List Effect) :
    noticesTo scan.listener (scan.tell notice :: rest) =
      .scan notice :: noticesTo scan.listener rest := by
  simp [noticesTo, ActiveScan.tell, Effect.noticeTo?]

theorem noticesTo_map_tell_self (notices : List ScanNotice) :
    noticesTo scan.listener (notices.map scan.tell) = notices.map .scan := by
  induction notices with
  | nil => rfl
  | cons notice rest ih => simp [ih]

@[simp] theorem filterMap_task?_map_call (calls : List DriverCall) :
    (calls.map radio.call).filterMap Effect.task? = [] := by
  simp [List.filterMap_eq_nil_iff, Radio.call, Effect.task?]

@[simp] theorem filterMap_dropped?_map_call (calls : List DriverCall) :
    (calls.map radio.call).filterMap Effect.dropped? = [] := by
  simp [List.filterMap_eq_nil_iff, Radio.call, Effect.dropped?]

@[simp] theorem filterMap_task?_map_tell (notices : List ScanNotice) :
    (notices.map scan.tell).filterMap Effect.task? = [] := by
  simp [List.filterMap_eq_nil_iff, ActiveScan.tell, Effect.task?]

@[simp] theorem filterMap_dropped?_map_tell (notices : List ScanNotice) :
    (notices.map scan.tell).filterMap Effect.dropped? = [] := by
  simp [List.filterMap_eq_nil_iff, ActiveScan.tell, Effect.dropped?]

end Effects

namespace OffloadSession.Passage

variable {session : OffloadSession} {radio : Radio} {around : Surroundings} {action : Action}
variable {turn : Turn OffloadSession} {listener : ListenerId}

theorem tasks_eq_nil (hpassage : session.Passage radio around action turn) :
    turn.effects.filterMap Effect.task? = [] := by
  cases hpassage <;> rfl

theorem dropped_eq_nil (hpassage : session.Passage radio around action turn) :
    turn.effects.filterMap Effect.dropped? = [] := by
  cases hpassage <;> rfl

/-- Only the listener of the request that runs, or that comes with the action, hears of offloaded
scans, and it hears of nothing else. -/
theorem told (hpassage : session.Passage radio around action turn) {notice : Notice}
    (hmem : .notify listener notice ∈ turn.effects) :
    ((∃ scan, session.active = some scan ∧ scan.listener = listener) ∨
      ∃ request, action = .startOffload request listener) ∧ notice.kind = .offload := by
  cases hpassage with
  | kept => cases hmem
  | started _ _ _ => simp [Radio.call] at hmem
  | @refused request other reason _ _ _ =>
    simp only [Radio.call, List.mem_cons, reduceCtorEq, false_or, List.not_mem_nil, or_false,
      Effect.notify.injEq] at hmem
    obtain ⟨rfl, rfl⟩ := hmem
    exact ⟨Or.inr ⟨request, rfl⟩, rfl⟩
  | withdrawn _ => simp [Radio.call] at hmem
  | found hscan =>
    simp only [Radio.call, List.mem_cons, reduceCtorEq, false_or, List.not_mem_nil, or_false,
      Effect.notify.injEq] at hmem
    obtain ⟨rfl, rfl⟩ := hmem
    exact ⟨Or.inl ⟨_, hscan, rfl⟩, rfl⟩
  | failed hscan =>
    simp only [List.mem_singleton, Effect.notify.injEq] at hmem
    obtain ⟨rfl, rfl⟩ := hmem
    exact ⟨Or.inl ⟨_, hscan, rfl⟩, rfl⟩
  | cleaned => simp [Radio.call] at hmem

theorem noticesTo_eq_nil (hpassage : session.Passage radio around action turn)
    (hactive : ∀ scan, session.active = some scan → scan.listener ≠ listener)
    (haction : ∀ request, action ≠ .startOffload request listener) :
    noticesTo listener turn.effects = [] := by
  refine List.eq_nil_iff_forall_not_mem.mpr fun notice hmem ↦ ?_
  rcases (hpassage.told (mem_noticesTo.mp hmem)).1 with ⟨scan, hscan, heq⟩ | ⟨request, heq⟩
  · exact hactive scan hscan heq
  · exact haction request heq

end OffloadSession.Passage

namespace SingleSession

variable {session : SingleSession} {radio : Radio} {around : Surroundings} {scan : ActiveScan}
variable {alarm : Alarm Deferred} {request : ScanRequest} {listener other : ListenerId}

@[simp] theorem noticesTo_begun :
    noticesTo other (session.begun radio around request listener).effects = [] := by
  simp [begun]

@[simp] theorem tasks_begun :
    (session.begun radio around request listener).effects.filterMap Effect.task? =
      [⟨around.nextHandle, (Deferred.ofRefusal (request.refusal? radio around)).tag,
        (Deferred.ofRefusal (request.refusal? radio around)).delayMillis,
        session.alarms.nextId⟩] := by
  rw [begun, List.filterMap_append, filterMap_task?_map_call]
  rfl

@[simp] theorem dropped_begun :
    (session.begun radio around request listener).effects.filterMap Effect.dropped? = [] := by
  rw [begun, List.filterMap_append, filterMap_dropped?_map_call]
  rfl

theorem noticesTo_delivered_self (session : SingleSession) (radio : Radio) (around : Surroundings)
    (scan : ActiveScan) (alarm : Alarm Deferred) :
    noticesTo scan.listener (session.delivered radio around scan alarm).effects =
      (scan.resultNotices around).map .scan := by
  simp [delivered, noticesTo_map_tell_self]

@[simp] theorem tasks_delivered :
    (session.delivered radio around scan alarm).effects.filterMap Effect.task? = [] := by
  rw [delivered, List.filterMap_append, filterMap_task?_map_tell]
  rfl

@[simp] theorem dropped_delivered :
    (session.delivered radio around scan alarm).effects.filterMap Effect.dropped? =
      [alarm.task] := by
  rw [delivered, List.filterMap_append, filterMap_dropped?_map_tell]
  rfl

end SingleSession

namespace SingleSession.Passage

variable {session : SingleSession} {radio : Radio} {around : Surroundings} {action : Action}
variable {turn : Turn SingleSession} {listener : ListenerId}

/-- Only the listener of the request that occupies the session hears of single scans, and it hears
of nothing else. -/
theorem told (hpassage : session.Passage radio around action turn) {notice : Notice}
    (hmem : .notify listener notice ∈ turn.effects) :
    session.listener? = some listener ∧ notice.kind = .scan := by
  have hnotice {scan : ActiveScan} {alarm : Alarm Deferred} (hserves : session.Serves scan alarm)
      {said : ScanNotice} (heq : .notify listener notice = scan.tell said) :
      session.listener? = some listener ∧ notice.kind = .scan := by
    obtain ⟨rfl, rfl⟩ := Effect.notify.inj heq
    exact ⟨hserves.listener?_eq, rfl⟩
  cases hpassage with
  | kept _ _ => cases hmem
  | begun _ _ => simp [SingleSession.begun, Radio.call] at hmem
  | rung hserves => exact hnotice hserves (List.mem_singleton.mp hmem)
  | failed hserves _ _ =>
    simp only [List.mem_cons, reduceCtorEq, false_or, List.not_mem_nil, or_false] at hmem
    exact hnotice hserves hmem
  | delivered hserves =>
    simp only [SingleSession.delivered, Radio.call, List.mem_append, List.mem_cons, reduceCtorEq,
      List.not_mem_nil, or_false, false_or, List.mem_map] at hmem
    obtain ⟨said, -, heq⟩ := hmem
    exact hnotice hserves heq.symm

theorem noticesTo_eq_nil (hpassage : session.Passage radio around action turn)
    (hlistener : session.listener? ≠ some listener) : noticesTo listener turn.effects = [] :=
  List.eq_nil_iff_forall_not_mem.mpr fun _ hmem ↦
    hlistener (hpassage.told (mem_noticesTo.mp hmem)).1

/-- The scheduler is told to drop no task but the one of the current request. -/
theorem exists_serves_of_mem_dropped (hpassage : session.Passage radio around action turn)
    {handle : TaskHandle} (hdropped : handle ∈ turn.effects.filterMap Effect.dropped?) :
    ∃ scan alarm, session.Serves scan alarm ∧ alarm.task = handle := by
  cases hpassage with
  | kept _ _ => cases hdropped
  | begun _ _ =>
    rw [dropped_begun] at hdropped
    cases hdropped
  | rung _ => cases hdropped
  | failed hserves _ _ => exact ⟨_, _, hserves, (List.mem_singleton.mp hdropped).symm⟩
  | delivered hserves =>
    rw [dropped_delivered] at hdropped
    exact ⟨_, _, hserves, (List.mem_singleton.mp hdropped).symm⟩

end SingleSession.Passage

/-! ### Listeners of each kind -/

/-- The kind of the request that an action makes, if it makes one. -/
def Action.kind? : Action → Option Kind
  | .startScan _ _ => some .scan
  | .startBatchedScan _ _ => some .scan
  | .startOffload _ _ => some .offload
  | _ => none

/-- The listeners that have a request in the scanner are of its kind. -/
structure Coordinator.Suits (scanner : Coordinator) (kind? : ListenerId → Option Kind) :
    Prop where
  sound : scanner.single.Sound
  single : ∀ listener, scanner.single.listener? = some listener → kind? listener = some .scan
  offload : ∀ scan, scanner.offload.active = some scan → kind? scan.listener = some .offload

namespace Coordinator.Suits

variable {scanner : Coordinator} {kind? : ListenerId → Option Kind} {around : Surroundings}
variable {action : Action} {listener : ListenerId}

theorem fresh (radio : Radio) (fallbackBatch : Nat) (kind? : ListenerId → Option Kind) :
    (Coordinator.fresh radio fallbackBatch).Suits kind? where
  sound := Or.inl ⟨rfl, rfl⟩
  single := fun _ hlistener ↦ nomatch hlistener
  offload := fun _ hactive ↦ nomatch hactive

theorem mono {kind?' : ListenerId → Option Kind} (hsuits : scanner.Suits kind?)
    (hkept : ∀ listener kind, kind? listener = some kind → kind?' listener = some kind) :
    scanner.Suits kind?' where
  sound := hsuits.sound
  single := fun listener heq ↦ hkept listener .scan (hsuits.single listener heq)
  offload := fun scan heq ↦ hkept scan.listener .offload (hsuits.offload scan heq)

theorem next_step (hsuits : scanner.Suits kind?) (around : Surroundings)
    (haction : ∀ listener, action.listener? = some listener → kind? listener = action.kind?) :
    (scanner.step around action).next.Suits kind? where
  sound := by
    rw [single_next_step]
    exact (hsuits.sound.turn_passage action).sound hsuits.sound
  single := by
    rw [single_next_step]
    intro listener hnext
    rcases (hsuits.sound.turn_passage action).listener?_next hnext with hold | ⟨request, rfl⟩
    · exact hsuits.single listener hold
    · exact haction listener rfl
  offload := by
    rw [offload_next_step]
    intro scan hactive
    rcases (scanner.offload.turn_passage action).active_next hactive with hold | ⟨request, rfl⟩
    · exact hsuits.offload scan hold
    · exact haction scan.listener rfl

/-- Whoever is told something in a step is of the kind that it is about. -/
theorem kind_of_mem (hsuits : scanner.Suits kind?)
    (haction : ∀ listener, action.listener? = some listener → kind? listener = action.kind?)
    {notice : Notice} (hmem : .notify listener notice ∈ (scanner.step around action).effects) :
    kind? listener = some notice.kind := by
  rw [effects_step, List.mem_append] at hmem
  rcases hmem with hsingle | hoffload
  · obtain ⟨hlistener, hkind⟩ := (hsuits.sound.turn_passage action).told hsingle
    rw [hkind]
    exact hsuits.single listener hlistener
  · obtain ⟨⟨scan, hactive, rfl⟩ | ⟨request, rfl⟩, hkind⟩ :=
      (scanner.offload.turn_passage action).told hoffload
    · rw [hkind]
      exact hsuits.offload scan hactive
    · rw [hkind]
      exact haction listener rfl

end Coordinator.Suits

namespace Episode

variable (episode : Episode)

theorem effects_eq :
    episode.effects =
      (episode.scanner.single.turn episode.scanner.radio episode.around episode.action).effects ++
        (episode.scanner.offload.turn episode.scanner.radio episode.around
          episode.action).effects :=
  Coordinator.effects_step _ _ _

theorem filterMap_task?_effects :
    episode.effects.filterMap Effect.task? =
      (episode.scanner.single.turn episode.scanner.radio episode.around
        episode.action).effects.filterMap Effect.task? := by
  rw [effects_eq, List.filterMap_append, OffloadSession.Passage.tasks_eq_nil
    (episode.scanner.offload.turn_passage episode.action), List.append_nil]

theorem filterMap_dropped?_effects :
    episode.effects.filterMap Effect.dropped? =
      (episode.scanner.single.turn episode.scanner.radio episode.around
        episode.action).effects.filterMap Effect.dropped? := by
  rw [effects_eq, List.filterMap_append, OffloadSession.Passage.dropped_eq_nil
    (episode.scanner.offload.turn_passage episode.action), List.append_nil]

end Episode

end RadioScan
