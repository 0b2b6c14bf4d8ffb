import RadioScan.Bench.Basic
import RadioScan.Proofs.Channels
import RadioScan.Proofs.Notices

/-!
What a command does at a bench, apart from where the notices go. Commands other than the closing of
a mailbox do not look at the desks: for any desks they do the same deed, that is, they give the same
answer and bring about the same effects (`Bench.exists_deed`). The desks only decide which notices
are logged and which are left in a mailbox. A deed is either nothing that concerns the scanner, or
one step of it (`Bench.Deed.Comes`).

A listener's desk is of its kind, so that whatever it is left also waits there
(`Desk.waiting_leaveAll`).
-/

set_option autoImplicit false
set_option relaxedAutoImplicit false

namespace RadioScan

variable [Channels] {contents : Channels.Contents}

/-! ### Lines -/

namespace Line

variable {α β γ : Type}

/-- What waits to be read, oldest first. Where there is no reader, nothing does. -/
def waiting (contents : Channels.Contents) : Line α → List α
  | direct => []
  | boxed channel isRead => if isRead then contents.queued channel else []

/-- The channel still has its receiver if there is a reader. -/
def IsSound (contents : Channels.Contents) : Line α → Prop
  | direct => True
  | boxed channel isRead => isRead = true → contents.isConnected channel = true

@[simp] theorem isDirect_leave (forward : Channel α → β → Channel α) (notice : β) (line : Line α) :
    (line.leave forward notice).isDirect = line.isDirect := by
  cases line <;> rfl

@[simp] theorem isRead_leave (forward : Channel α → β → Channel α) (notice : β) (line : Line α) :
    (line.leave forward notice).isRead = line.isRead := by
  cases line <;> rfl

@[simp] theorem isDirect_close (line : Line α) : line.close.isDirect = line.isDirect := by
  cases line <;> rfl

@[simp] theorem isRead_close (line : Line α) : line.close.isRead = false := by
  cases line <;> rfl

@[simp] theorem isDirect_collect (most : Nat) (line : Line α) :
    (line.collect most).2.isDirect = line.isDirect := by
  cases line with
  | direct => rfl
  | boxed channel isRead => cases isRead <;> rfl

@[simp] theorem isRead_collect (most : Nat) (line : Line α) :
    (line.collect most).2.isRead = line.isRead := by
  cases line with
  | direct => rfl
  | boxed channel isRead => cases isRead <;> rfl

theorem waiting_eq_nil (line : Line α) (hread : line.isRead = false) :
    line.waiting contents = [] := by
  cases line with
  | direct => rfl
  | boxed channel isRead =>
    obtain rfl : isRead = false := hread
    rfl

/-- Nothing is read where there is no reader. -/
theorem collect_eq_nil (line : Line α) (hread : line.isRead = false) (most : Nat) :
    (line.collect most).1 = [] := by
  cases line with
  | direct => rfl
  | boxed channel isRead =>
    obtain rfl : isRead = false := hread
    rfl

theorem new_spec (documented : contents.Documented) (boxed : Bool) :
    (new boxed : Line α).waiting contents = [] ∧ (new boxed : Line α).IsSound contents := by
  cases boxed with
  | false => exact ⟨rfl, trivial⟩
  | true => exact ⟨documented.queued_opened, fun _ ↦ documented.isConnected_opened⟩

theorem isSound_close (line : Line α) : line.close.IsSound contents := by
  cases line with
  | direct => trivial
  | boxed channel isRead => exact fun hread ↦ nomatch hread

/-- What is passed on to a channel with a reader comes to wait there. -/
theorem leave_spec {forward : Channel α → β → Channel α} {read : α → β}
    (hforward : ∀ {channel : Channel α}, contents.isConnected channel = true → ∀ notice,
      (contents.queued (forward channel notice)).map read =
          (contents.queued channel).map read ++ [notice] ∧
        contents.isConnected (forward channel notice) = true)
    {line : Line α} (hsound : line.IsSound contents) (notice : β) :
    ((line.leave forward notice).waiting contents).map read =
        (line.waiting contents).map read ++ (if line.isRead then [notice] else []) ∧
      (line.leave forward notice).IsSound contents := by
  cases line with
  | direct => exact ⟨rfl, trivial⟩
  | boxed channel isRead =>
    cases isRead with
    | false => exact ⟨rfl, fun hread ↦ nomatch hread⟩
    | true =>
      obtain ⟨hqueued, hstill⟩ := hforward (hsound rfl) notice
      exact ⟨hqueued, fun _ ↦ hstill⟩

/-- What is read, and what waits afterwards, is what waited before. -/
theorem collect_spec (documented : contents.Documented) (line : Line α)
    (hsound : line.IsSound contents) (most : Nat) :
    (line.collect most).1 ++ (line.collect most).2.waiting contents = line.waiting contents ∧
      (line.collect most).2.IsSound contents := by
  cases line with
  | direct => exact ⟨rfl, trivial⟩
  | boxed channel isRead =>
    cases isRead with
    | false => exact ⟨rfl, fun hread ↦ nomatch hread⟩
    | true =>
      obtain ⟨hsplit, hstill⟩ := documented.receiveUpTo_append (hsound rfl) most
      exact ⟨hsplit, fun _ ↦ hstill⟩

end Line

/-! ### Desks -/

namespace Desk

/-- Leaves several notices, one after the other. -/
def leaveAll (desk : Desk) (notices : List Notice) : Desk :=
  notices.foldl (fun desk notice ↦ desk.leave notice) desk

/-- What waits to be read, oldest first. -/
def waiting (contents : Channels.Contents) : Desk → List Event
  | scan line => (line.waiting contents).map .scan
  | offload line => (line.waiting contents).map .offload

def IsSound (contents : Channels.Contents) : Desk → Prop
  | scan line => line.IsSound contents
  | offload line => line.IsSound contents

@[simp] theorem kind_new (boxed : Bool) (kind : Kind) : (new boxed kind).kind = kind := by
  cases kind <;> rfl

@[simp] theorem kind_leave (notice : Notice) (desk : Desk) :
    (desk.leave notice).kind = desk.kind := by
  cases notice <;> cases desk <;> rfl

@[simp] theorem isDirect_leave (notice : Notice) (desk : Desk) :
    (desk.leave notice).isDirect = desk.isDirect := by
  cases notice <;> cases desk <;> simp [leave, isDirect]

@[simp] theorem isRead_leave (notice : Notice) (desk : Desk) :
    (desk.leave notice).isRead = desk.isRead := by
  cases notice <;> cases desk <;> simp [leave, isRead]

@[simp] theorem kind_close (desk : Desk) : desk.close.kind = desk.kind := by
  cases desk <;> rfl

@[simp] theorem isDirect_close (desk : Desk) : desk.close.isDirect = desk.isDirect := by
  cases desk <;> simp [close, isDirect]

@[simp] theorem isRead_close (desk : Desk) : desk.close.isRead = false := by
  cases desk <;> simp [close, isRead]

@[simp] theorem kind_collect (most : Nat) (desk : Desk) :
    (desk.collect most).2.kind = desk.kind := by
  cases desk <;> rfl

@[simp] theorem isDirect_collect (most : Nat) (desk : Desk) :
    (desk.collect most).2.isDirect = desk.isDirect := by
  cases desk <;> simp [collect, isDirect]

@[simp] theorem isRead_collect (most : Nat) (desk : Desk) :
    (desk.collect most).2.isRead = desk.isRead := by
  cases desk <;> simp [collect, isRead]

theorem waiting_eq_nil {desk : Desk} (hread : desk.isRead = false) :
    desk.waiting contents = [] := by
  cases desk with
  | scan line => simp [waiting, line.waiting_eq_nil hread]
  | offload line => simp [waiting, line.waiting_eq_nil hread]

/-- Nothing is read where there is no reader. -/
theorem collect_eq_nil {desk : Desk} (hread : desk.isRead = false) (most : Nat) :
    (desk.collect most).1 = [] := by
  cases desk with
  | scan line => simp [collect, line.collect_eq_nil hread]
  | offload line => simp [collect, line.collect_eq_nil hread]

theorem new_spec (documented : contents.Documented) (boxed : Bool) (kind : Kind) :
    (new boxed kind).waiting contents = [] ∧ (new boxed kind).IsSound contents := by
  cases kind with
  | scan =>
    obtain ⟨hwaiting, hsound⟩ := Line.new_spec (α := ScanEvent) documented boxed
    exact ⟨by simp [new, waiting, hwaiting], hsound⟩
  | offload =>
    obtain ⟨hwaiting, hsound⟩ := Line.new_spec (α := OffloadEvent) documented boxed
    exact ⟨by simp [new, waiting, hwaiting], hsound⟩

theorem isSound_close (desk : Desk) : desk.close.IsSound contents := by
  cases desk with
  | scan line => exact line.isSound_close
  | offload line => exact line.isSound_close

/-- What is read, and what waits afterwards, is what waited before. -/
theorem collect_spec (documented : contents.Documented) {desk : Desk}
    (hsound : desk.IsSound contents) (most : Nat) :
    (desk.collect most).1 ++ (desk.collect most).2.waiting contents = desk.waiting contents ∧
      (desk.collect most).2.IsSound contents := by
  cases desk with
  | scan line =>
    obtain ⟨hsplit, hsound⟩ := line.collect_spec documented hsound most
    exact ⟨by rw [collect, waiting, waiting, ← List.map_append, hsplit], hsound⟩
  | offload line =>
    obtain ⟨hsplit, hsound⟩ := line.collect_spec documented hsound most
    exact ⟨by rw [collect, waiting, waiting, ← List.map_append, hsplit], hsound⟩

/-- A notice of the desk's kind comes to wait there, unless nobody reads. -/
theorem leave_spec (documented : contents.Documented) {desk : Desk}
    (hsound : desk.IsSound contents) {notice : Notice} (hkind : desk.kind = notice.kind) :
    ((desk.leave notice).waiting contents).map Event.notice =
        (desk.waiting contents).map Event.notice ++ (if desk.isRead then [notice] else []) ∧
      (desk.leave notice).IsSound contents := by
  cases desk with
  | scan line =>
    cases notice with
    | offload notice => cases hkind
    | scan notice =>
      obtain ⟨hwaiting, hsound⟩ := Line.leave_spec documented.queued_forwardScan hsound notice
      have hscan := congrArg (List.map Notice.scan) hwaiting
      rw [List.map_append, apply_ite (List.map Notice.scan), List.map_map, List.map_map] at hscan
      refine ⟨?_, hsound⟩
      rw [leave, waiting, waiting, List.map_map, List.map_map]
      exact hscan
  | offload line =>
    cases notice with
    | scan notice => cases hkind
    | offload notice =>
      obtain ⟨hwaiting, hsound⟩ := Line.leave_spec documented.queued_forwardOffload hsound notice
      have hoffload := congrArg (List.map Notice.offload) hwaiting
      rw [List.map_append, apply_ite (List.map Notice.offload), List.map_map, List.map_map]
        at hoffload
      refine ⟨?_, hsound⟩
      rw [leave, waiting, waiting, List.map_map, List.map_map]
      exact hoffload

@[simp] theorem kind_leaveAll (desk : Desk) (notices : List Notice) :
    (desk.leaveAll notices).kind = desk.kind := by
  induction notices generalizing desk with
  | nil => rfl
  | cons notice rest ih => exact (ih (desk.leave notice)).trans (kind_leave notice desk)

@[simp] theorem isDirect_leaveAll (desk : Desk) (notices : List Notice) :
    (desk.leaveAll notices).isDirect = desk.isDirect := by
  induction notices generalizing desk with
  | nil => rfl
  | cons notice rest ih => exact (ih (desk.leave notice)).trans (isDirect_leave notice desk)

@[simp] theorem isRead_leaveAll (desk : Desk) (notices : List Notice) :
    (desk.leaveAll notices).isRead = desk.isRead := by
  induction notices generalizing desk with
  | nil => rfl
  | cons notice rest ih => exact (ih (desk.leave notice)).trans (isRead_leave notice desk)

/-- Notices wait in the order in which they were left, unless nobody reads them. -/
theorem leaveAll_spec (documented : contents.Documented) {desk : Desk}
    (hsound : desk.IsSound contents) {notices : List Notice}
    (hkinds : ∀ notice ∈ notices, desk.kind = notice.kind) :
    ((desk.leaveAll notices).waiting contents).map Event.notice =
        (desk.waiting contents).map Event.notice ++ (if desk.isRead then notices else []) ∧
      (desk.leaveAll notices).IsSound contents := by
  induction notices generalizing desk with
  | nil => exact ⟨by simp [leaveAll], hsound⟩
  | cons notice rest ih =>
    obtain ⟨hkind, hrest⟩ := List.forall_mem_cons.mp hkinds
    obtain ⟨hwaiting, hleft⟩ := leave_spec documented hsound hkind
    obtain ⟨hlater, hlast⟩ := ih hleft (by simpa using hrest)
    refine ⟨hlater.trans ?_, hlast⟩
    rw [hwaiting, isRead_leave, List.append_assoc]
    split <;> rfl

end Desk

namespace Bench

/-! ### Effects -/

variable {bench : Bench}

@[simp] theorem scanner_receiveAll (bench : Bench) (effects : List Effect) :
    (bench.receiveAll effects).scanner = bench.scanner := by
  induction effects generalizing bench with
  | nil => rfl
  | cons effect rest ih =>
    refine (ih (bench.receive effect)).trans ?_
    cases effect <;> rfl

theorem desk?_receive (bench : Bench) (effect : Effect) (listener : ListenerId) :
    (bench.receive effect).desk? listener =
      (bench.desk? listener).map (·.leaveAll (noticesTo listener [effect])) := by
  cases effect with
  | driver interface call => exact Option.map_id'.symm
  | scheduler call => exact Option.map_id'.symm
  | notify other notice =>
    by_cases hother : other = listener
    · subst hother
      simp [desk?, receive, noticesTo, Effect.noticeTo?, Desk.leaveAll]
    · have hnumber : other.number ≠ listener.number := fun heq ↦ hother (congrArg ListenerId.mk heq)
      simp [desk?, receive, noticesTo, Effect.noticeTo?, Desk.leaveAll, hother, hnumber]

/-- What reaches a listener's desk are the notices to that listener. -/
theorem desk?_receiveAll (bench : Bench) (effects : List Effect) (listener : ListenerId) :
    (bench.receiveAll effects).desk? listener =
      (bench.desk? listener).map (·.leaveAll (noticesTo listener effects)) := by
  induction effects generalizing bench with
  | nil => exact Option.map_id'.symm
  | cons effect rest ih =>
    have hsplit : noticesTo listener (effect :: rest) =
        noticesTo listener [effect] ++ noticesTo listener rest := noticesTo_append [effect] rest
    have hrest := ih (bench.receive effect)
    rw [desk?_receive, Option.map_map] at hrest
    rw [hsplit]
    refine hrest.trans (Option.map_congr fun desk _ ↦ ?_)
    exact (List.foldl_append ..).symm

/-- Of the notices to a listener, either all are logged or none. -/
theorem noticesTo_filter_logs (bench : Bench) (effects : List Effect) (listener : ListenerId) :
    noticesTo listener (effects.filter bench.logs) =
      if (bench.desk? listener).any Desk.isDirect then noticesTo listener effects else [] := by
  have hnotice (effect : Effect) : (if bench.logs effect then effect.noticeTo? listener else none) =
      if (bench.desk? listener).any Desk.isDirect then effect.noticeTo? listener else none := by
    cases effect with
    | driver interface call => simp [Effect.noticeTo?]
    | scheduler call => simp [Effect.noticeTo?]
    | notify other notice =>
      by_cases hother : other = listener
      · rw [hother, logs]
      · simp [Effect.noticeTo?, hother]
  rw [noticesTo, List.filterMap_filter, funext hnotice]
  split
  · rfl
  · exact List.filterMap_eq_nil_iff.mpr fun _ _ ↦ rfl

/-! ### Deeds -/

/-- A request with a mailbox for its listener or without. Other commands stay as they are. -/
def Command.boxing (boxed : Bool) : Command → Command
  | .startScan request _ => .startScan request boxed
  | .startBatchedScan request _ => .startBatchedScan request boxed
  | .startOffload request _ => .startOffload request boxed
  | command => command

/-- Whether the command is a request with a mailbox for its listener. -/
def Command.isBoxed : Command → Bool
  | .startScan _ boxed => boxed
  | .startBatchedScan _ boxed => boxed
  | .startOffload _ boxed => boxed
  | _ => false

def Command.isClosing : Command → Bool
  | .closeMailbox _ => true
  | _ => false

/-- What a command does: its answer, the kind of the new listener if there is one, the bench before
the effects, of which the desks do not count, and the effects. -/
structure Deed where
  answer : Answer
  opens : Option Kind
  bench : Bench
  effects : List Effect

/-- The bench before the effects, with these desks and one for the new listener. -/
def Deed.start (deed : Deed) (desks : List Desk) (boxed : Bool) : Bench :=
  { deed.bench with
    desks :=
      match deed.opens with
      | some kind => desks ++ [.new boxed kind]
      | none => desks }

/-- What becomes of the deed with these desks. -/
def Deed.outcome (deed : Deed) (desks : List Desk) (boxed : Bool) : Outcome where
  answer := deed.answer
  log := deed.effects.filter (deed.start desks boxed).logs
  next := (deed.start desks boxed).receiveAll deed.effects

/-- Where a deed comes from: nothing happens to the scanner, unless it is dropped, or the scanner
does one step. Only a request brings a new listener, whose number is the one after all desks. -/
inductive Deed.Comes (before : Option Coordinator) (count : Nat) (deed : Deed) : Prop
  | still (heffects : deed.effects = []) (hopens : deed.opens = none)
      (hscanner : ∀ scanner, deed.bench.scanner = some scanner → before = some scanner)
  | step (scanner : Coordinator) (around : Surroundings) (action : Action)
      (hbefore : before = some scanner)
      (heffects : deed.effects = (scanner.step around action).effects)
      (hopens : deed.opens = action.kind?)
      (hscanner : deed.bench.scanner = some (scanner.step around action).next)
      (hlistener : ∀ listener, action.listener? = some listener → listener = ⟨count⟩)

/-- Doing this comes to one and the same deed, whatever the desks are. -/
def Uniform (before : Option Coordinator) (count : Nat) (use : List Desk → Bool → Outcome) : Prop :=
  ∃ deed : Deed, deed.Comes before count ∧
    ∀ desks boxed, desks.length = count → use desks boxed = deed.outcome desks boxed

section Uniform

variable {before : Option Coordinator} {count : Nat}

theorem uniform_still (bench : Bench) (answer : Answer)
    (hscanner : ∀ scanner, bench.scanner = some scanner → before = some scanner) :
    Uniform before count fun desks _ ↦ ⟨answer, [], { bench with desks }⟩ :=
  ⟨⟨answer, none, bench, []⟩, .still rfl rfl hscanner, fun _ _ _ ↦ rfl⟩

theorem uniform_act {scanner : Coordinator} (hscanner : bench.scanner = some scanner)
    {action : Action} (hkind : action.kind? = none) (hlistener : action.listener? = none) :
    Uniform bench.scanner count fun desks _ ↦ { bench with desks }.act scanner action := by
  let reply := scanner.step bench.surroundings action
  refine ⟨⟨(reply.rejection.map Answer.rejected).getD .done, none,
    { bench with scanner := some reply.next }, reply.effects⟩, ?_, fun _ _ _ ↦ rfl⟩
  refine .step scanner bench.surroundings action hscanner rfl hkind.symm rfl fun listener heq ↦ ?_
  rw [hlistener] at heq
  cases heq

theorem uniform_withScanner {use : List Desk → Bool → Coordinator → Outcome}
    (h : ∀ scanner, bench.scanner = some scanner →
      Uniform bench.scanner count fun desks boxed ↦ use desks boxed scanner) :
    Uniform bench.scanner count fun desks boxed ↦
      { bench with desks }.withScanner (use desks boxed) := by
  unfold withScanner
  cases hscanner : bench.scanner with
  | none =>
    exact uniform_still { bench with scanner := none } .noScanner fun _ heq ↦ heq
  | some scanner =>
    have huse := h scanner hscanner
    rw [hscanner] at huse
    exact huse

theorem uniform_request (bench : Bench) {kind : Kind} {action : ListenerId → Action}
    (hkind : ∀ listener, (action listener).kind? = some kind)
    (hlistener : ∀ listener, (action listener).listener? = some listener) :
    Uniform bench.scanner bench.desks.length fun desks boxed ↦
      { bench with desks }.request kind boxed action := by
  refine uniform_withScanner fun scanner hscanner ↦ ?_
  let reply := scanner.step bench.surroundings (action bench.nextListener)
  refine ⟨⟨(reply.rejection.map Answer.rejected).getD .done, some kind,
    { bench with scanner := some reply.next }, reply.effects⟩, ?_, fun desks boxed hlength ↦ ?_⟩
  · refine .step scanner bench.surroundings (action bench.nextListener) hscanner rfl
      (hkind bench.nextListener).symm rfl fun listener heq ↦ ?_
    rw [hlistener] at heq
    exact (Option.some.inj heq).symm
  · have hnext : { bench with desks }.nextListener = bench.nextListener :=
      congrArg ListenerId.mk hlength
    change ({ bench with desks }.withDesk kind boxed).act scanner
      (action { bench with desks }.nextListener) = _
    rw [hnext]
    rfl

theorem uniform_run (bench : Bench) (alarm : AlarmId) :
    Uniform bench.scanner count fun desks _ ↦ { bench with desks }.run alarm := by
  unfold run
  cases hscanner : bench.scanner with
  | none =>
    exact uniform_still { bench with scanner := none } (.flag true) fun _ heq ↦ heq
  | some scanner =>
    let reply := scanner.step bench.surroundings (.runTask alarm)
    refine ⟨⟨.flag true, none, { bench with scanner := some reply.next }, reply.effects⟩, ?_,
      fun _ _ _ ↦ rfl⟩
    exact .step scanner bench.surroundings (.runTask alarm) rfl rfl rfl rfl
      fun _ heq ↦ nomatch heq

theorem uniform_ask (bench : Bench) (answer : Coordinator → Answer) :
    Uniform bench.scanner count fun desks _ ↦ { bench with desks }.ask answer :=
  uniform_withScanner fun scanner _ ↦ uniform_still bench (answer scanner) fun _ heq ↦ heq

end Uniform

/-- A command that closes no mailbox does the same whatever the desks are. -/
theorem exists_deed (bench : Bench) {command : Command} (hclosing : command.isClosing = false) :
    Uniform bench.scanner bench.desks.length fun desks boxed ↦
      { bench with desks }.obey (command.boxing boxed) := by
  have hact {action : Action} (hkind : action.kind? = none)
      (hlistener : action.listener? = none) :
      Uniform bench.scanner bench.desks.length fun desks _ ↦
        { bench with desks }.withScanner (({ bench with desks } : Bench).act · action) :=
    uniform_withScanner fun _ hscanner ↦ uniform_act hscanner hkind hlistener
  cases command with
  | program changes =>
    exact uniform_still (bench.program changes) .done fun _ heq ↦ heq
  | setClock nanos =>
    exact uniform_still { bench with around := { bench.around with nanos } } .done fun _ heq ↦ heq
  | setPolicy backgroundScanning =>
    simp only [Command.boxing, obey]
    cases bench.adjustable with
    | false =>
      exact uniform_still { bench with adjustable := false } .fixedPolicy fun _ heq ↦ heq
    | true =>
      exact uniform_still
        { bench with adjustable := true, around := { bench.around with backgroundScanning } } .done
        fun _ heq ↦ heq
  | fire tag =>
    simp only [Command.boxing, obey]
    cases bench.backlog.fire? tag with
    | none => exact uniform_still bench (.flag false) fun _ heq ↦ heq
    | some fired => exact uniform_run { bench with backlog := fired.2 } fired.1
  | take tag =>
    simp only [Command.boxing, obey]
    cases bench.backlog.take? tag with
    | none => exact uniform_still bench (.held none) fun _ heq ↦ heq
    | some taken =>
      exact uniform_still { bench with backlog := taken.2 } (.held (some taken.1))
        fun _ heq ↦ heq
  | runHeld index =>
    simp only [Command.boxing, obey]
    cases bench.backlog.release? index with
    | none => exact uniform_still bench (.flag false) fun _ heq ↦ heq
    | some released => exact uniform_run { bench with backlog := released.2 } released.1
  | closeMailbox listener => cases hclosing
  | dropScanner =>
    exact uniform_still { bench with scanner := none } .done fun _ heq ↦ nomatch heq
  | startScan request boxed => exact uniform_request bench (fun _ ↦ rfl) fun _ ↦ rfl
  | startBatchedScan request boxed => exact uniform_request bench (fun _ ↦ rfl) fun _ ↦ rfl
  | controlBatchedScan => exact uniform_ask bench _
  | latestBatched => exact uniform_ask bench _
  | startOffload request boxed => exact uniform_request bench (fun _ ↦ rfl) fun _ ↦ rfl
  | resetOffload => exact hact rfl rfl
  | driverStatus status =>
    simp only [Command.boxing, obey]
    refine uniform_withScanner fun scanner hscanner ↦ ?_
    cases Reason.ofStatus status with
    | none => exact uniform_still bench .notAFailure fun _ heq ↦ heq
    | some reason => exact uniform_act hscanner rfl rfl
  | scanResultsAvailable => exact hact rfl rfl
  | offloadResultsAvailable => exact hact rfl rfl
  | offloadFailed => exact hact rfl rfl
  | requiresOffload connected =>
    exact uniform_ask bench fun _ ↦ .flag (bench.around.requiresOffload connected)
  | offloadNetworks => exact uniform_ask bench _
  | latest => exact uniform_ask bench _
  | report limit =>
    simp only [Command.boxing, obey]
    exact uniform_ask bench _
  | cleanup => exact hact rfl rfl
  | capabilities => exact uniform_ask bench _
  | interface => exact uniform_ask bench _

end Bench

end RadioScan
