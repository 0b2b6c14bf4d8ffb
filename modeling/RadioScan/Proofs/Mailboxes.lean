import RadioScan.Proofs.Desks

/-!
Listeners with channels, and the bench around them. Two benches are compared that are alike but for
their desks. If a listener has a channel at the first and hears directly at the second, then what is
read from the channel and what still waits there is what is heard directly
(`Bench.readBy_append_waitingFor`). If readers leave at the first and stay at the second, nothing
else differs (`Bench.Apart.of_leaves`).

Reading is a move of its own, which takes out the oldest events up to some number, so the moves of
a run say how the reading and the commands interleave. Both results are inductions over the moves;
one move at two benches that are alike is one of the three cases of `Bench.Pair`. What carries the
first of them is that benches stay `Bench.Orderly`, so that no listener is told what it could not
pass on. The channels may be any for the second, and any documented ones for the first.
-/

set_option autoImplicit false
set_option relaxedAutoImplicit false

namespace RadioScan

namespace Bench

/-! ### Moves -/

/-- What is done at a bench: a command is obeyed, or somebody reads from a channel. -/
inductive Move
  | obey (command : Command)
  | read (listener : ListenerId) (most : Nat)
  deriving DecidableEq

/-- What came of a move. -/
inductive Record
  | obeyed (command : Command) (answer : Answer) (log : List Effect)
  | read (listener : ListenerId) (events : List Event)
  deriving DecidableEq

def Move.isClosing : Move → Bool
  | .obey command => command.isClosing
  | .read _ _ => false

/-- The move with a request for a direct listener, if it is a request. -/
def Move.unboxed : Move → Move
  | .obey command => .obey (command.boxing false)
  | .read listener most => .read listener most

def Record.isClosing : Record → Bool
  | .obeyed command _ _ => command.isClosing
  | .read _ _ => false

/-- What a listener hears directly. -/
def Record.heardBy (listener : ListenerId) : Record → List Notice
  | .obeyed _ _ log => noticesTo listener log
  | .read _ _ => []

/-- What is read from a listener's channel. -/
def Record.readBy (listener : ListenerId) : Record → List Event
  | .obeyed _ _ _ => []
  | .read other events => if other = listener then events else []

/-- The record without what was read from the channels of some listeners. -/
def Record.without (gone : ListenerId → Bool) : Record → Record
  | .obeyed command answer log => .obeyed command answer log
  | .read listener events => .read listener (if gone listener then [] else events)

def heardBy (listener : ListenerId) (records : List Record) : List Notice :=
  records.flatMap (Record.heardBy listener)

def readBy (listener : ListenerId) (records : List Record) : List Event :=
  records.flatMap (Record.readBy listener)

theorem Command.boxing_isBoxed (command : Command) : command.boxing command.isBoxed = command := by
  cases command <;> rfl

theorem Command.boxing_boxing (command : Command) (boxed boxed' : Bool) :
    (command.boxing boxed').boxing boxed = command.boxing boxed := by
  cases command <;> rfl

theorem Command.isClosing_boxing (command : Command) (boxed : Bool) :
    (command.boxing boxed).isClosing = command.isClosing := by
  cases command <;> rfl

theorem Command.eq_closeMailbox_of_isClosing {command : Command} (h : command.isClosing = true) :
    ∃ listener, command = .closeMailbox listener := by
  cases command with
  | closeMailbox listener => exact ⟨listener, rfl⟩
  | _ => cases h

theorem readBy_cons (listener : ListenerId) (record : Record) (rest : List Record) :
    readBy listener (record :: rest) = record.readBy listener ++ readBy listener rest :=
  List.flatMap_cons

theorem heardBy_cons (listener : ListenerId) (record : Record) (rest : List Record) :
    heardBy listener (record :: rest) = record.heardBy listener ++ heardBy listener rest :=
  List.flatMap_cons

section Benches

variable [Channels] {contents : Channels.Contents}

/-- Applies a change to the desk of one listener. -/
def changeDesk (bench : Bench) (listener : ListenerId) (change : Desk → Desk) : Bench :=
  { bench with desks := bench.desks.modify listener.number change }

def perform (bench : Bench) : Move → Record × Bench
  | .obey command =>
    let outcome := bench.obey command
    (.obeyed command outcome.answer outcome.log, outcome.next)
  | .read listener most =>
    (.read listener (((bench.desk? listener).map fun desk ↦ (desk.collect most).1).getD []),
      bench.changeDesk listener fun desk ↦ (desk.collect most).2)

/-- What came of several moves, one after the other. -/
def records (bench : Bench) : List Move → List Record
  | [] => []
  | move :: rest => (bench.perform move).1 :: (bench.perform move).2.records rest

/-- The bench after several moves. -/
def after (bench : Bench) : List Move → Bench
  | [] => bench
  | move :: rest => (bench.perform move).2.after rest

/-- What waits in the channel of a listener. -/
def waitingFor (contents : Channels.Contents) (bench : Bench) (listener : ListenerId) :
    List Event :=
  ((bench.desk? listener).map (Desk.waiting contents)).getD []

/-! ### Benches that are alike -/

variable {first second : Bench} {listener : ListenerId} {move other : Move}

theorem desk?_changeDesk (bench : Bench) (changed listener : ListenerId) (change : Desk → Desk) :
    (bench.changeDesk changed change).desk? listener =
      if changed = listener then (bench.desk? listener).map change else bench.desk? listener := by
  by_cases hchanged : changed = listener
  · subst hchanged
    simp [desk?, changeDesk]
  · have hnumber : changed.number ≠ listener.number :=
      fun heq ↦ hchanged (congrArg ListenerId.mk heq)
    simp [desk?, changeDesk, hchanged, hnumber]

/-- The benches are the same but for what is at their desks. -/
structure Alike (first second : Bench) : Prop where
  scanner_eq : first.scanner = second.scanner
  around_eq : first.around = second.around
  adjustable_eq : first.adjustable = second.adjustable
  backlog_eq : first.backlog = second.backlog
  length_eq : first.desks.length = second.desks.length

theorem Alike.refl (bench : Bench) : Alike bench bench := ⟨rfl, rfl, rfl, rfl, rfl⟩

theorem Alike.with_desks (h : Alike first second) :
    { first with desks := second.desks } = second := by
  obtain ⟨scanner, around, adjustable, backlog, desks⟩ := second
  obtain ⟨rfl, rfl, rfl, rfl, -⟩ := h
  rfl

theorem Alike.receive (h : Alike first second) (effect : Effect) :
    Alike (first.receive effect) (second.receive effect) := by
  obtain ⟨hscanner, haround, hadjustable, hbacklog, hlength⟩ := h
  cases effect with
  | driver interface call => exact ⟨hscanner, haround, hadjustable, hbacklog, hlength⟩
  | scheduler call =>
    exact ⟨hscanner, haround, hadjustable, congrArg (·.receive call) hbacklog, hlength⟩
  | notify listener notice =>
    exact ⟨hscanner, haround, hadjustable, hbacklog, by simpa [Bench.receive] using hlength⟩

theorem Alike.receiveAll (h : Alike first second) (effects : List Effect) :
    Alike (first.receiveAll effects) (second.receiveAll effects) := by
  induction effects generalizing first second with
  | nil => exact h
  | cons effect rest ih => exact ih (h.receive effect)

theorem Alike.changeDesk (h : Alike first second) (listener : ListenerId) (change : Desk → Desk) :
    Alike (first.changeDesk listener change) (second.changeDesk listener change) := by
  obtain ⟨hscanner, haround, hadjustable, hbacklog, hlength⟩ := h
  exact ⟨hscanner, haround, hadjustable, hbacklog, by simpa [Bench.changeDesk] using hlength⟩

theorem Deed.desks_start (deed : Deed) (desks : List Desk) (boxed : Bool) :
    (deed.start desks boxed).desks = desks ++ (deed.opens.map (Desk.new boxed)).toList := by
  unfold Deed.start
  cases deed.opens with
  | none => exact (List.append_nil desks).symm
  | some kind => rfl

theorem Alike.start (h : Alike first second) (deed : Deed) (boxed boxed' : Bool) :
    Alike (deed.start first.desks boxed) (deed.start second.desks boxed') := by
  refine ⟨rfl, rfl, rfl, rfl, ?_⟩
  rw [Deed.desks_start, Deed.desks_start, List.length_append, List.length_append, h.length_eq]
  cases deed.opens <;> rfl

theorem Alike.desk?_eq_none_iff (h : Alike first second) :
    first.desk? listener = none ↔ second.desk? listener = none := by
  rw [desk?, desk?, List.getElem?_eq_none_iff, List.getElem?_eq_none_iff, h.length_eq]

/-- Two moves at benches that are alike: the same deed, the same closing, or the same reading. -/
inductive Pair (first second : Bench) : Move → Move → Prop
  | deed (deed : Deed) {command command' : Command}
      (hcomes : deed.Comes first.scanner first.desks.length)
      (hfirst : first.obey command = deed.outcome first.desks command.isBoxed)
      (hsecond : second.obey command' = deed.outcome second.desks command'.isBoxed) :
      Pair first second (.obey command) (.obey command')
  | close (listener : Nat) :
      Pair first second (.obey (.closeMailbox listener)) (.obey (.closeMailbox listener))
  | read (listener : ListenerId) (most : Nat) :
      Pair first second (.read listener most) (.read listener most)

theorem Alike.pair (h : Alike first second) (hmove : move.unboxed = other.unboxed) :
    Pair first second move other := by
  cases move with
  | read listener most =>
    cases other with
    | read =>
      obtain ⟨rfl, rfl⟩ := Move.read.inj hmove
      exact .read _ _
    | obey => cases hmove
  | obey command =>
    cases other with
    | read => cases hmove
    | obey command' =>
      have hcommand : command.boxing false = command'.boxing false := Move.obey.inj hmove
      by_cases hclosing : command.isClosing = true
      · have hclosing' : command'.isClosing = true := by
          rw [← Command.isClosing_boxing, ← hcommand, Command.isClosing_boxing, hclosing]
        obtain ⟨listener, rfl⟩ := Command.eq_closeMailbox_of_isClosing hclosing
        obtain ⟨listener', rfl⟩ := Command.eq_closeMailbox_of_isClosing hclosing'
        obtain rfl := Command.closeMailbox.inj hcommand
        exact .close listener
      · obtain ⟨deed, hcomes, hdeed⟩ := exists_deed first (eq_false_of_ne_true hclosing)
        have hother : command.boxing command'.isBoxed = command' := by
          rw [← Command.boxing_boxing, hcommand, Command.boxing_boxing, Command.boxing_isBoxed]
        have hfirst := hdeed first.desks command.isBoxed rfl
        have hsecond := hdeed second.desks command'.isBoxed h.length_eq.symm
        simp only [Command.boxing_isBoxed] at hfirst
        simp only [h.with_desks, hother] at hsecond
        exact .deed deed hcomes hfirst hsecond

/-! ### What a move does to a desk -/

theorem perform_close (bench : Bench) (listener : Nat) :
    (bench.perform (.obey (.closeMailbox listener))).2 =
      bench.changeDesk ⟨listener⟩ Desk.close := rfl

theorem desk?_start (deed : Deed) (desks : List Desk) (boxed : Bool) (listener : ListenerId) :
    (deed.start desks boxed).desk? listener =
      if listener.number = desks.length then deed.opens.map (Desk.new boxed)
      else desks[listener.number]? := by
  rw [desk?, Deed.desks_start]
  rcases Nat.lt_trichotomy listener.number desks.length with hlt | heq | hgt
  · rw [List.getElem?_append_left hlt, if_neg (Nat.ne_of_lt hlt)]
  · rw [if_pos heq, heq, List.getElem?_append_right (Nat.le_refl _), Nat.sub_self]
    cases deed.opens <;> rfl
  · rw [if_neg (Nat.ne_of_gt hgt), List.getElem?_eq_none_iff.mpr (Nat.le_of_lt hgt),
      List.getElem?_eq_none_iff]
    cases deed.opens <;> simp <;> omega

theorem desk?_start_of_some {bench : Bench} {desk : Desk} (hdesk : bench.desk? listener = some desk)
    (deed : Deed) (boxed : Bool) : (deed.start bench.desks boxed).desk? listener = some desk := by
  have hlt : listener.number < bench.desks.length := (List.getElem?_eq_some_iff.mp hdesk).1
  rw [desk?_start, if_neg (Nat.ne_of_lt hlt)]
  exact hdesk

theorem waitingFor_start (documented : contents.Documented) (bench : Bench) (deed : Deed)
    (boxed : Bool) (listener : ListenerId) :
    (deed.start bench.desks boxed).waitingFor contents listener =
      bench.waitingFor contents listener := by
  unfold waitingFor
  rw [desk?_start, desk?]
  split
  · next hnew =>
    rw [hnew, List.getElem?_eq_none_iff.mpr (Nat.le_refl _)]
    cases deed.opens with
    | none => rfl
    | some kind => exact (Desk.new_spec documented boxed kind).1
  · rfl

theorem waitingFor_changeDesk (bench : Bench) (changed listener : ListenerId)
    (change : Desk → Desk) : (bench.changeDesk changed change).waitingFor contents listener =
      if changed = listener then
        ((bench.desk? listener).map (Desk.waiting contents ∘ change)).getD []
      else bench.waitingFor contents listener := by
  unfold waitingFor
  rw [desk?_changeDesk]
  split
  · rw [Option.map_map]
  · rfl

/-- A desk stays of its kind, and once nobody reads from it, nobody ever will. -/
theorem desk?_perform {bench : Bench} {desk : Desk} (hdesk : bench.desk? listener = some desk)
    (move : Move) : ∃ next, (bench.perform move).2.desk? listener = some next ∧
      next.isDirect = desk.isDirect ∧ (next.isRead = true → desk.isRead = true) := by
  cases (Alike.refl bench).pair (rfl : move.unboxed = move.unboxed) with
  | @deed deed command _ _ hfirst _ =>
    have hstart := desk?_start_of_some hdesk deed command.isBoxed
    refine ⟨desk.leaveAll (noticesTo listener deed.effects), ?_, by simp, by simp⟩
    simp only [perform, hfirst, Deed.outcome, desk?_receiveAll, hstart, Option.map_some]
  | close closed =>
    rw [perform_close, desk?_changeDesk, hdesk]
    split
    · exact ⟨desk.close, rfl, by simp, by simp⟩
    · exact ⟨desk, rfl, rfl, id⟩
  | read reader most =>
    simp only [perform, desk?_changeDesk, hdesk]
    split
    · exact ⟨(desk.collect most).2, rfl, by simp, by simp⟩
    · exact ⟨desk, rfl, rfl, id⟩

theorem desk?_after {bench : Bench} {desk : Desk} (hdesk : bench.desk? listener = some desk)
    (moves : List Move) : ∃ last, (bench.after moves).desk? listener = some last ∧
      last.isDirect = desk.isDirect ∧ (last.isRead = true → desk.isRead = true) := by
  induction moves generalizing bench desk with
  | nil => exact ⟨desk, hdesk, rfl, id⟩
  | cons move rest ih =>
    obtain ⟨next, hnext, hdirect, hread⟩ := desk?_perform hdesk move
    obtain ⟨last, hlast, hdirect', hread'⟩ := ih hnext
    exact ⟨last, hlast, hdirect'.trans hdirect, hread ∘ hread'⟩

/-- A listener that hears directly in the end has always done so. -/
theorem isDirect_of_after {bench : Bench} {moves : List Move}
    (hdirect : ∀ desk ∈ (bench.after moves).desk? listener, desk.isDirect = true) :
    ∀ desk ∈ bench.desk? listener, desk.isDirect = true := by
  intro desk hdesk
  obtain ⟨last, hlast, heq, -⟩ := desk?_after hdesk moves
  exact heq ▸ hdirect last hlast

/-- A channel that has a reader in the end has always had one. -/
theorem isRead_of_after {bench : Bench} {moves : List Move}
    (hread : ∀ desk ∈ (bench.after moves).desk? listener, desk.isRead = true) :
    ∀ desk ∈ bench.desk? listener, desk.isRead = true := by
  intro desk hdesk
  obtain ⟨last, hlast, -, himplies⟩ := desk?_after hdesk moves
  exact himplies (hread last hlast)

/-! ### Orderly benches -/

/-- The kind of a listener. -/
def kind? (bench : Bench) (listener : ListenerId) : Option Kind :=
  (bench.desk? listener).map Desk.kind

/-- Whoever has a request in the scanner has a desk of its kind, and no channel with a reader has
lost its receiver. -/
structure Orderly (contents : Channels.Contents) (bench : Bench) : Prop where
  suits : ∀ scanner, bench.scanner = some scanner → scanner.Suits bench.kind?
  isSound : ∀ listener desk, bench.desk? listener = some desk → desk.IsSound contents

namespace Orderly

variable {bench : Bench} {deed : Deed}

theorem fresh (contents : Channels.Contents) (radio : Radio) (config : Config)
    (policy : Option Bool) (nanos : Int) :
    Orderly contents (Bench.fresh radio config policy nanos) where
  suits := by
    rintro scanner heq
    obtain rfl := Option.some.inj heq
    exact .fresh _ _ _
  isSound := fun _ _ hdesk ↦ nomatch hdesk

theorem changeDesk (horderly : Orderly contents bench) (changed : ListenerId)
    {change : Desk → Desk} (hkind : ∀ desk, (change desk).kind = desk.kind)
    (hsound : ∀ desk : Desk, desk.IsSound contents → (change desk).IsSound contents) :
    Orderly contents (bench.changeDesk changed change) where
  suits := by
    have hkinds : (bench.changeDesk changed change).kind? = bench.kind? := by
      funext listener
      unfold kind?
      rw [desk?_changeDesk]
      split
      · rw [Option.map_map]
        exact Option.map_congr fun desk _ ↦ hkind desk
      · rfl
    rw [hkinds]
    exact horderly.suits
  isSound := by
    intro listener desk hdesk
    rw [desk?_changeDesk] at hdesk
    split at hdesk
    · obtain ⟨old, hold, rfl⟩ := Option.map_eq_some_iff.mp hdesk
      exact hsound old (horderly.isSound listener old hold)
    · exact horderly.isSound listener desk hdesk

theorem isSound_start (documented : contents.Documented) (horderly : Orderly contents bench)
    (deed : Deed) (boxed : Bool) (listener : ListenerId) (desk : Desk)
    (hdesk : (deed.start bench.desks boxed).desk? listener = some desk) :
    desk.IsSound contents := by
  rw [desk?_start] at hdesk
  split at hdesk
  · obtain ⟨kind, -, rfl⟩ := Option.map_eq_some_iff.mp hdesk
    exact (Desk.new_spec documented boxed kind).2
  · exact horderly.isSound listener desk hdesk

/-- The desk of the new listener is of its kind, so the scanner suits the desks throughout. -/
theorem suits_start (horderly : Orderly contents bench)
    (hcomes : deed.Comes bench.scanner bench.desks.length) (boxed : Bool) :
    let start := deed.start bench.desks boxed
    (∀ scanner, start.scanner = some scanner → scanner.Suits start.kind?) ∧
      ∀ listener notice, .notify listener notice ∈ deed.effects →
        start.kind? listener = some notice.kind := by
  intro start
  have hkept (listener : ListenerId) (kind : Kind) (hkind : bench.kind? listener = some kind) :
      start.kind? listener = some kind := by
    obtain ⟨desk, hdesk, rfl⟩ := Option.map_eq_some_iff.mp hkind
    rw [kind?, desk?_start_of_some hdesk]
    rfl
  cases hcomes with
  | still heffects _ hscanner =>
    refine ⟨fun scanner heq ↦ ?_, fun listener notice hmem ↦ ?_⟩
    · exact (horderly.suits scanner (hscanner scanner heq)).mono hkept
    · rw [heffects] at hmem
      cases hmem
  | step scanner around action hbefore heffects hopens hscanner hlistener =>
    have hsuits := (horderly.suits scanner hbefore).mono hkept
    have haction (listener : ListenerId) (heq : action.listener? = some listener) :
        start.kind? listener = action.kind? := by
      rw [hlistener listener heq, kind?, desk?_start, if_pos rfl, Option.map_map, ← hopens]
      simp [Function.comp_def]
    refine ⟨fun next heq ↦ ?_, fun listener notice hmem ↦ ?_⟩
    · obtain rfl := Option.some.inj (hscanner.symm.trans heq)
      exact hsuits.next_step around haction
    · rw [heffects] at hmem
      exact hsuits.kind_of_mem haction hmem

/-- What a deed leaves at a desk is of the desk's kind. -/
theorem kind_eq (horderly : Orderly contents bench)
    (hcomes : deed.Comes bench.scanner bench.desks.length) {boxed : Bool} {desk : Desk}
    (hdesk : (deed.start bench.desks boxed).desk? listener = some desk) :
    ∀ notice ∈ noticesTo listener deed.effects, desk.kind = notice.kind := by
  intro notice hmem
  have hkind := (horderly.suits_start hcomes boxed).2 listener notice (mem_noticesTo.mp hmem)
  rw [kind?, hdesk] at hkind
  exact Option.some.inj hkind

theorem receiveAll (documented : contents.Documented) (horderly : Orderly contents bench)
    (hcomes : deed.Comes bench.scanner bench.desks.length) (boxed : Bool) :
    Orderly contents ((deed.start bench.desks boxed).receiveAll deed.effects) where
  suits := by
    have hkinds : ((deed.start bench.desks boxed).receiveAll deed.effects).kind? =
        (deed.start bench.desks boxed).kind? := by
      funext listener
      unfold kind?
      rw [desk?_receiveAll, Option.map_map]
      exact Option.map_congr fun desk _ ↦ desk.kind_leaveAll _
    rw [hkinds, scanner_receiveAll]
    exact (horderly.suits_start hcomes boxed).1
  isSound := by
    intro listener desk hdesk
    rw [desk?_receiveAll] at hdesk
    obtain ⟨old, hold, rfl⟩ := Option.map_eq_some_iff.mp hdesk
    have hsound := horderly.isSound_start documented deed boxed listener old hold
    exact (Desk.leaveAll_spec documented hsound (horderly.kind_eq hcomes hold)).2

theorem perform (documented : contents.Documented) (horderly : Orderly contents bench)
    (move : Move) : Orderly contents (bench.perform move).2 := by
  cases (Alike.refl bench).pair (rfl : move.unboxed = move.unboxed) with
  | @deed deed command _ hcomes hfirst _ =>
    simp only [Bench.perform, hfirst, Deed.outcome]
    exact horderly.receiveAll documented hcomes command.isBoxed
  | close closed =>
    exact horderly.changeDesk ⟨closed⟩ Desk.kind_close fun desk _ ↦ desk.isSound_close
  | read reader most =>
    exact horderly.changeDesk reader (Desk.kind_collect most) fun desk hsound ↦
      (Desk.collect_spec documented hsound most).2

end Orderly

/-! ### Channels against direct listeners -/

/-- What comes to wait for a listener is what a direct listener hears in its place. -/
theorem Alike.waitingFor_receiveAll (documented : contents.Documented) (h : Alike first second)
    {effects : List Effect}
    (hsound : ∀ desk ∈ first.desk? listener, desk.IsSound contents)
    (hkinds : ∀ desk ∈ first.desk? listener, ∀ notice ∈ noticesTo listener effects,
      desk.kind = notice.kind)
    (hread : ∀ desk ∈ first.desk? listener, desk.isRead = true)
    (hdirect : ∀ desk ∈ second.desk? listener, desk.isDirect = true) :
    ((first.receiveAll effects).waitingFor contents listener).map Event.notice =
      (first.waitingFor contents listener).map Event.notice ++
        noticesTo listener (effects.filter second.logs) := by
  rw [waitingFor, waitingFor, desk?_receiveAll, noticesTo_filter_logs]
  cases hdesk : first.desk? listener with
  | none =>
    rw [h.desk?_eq_none_iff.mp hdesk]
    rfl
  | some desk =>
    obtain ⟨desk', hdesk'⟩ := Option.ne_none_iff_exists'.mp
      (mt h.desk?_eq_none_iff.mpr (hdesk ▸ Option.some_ne_none desk))
    have hwaiting := (Desk.leaveAll_spec documented (hsound desk hdesk) (hkinds desk hdesk)).1
    simpa [hdesk', hread desk hdesk, hdirect desk' hdesk'] using hwaiting

theorem Pair.alike (halike : Alike first second) (hpair : Pair first second move other) :
    Alike (first.perform move).2 (second.perform other).2 := by
  cases hpair with
  | deed deed _ hfirst hsecond =>
    simp only [perform, hfirst, hsecond]
    exact (halike.start deed _ _).receiveAll deed.effects
  | close closed => exact halike.changeDesk ⟨closed⟩ Desk.close
  | read reader most => exact halike.changeDesk reader fun desk ↦ (desk.collect most).2

/-- What is read in a move, and what waits afterwards, is what waited before and what a direct
listener hears in its place. -/
theorem Pair.conserves (documented : contents.Documented) (horderly : Orderly contents first)
    (halike : Alike first second) (hpair : Pair first second move other)
    (hread : ∀ desk ∈ (first.perform move).2.desk? listener, desk.isRead = true)
    (hdirect : ∀ desk ∈ (second.perform other).2.desk? listener, desk.isDirect = true) :
    ((first.perform move).1.readBy listener ++
        (first.perform move).2.waitingFor contents listener).map Event.notice =
      (first.waitingFor contents listener).map Event.notice ++
        (second.perform other).1.heardBy listener := by
  cases hpair with
  | @deed deed command command' hcomes hfirst hsecond =>
    have hstart := halike.start deed command.isBoxed command'.isBoxed
    simp only [perform, hfirst, hsecond, Deed.outcome, desk?_receiveAll] at hread hdirect
    simp only [perform, hfirst, hsecond, Deed.outcome, Record.readBy, Record.heardBy,
      List.nil_append]
    rw [hstart.waitingFor_receiveAll documented, waitingFor_start documented]
    · exact horderly.isSound_start documented deed command.isBoxed listener
    · exact fun desk hdesk ↦ horderly.kind_eq hcomes hdesk
    · intro desk hdesk
      rw [← desk.isRead_leaveAll]
      exact hread _ (Option.mem_map_of_mem _ hdesk)
    · intro desk hdesk
      rw [← desk.isDirect_leaveAll]
      exact hdirect _ (Option.mem_map_of_mem _ hdesk)
  | close closed =>
    rw [perform_close, desk?_changeDesk] at hread
    rw [perform_close, waitingFor_changeDesk]
    simp only [perform, Record.readBy, Record.heardBy, obey, noticesTo_nil, List.append_nil,
      List.nil_append]
    split
    · next hclosed =>
      rw [if_pos hclosed] at hread
      cases hdesk : first.desk? listener with
      | none => simp [waitingFor, hdesk]
      | some desk => simp [hdesk] at hread
    · rfl
  | read reader most =>
    simp only [perform, Record.readBy, Record.heardBy, List.append_nil, waitingFor_changeDesk]
    split
    · next hreader =>
      subst hreader
      unfold waitingFor
      cases hdesk : first.desk? reader with
      | none => rfl
      | some desk =>
        have hsound := horderly.isSound reader desk hdesk
        exact congrArg (List.map Event.notice) (Desk.collect_spec documented hsound most).1
    · rfl

/-- What is read during several moves, and what waits afterwards, is what waited before and what a
direct listener hears in its place. -/
theorem readBy_append_waitingFor (documented : contents.Documented) {moves others : List Move}
    (horderly : Orderly contents first) (halike : Alike first second)
    (hmoves : moves.map Move.unboxed = others.map Move.unboxed)
    (hread : ∀ desk ∈ (first.after moves).desk? listener, desk.isRead = true)
    (hdirect : ∀ desk ∈ (second.after others).desk? listener, desk.isDirect = true) :
    (readBy listener (first.records moves) ++
        (first.after moves).waitingFor contents listener).map Event.notice =
      (first.waitingFor contents listener).map Event.notice ++
        heardBy listener (second.records others) := by
  induction moves generalizing first second others with
  | nil =>
    obtain rfl := List.map_eq_nil_iff.mp hmoves.symm
    exact (List.append_nil _).symm
  | cons move rest ih =>
    cases others with
    | nil => cases hmoves
    | cons other others =>
      obtain ⟨hmove, hrest⟩ := List.cons.inj hmoves
      have hpair := halike.pair hmove
      have hnow := hpair.conserves documented horderly halike (isRead_of_after hread)
        (isDirect_of_after hdirect)
      have hlater := ih (horderly.perform documented move) (hpair.alike halike) hrest hread hdirect
      rw [records, records, readBy_cons, heardBy_cons, List.append_assoc, List.map_append]
      refine (congrArg _ hlater).trans ?_
      rw [← List.append_assoc, ← List.map_append, hnow, List.append_assoc]

/-- Nothing is read from a channel without a reader. -/
theorem readBy_perform_eq_nil {bench : Bench} (move : Move) {next : Desk}
    (hnext : (bench.perform move).2.desk? listener = some next) (hread : next.isRead = false) :
    (bench.perform move).1.readBy listener = [] := by
  cases move with
  | obey command => rfl
  | read reader most =>
    simp only [perform, desk?_changeDesk, Record.readBy] at hnext ⊢
    split at hnext
    · next hreader =>
      subst hreader
      obtain ⟨desk, hdesk, rfl⟩ := Option.map_eq_some_iff.mp hnext
      rw [Desk.isRead_collect] at hread
      simp [hdesk, Desk.collect_eq_nil hread]
    · next hreader => exact if_neg hreader

theorem readBy_eq_nil {bench : Bench} {desk : Desk} (hdesk : bench.desk? listener = some desk)
    (hread : desk.isRead = false) (moves : List Move) :
    readBy listener (bench.records moves) = [] := by
  induction moves generalizing bench desk with
  | nil => rfl
  | cons move rest ih =>
    obtain ⟨next, hnext, -, himplies⟩ := desk?_perform hdesk move
    have hread' : next.isRead = false := eq_false_of_ne_true fun htrue ↦ by
      rw [himplies htrue] at hread
      cases hread
    rw [records, readBy_cons, readBy_perform_eq_nil move hnext hread', List.nil_append]
    exact ih hnext hread'

/-- Whether or not the reader leaves, what is read comes first of what a direct listener hears. -/
theorem readBy_isPrefix (documented : contents.Documented) {moves others : List Move}
    (horderly : Orderly contents first) (halike : Alike first second)
    (hmoves : moves.map Move.unboxed = others.map Move.unboxed)
    (hdirect : ∀ desk ∈ (second.after others).desk? listener, desk.isDirect = true) :
    (readBy listener (first.records moves)).map Event.notice <+:
      (first.waitingFor contents listener).map Event.notice ++
        heardBy listener (second.records others) := by
  induction moves generalizing first second others with
  | nil => exact List.nil_prefix
  | cons move rest ih =>
    cases others with
    | nil => cases hmoves
    | cons other others =>
      obtain ⟨hmove, hrest⟩ := List.cons.inj hmoves
      have hpair := halike.pair hmove
      rw [records, records, readBy_cons, heardBy_cons]
      by_cases hread : ∀ desk ∈ (first.perform move).2.desk? listener, desk.isRead = true
      · have hnow := hpair.conserves documented horderly halike hread (isDirect_of_after hdirect)
        have hlater := ih (horderly.perform documented move) (hpair.alike halike) hrest hdirect
        rw [← List.append_assoc, ← hnow, List.map_append, List.map_append, List.append_assoc]
        exact (List.prefix_append_right_inj _).mpr hlater
      · -- The reader has left, so nothing more is read.
        obtain ⟨next, hunread⟩ := Classical.not_forall.mp hread
        obtain ⟨hnext, hread⟩ := Classical.not_imp.mp hunread
        have hread' : next.isRead = false := eq_false_of_ne_true hread
        rw [readBy_perform_eq_nil move hnext hread', readBy_eq_nil hnext hread' rest]
        exact List.nil_prefix

/-! ### Readers that leave -/

/-- The moves have some more closings, of mailboxes of listeners that are gone. -/
inductive Leaves (gone : ListenerId → Bool) : List Move → List Move → Prop
  | nil : Leaves gone [] []
  | keep (move : Move) {moves others : List Move} (hrest : Leaves gone moves others) :
      Leaves gone (move :: moves) (move :: others)
  | leave (listener : Nat) {moves others : List Move} (hgone : gone ⟨listener⟩ = true)
      (hrest : Leaves gone moves others) :
      Leaves gone (.obey (.closeMailbox listener) :: moves) others

/-- The benches are the same but for the mailboxes of listeners that are gone. -/
structure Apart (gone : ListenerId → Bool) (first second : Bench) : Prop extends
    Alike first second where
  isDirect_eq : ∀ listener,
    (first.desk? listener).map Desk.isDirect = (second.desk? listener).map Desk.isDirect
  desk?_eq : ∀ listener, gone listener = false → first.desk? listener = second.desk? listener

variable {gone : ListenerId → Bool}

theorem Apart.refl (gone : ListenerId → Bool) (bench : Bench) : Apart gone bench bench :=
  ⟨.refl bench, fun _ ↦ rfl, fun _ _ ↦ rfl⟩

theorem Apart.start (h : Apart gone first second) (deed : Deed) (boxed : Bool) :
    Apart gone (deed.start first.desks boxed) (deed.start second.desks boxed) := by
  refine ⟨h.toAlike.start deed boxed boxed, fun listener ↦ ?_, fun listener hgone ↦ ?_⟩
  · rw [desk?_start, desk?_start, h.length_eq]
    split
    · rfl
    · exact h.isDirect_eq listener
  · rw [desk?_start, desk?_start, h.length_eq]
    split
    · rfl
    · exact h.desk?_eq listener hgone

theorem Apart.receiveAll (h : Apart gone first second) (effects : List Effect) :
    Apart gone (first.receiveAll effects) (second.receiveAll effects) := by
  refine ⟨h.toAlike.receiveAll effects, fun listener ↦ ?_, fun listener hgone ↦ ?_⟩
  · simpa [desk?_receiveAll, Function.comp_def] using h.isDirect_eq listener
  · rw [desk?_receiveAll, desk?_receiveAll, h.desk?_eq listener hgone]

theorem Apart.logs_eq (h : Apart gone first second) : first.logs = second.logs := by
  funext effect
  cases effect with
  | driver interface call => rfl
  | scheduler call => rfl
  | notify listener notice =>
    have hany := congrArg (Option.any id) (h.isDirect_eq listener)
    simpa only [logs, Option.any_map, id] using hany

/-- A change to one desk that keeps its kind, made at both benches. -/
theorem Apart.changeDesk (h : Apart gone first second) (changed : ListenerId)
    {change : Desk → Desk} (hchange : ∀ desk, (change desk).isDirect = desk.isDirect) :
    Apart gone (first.changeDesk changed change) (second.changeDesk changed change) := by
  refine ⟨h.toAlike.changeDesk changed change, fun listener ↦ ?_, fun listener hgone ↦ ?_⟩
  · rw [desk?_changeDesk, desk?_changeDesk]
    split
    · simpa [Function.comp_def, hchange] using h.isDirect_eq listener
    · exact h.isDirect_eq listener
  · rw [desk?_changeDesk, desk?_changeDesk, h.desk?_eq listener hgone]

/-- A reader that leaves only one of the benches is gone. -/
theorem Apart.leave (h : Apart gone first second) {listener : ListenerId}
    (hgone : gone listener = true) : Apart gone (first.changeDesk listener Desk.close) second := by
  obtain ⟨⟨hscanner, haround, hadjustable, hbacklog, hlength⟩, hdirect, hdesk⟩ := h
  refine ⟨⟨hscanner, haround, hadjustable, hbacklog, ?_⟩, fun other ↦ ?_, fun other hother ↦ ?_⟩
  · simpa [Bench.changeDesk] using hlength
  · rw [desk?_changeDesk]
    split
    · simpa [Function.comp_def] using hdirect other
    · exact hdirect other
  · have hne : listener ≠ other := by
      rintro rfl
      rw [hgone] at hother
      cases hother
    rw [desk?_changeDesk, if_neg hne, hdesk other hother]

/-- The same move at benches that are apart comes to the same, but for what is read from the
mailboxes of listeners that are gone. -/
theorem Apart.perform (h : Apart gone first second) (move : Move) :
    Apart gone (first.perform move).2 (second.perform move).2 ∧
      (move.isClosing = false →
        (first.perform move).1.without gone = (second.perform move).1.without gone) := by
  cases h.toAlike.pair (rfl : move.unboxed = move.unboxed) with
  | @deed deed command _ _ hfirst hsecond =>
    have hstart := h.start deed command.isBoxed
    simp only [Bench.perform, hfirst, hsecond, Deed.outcome, hstart.logs_eq]
    exact ⟨hstart.receiveAll deed.effects, fun _ ↦ trivial⟩
  | close closed =>
    exact ⟨h.changeDesk ⟨closed⟩ Desk.isDirect_close, fun hclosing ↦ nomatch hclosing⟩
  | read reader most =>
    refine ⟨h.changeDesk reader (Desk.isDirect_collect most), fun _ ↦ ?_⟩
    simp only [Bench.perform, Record.without]
    cases hgone : gone reader with
    | true => rfl
    | false => rw [h.desk?_eq reader hgone]

/-- The records but for those of closings, and but for what is read from the mailboxes of listeners
that are gone. -/
def view (gone : ListenerId → Bool) (records : List Record) : List Record :=
  (records.filter fun record ↦ !record.isClosing).map (Record.without gone)

theorem isClosing_perform (bench : Bench) (move : Move) :
    (bench.perform move).1.isClosing = move.isClosing := by
  cases move <;> rfl

/-- Readers that leave make no difference to anything but their own mailboxes. -/
theorem Apart.of_leaves {moves others : List Move} (hleaves : Leaves gone moves others)
    (h : Apart gone first second) :
    view gone (first.records moves) = view gone (second.records others) ∧
      Apart gone (first.after moves) (second.after others) := by
  induction hleaves generalizing first second with
  | nil => exact ⟨rfl, h⟩
  | keep move _ ih =>
    obtain ⟨hnext, hrecord⟩ := h.perform move
    obtain ⟨hview, hlast⟩ := ih hnext
    refine ⟨?_, hlast⟩
    unfold view at hview ⊢
    simp only [records, List.filter_cons, isClosing_perform]
    cases hclosing : move.isClosing with
    | true => simpa using hview
    | false => simp [hrecord hclosing, hview]
  | leave listener hgone _ ih => exact ih (h.leave hgone)

/-! ### Runs from a fresh bench -/

/-- What is read from a listener's channel in the first run comes first of what the listener hears
directly in the second. If the channel still has its reader, then what waits there is the rest. -/
structure Faithful (contents : Channels.Contents) (bench : Bench) (listener : ListenerId)
    (moves others : List Move) : Prop where
  isPrefix : (readBy listener (bench.records moves)).map Event.notice <+:
    heardBy listener (bench.records others)
  eq_of_isRead : ((bench.after moves).desk? listener).any Desk.isRead = true →
    (readBy listener (bench.records moves) ++
        (bench.after moves).waitingFor contents listener).map Event.notice =
      heardBy listener (bench.records others)

theorem faithful_of_desks_eq_nil (documented : contents.Documented) {bench : Bench}
    (horderly : Orderly contents bench) (hdesks : bench.desks = []) {moves others : List Move}
    (hmoves : moves.map Move.unboxed = others.map Move.unboxed)
    (hdirect : ((bench.after others).desk? listener).any Desk.isDirect = true) :
    Faithful contents bench listener moves others := by
  have hwaiting : bench.waitingFor contents listener = [] := by simp [waitingFor, desk?, hdesks]
  have hdirect' : ∀ desk ∈ (bench.after others).desk? listener, desk.isDirect = true := by
    intro desk hdesk
    rw [hdesk] at hdirect
    exact hdirect
  refine ⟨?_, fun hread ↦ ?_⟩
  · have hprefix := readBy_isPrefix documented horderly (.refl bench) hmoves hdirect'
    rwa [hwaiting, List.map_nil, List.nil_append] at hprefix
  · have hread' : ∀ desk ∈ (bench.after moves).desk? listener, desk.isRead = true := by
      intro desk hdesk
      rw [hdesk] at hread
      exact hread
    have hconserved :=
      readBy_append_waitingFor documented horderly (.refl bench) hmoves hread' hdirect'
    rwa [hwaiting, List.map_nil, List.nil_append] at hconserved

/-- If two runs differ at most in which requests are for channels, then a listener that hears
directly in the second hears the notices that its events are made of in the first, in the order in
which the events are read, however the reading goes. If they differ at most in readers leaving, then
everything else is the same: the answers, the calls, what is heard directly and what is read from
other channels, and afterwards the scanner, the tasks and the other channels. -/
theorem mailboxes_faithful (documented : contents.Documented) (radio : Radio) (config : Config)
    (policy : Option Bool) (nanos : Int) (moves others : List Move) :
    (∀ listener : ListenerId, moves.map Move.unboxed = others.map Move.unboxed →
      (((fresh radio config policy nanos).after others).desk? listener).any Desk.isDirect = true →
        Faithful contents (fresh radio config policy nanos) listener moves others) ∧
    ∀ gone : ListenerId → Bool, Leaves gone moves others →
      view gone ((fresh radio config policy nanos).records moves) =
          view gone ((fresh radio config policy nanos).records others) ∧
        Apart gone ((fresh radio config policy nanos).after moves)
          ((fresh radio config policy nanos).after others) :=
  ⟨fun _ hmoves hdirect ↦
      faithful_of_desks_eq_nil documented (.fresh contents radio config policy nanos) rfl hmoves
        hdirect,
    fun gone hleaves ↦ Apart.of_leaves hleaves (.refl gone _)⟩

end Benches

/-- Two requests, the first of which is read event by event. The second one is for a mailbox, and
its reader may leave before the request fails. -/
def twoRequests (boxed leaves : Bool) : List Move :=
  [.obey (.startScan (.ofChannel 2412 Bucket.fullResults) boxed),
    .obey .scanResultsAvailable,
    .read ⟨0⟩ 1,
    .obey (.startScan (.ofChannel 2437 0#32) true)] ++
  (if leaves then [.obey (.closeMailbox 1)] else []) ++
  [.obey (.driverStatus (-10)),
    .read ⟨1⟩ 2,
    .read ⟨0⟩ 2]

theorem mailboxes_faithful_twoRequests :
    let bench := fresh ⟨"wlan0", .standard⟩ .standard none 0
    (readBy ⟨0⟩ (bench.records (twoRequests true true))).map Event.notice =
        heardBy ⟨0⟩ (bench.records (twoRequests false true)) ∧
      heardBy ⟨0⟩ (bench.records (twoRequests false true)) =
        [.scan (.fullResults [] 0), .scan .resultsAvailable] ∧
      view (· = ⟨1⟩) (bench.records (twoRequests true true)) =
        view (· = ⟨1⟩) (bench.records (twoRequests true false)) ∧
      readBy ⟨1⟩ (bench.records (twoRequests true true)) = [] ∧
      readBy ⟨1⟩ (bench.records (twoRequests true false)) = [.scan (.failed .timeout)] := by
  intro bench
  have hdirect : ((bench.after (twoRequests false true)).desk? ⟨0⟩).any Desk.isDirect = true := by
    decide
  have hfaithful :
      Faithful Mailbox.contents bench ⟨0⟩ (twoRequests true true) (twoRequests false true) :=
    (mailboxes_faithful Mailbox.documented _ _ _ _ _ _).1 ⟨0⟩ rfl hdirect
  have hread := hfaithful.eq_of_isRead (by decide)
  have hwaiting : (bench.after (twoRequests true true)).waitingFor Mailbox.contents ⟨0⟩ = [] := by
    decide
  rw [hwaiting, List.append_nil] at hread
  have hleaves : Leaves (· = ⟨1⟩) (twoRequests true true) (twoRequests true false) :=
    .keep _ (.keep _ (.keep _ (.keep _ (.leave 1 rfl (.keep _ (.keep _ (.keep _ .nil)))))))
  exact ⟨hread, by decide, ((mailboxes_faithful Mailbox.documented _ _ _ _ _ _).2 _ hleaves).1,
    by decide, by decide⟩

end Bench

end RadioScan
