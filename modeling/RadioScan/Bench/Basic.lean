import RadioScan.Bench.Command
import RadioScan.Config.Basic
import RadioScan.Mailbox
import RadioScan.Report.Delivery

/-!
A bench: one scanner with a scripted driver, clock and policy, a scheduler that is run by hand, and
a desk for each listener. Everything that a command brings about outwardly is in its `Observation`.
A bench works with any channels; `Bench.step` reads from mailboxes.
-/

set_option autoImplicit false
set_option relaxedAutoImplicit false

namespace RadioScan

section Desks

variable [Channels]

/-- Where a listener takes its notices. `direct` listeners hear them at once; the others pass them
on to a channel, from which somebody may read. -/
inductive Line (α : Type)
  | direct
  | boxed (channel : Channel α) (isRead : Bool)

namespace Line

variable {α : Type}

def new (boxed : Bool) : Line α := if boxed then .boxed Channels.opened true else .direct

def isDirect : Line α → Bool
  | direct => true
  | boxed _ _ => false

/-- Whether there is a channel with a reader. -/
def isRead : Line α → Bool
  | direct => false
  | boxed _ isRead => isRead

/-- Passes on a notice that is not heard directly. -/
def leave {β : Type} (forward : Channel α → β → Channel α) (notice : β) : Line α → Line α
  | direct => direct
  | boxed channel isRead => boxed (forward channel notice) isRead

/-- The reader leaves, if there is one. -/
def close : Line α → Line α
  | direct => direct
  | boxed channel isRead =>
    boxed (if isRead then Channels.dropReceiver channel else channel) false

/-- Reads up to so many events, if there is a reader. -/
def collect (most : Nat) : Line α → List α × Line α
  | direct => ([], direct)
  | boxed channel isRead =>
    if isRead then
      let (events, next) := receiveUpTo channel most
      (events, boxed next isRead)
    else ([], boxed channel isRead)

end Line

/-- The desk of a listener. There are two kinds of them, as of listeners. -/
inductive Desk
  | scan (line : Line ScanEvent)
  | offload (line : Line OffloadEvent)

namespace Desk

/-- The desk for a new listener. -/
def new (boxed : Bool) : Kind → Desk
  | .scan => scan (.new boxed)
  | .offload => offload (.new boxed)

def kind : Desk → Kind
  | scan _ => .scan
  | offload _ => .offload

def isDirect : Desk → Bool
  | scan line => line.isDirect
  | offload line => line.isDirect

def isRead : Desk → Bool
  | scan line => line.isRead
  | offload line => line.isRead

/-- Leaves a notice. A desk is left no notice of the other kind. -/
def leave : Notice → Desk → Desk
  | .scan notice, scan line => scan (line.leave forwardScan notice)
  | .offload notice, offload line => offload (line.leave forwardOffload notice)
  | _, desk => desk

def close : Desk → Desk
  | scan line => scan line.close
  | offload line => offload line.close

/-- Reads up to so many events. -/
def collect (most : Nat) : Desk → List Event × Desk
  | scan line => ((line.collect most).1.map .scan, scan (line.collect most).2)
  | offload line => ((line.collect most).1.map .offload, offload (line.collect most).2)

end Desk

/-- The scanner is `none` once it has been dropped. `adjustable` tells whether the policy can
change. The task handle of the surroundings is the backlog's, see `Bench.surroundings`. -/
structure Bench where
  scanner : Option Coordinator
  around : Surroundings
  adjustable : Bool
  backlog : Backlog
  desks : List Desk

end Desks

namespace Bench

/-- What a command brought about: its answer, the calls and the notices to direct listeners in the
order of their happening, and the bench afterwards. -/
structure Outcome [Channels] where
  answer : Answer
  log : List Effect
  next : Bench

/-- What there is to see after a command. `received` is what was read from the mailboxes, listener
by listener. -/
structure Observation where
  answer : Answer
  log : List Effect
  received : List (ListenerId × Notice)
  pending : List Task
  offloadedNetworks : Option Nat
  deriving DecidableEq, Repr

/-- A driver that accepts everything, has found nothing, and does not know its probe limit. -/
def calm (nanos : Int) (backgroundScanning : Bool) : Surroundings where
  scanRefusal := none
  offloadRefusal := none
  stopRefusal := none
  probeLimit := 0
  scanResults := []
  offloadResults := []
  nanos := nanos
  backgroundScanning := backgroundScanning
  nextHandle := Backlog.empty.nextHandle

section Commands

variable [Channels]

/-- A bench at a clock reading. Without a policy of its own it follows the configuration. -/
def fresh (radio : Radio) (config : Config) (policy : Option Bool) (nanos : Int) : Bench where
  scanner := some (.fresh radio config.hiddenPerScan.toNat)
  around := calm nanos (policy.getD config.backgroundScanning)
  adjustable := policy.isSome
  backlog := .empty
  desks := []

def surroundings (bench : Bench) : Surroundings :=
  { bench.around with nextHandle := bench.backlog.nextHandle }

def desk? (bench : Bench) (listener : ListenerId) : Option Desk := bench.desks[listener.number]?

/-- Carries out an effect: the scheduler's calls reach the backlog, and notices the desks. -/
def receive (bench : Bench) : Effect → Bench
  | .driver _ _ => bench
  | .scheduler call => { bench with backlog := bench.backlog.receive call }
  | .notify listener notice =>
    { bench with desks := bench.desks.modify listener.number (Desk.leave notice) }

def receiveAll (bench : Bench) (effects : List Effect) : Bench := effects.foldl receive bench

/-- An effect is logged unless it goes to a mailbox. -/
def logs (bench : Bench) : Effect → Bool
  | .notify listener _ => (bench.desk? listener).any Desk.isDirect
  | _ => true

/-- A desk for the listener of the next request. -/
def withDesk (bench : Bench) (kind : Kind) (boxed : Bool) : Bench :=
  { bench with desks := bench.desks ++ [.new boxed kind] }

def nextListener (bench : Bench) : ListenerId := ⟨bench.desks.length⟩

/-- Has the scanner do something. -/
def act (bench : Bench) (scanner : Coordinator) (action : Action) : Outcome :=
  let reply := scanner.step bench.surroundings action
  { answer := (reply.rejection.map Answer.rejected).getD .done
    log := reply.effects.filter bench.logs
    next := { bench with scanner := some reply.next }.receiveAll reply.effects }

/-- Does something with the scanner, if it is still there. -/
def withScanner (bench : Bench) (use : Coordinator → Outcome) : Outcome :=
  match bench.scanner with
  | some scanner => use scanner
  | none => ⟨.noScanner, [], bench⟩

/-- Makes a request for a new listener. The listener counts even if the request is turned down. -/
def request (bench : Bench) (kind : Kind) (boxed : Bool) (action : ListenerId → Action) :
    Outcome :=
  bench.withScanner fun scanner ↦
    (bench.withDesk kind boxed).act scanner (action bench.nextListener)

/-- Runs a task that has left the queue. Without a scanner it does nothing. -/
def run (bench : Bench) (alarm : AlarmId) : Outcome :=
  match bench.scanner with
  | some scanner => { bench.act scanner (.runTask alarm) with answer := .flag true }
  | none => ⟨.flag true, [], bench⟩

/-- Answers a question without doing anything. -/
def ask (bench : Bench) (answer : Coordinator → Answer) : Outcome :=
  bench.withScanner fun scanner ↦ ⟨answer scanner, [], bench⟩

/-- Changes what the driver answers. -/
def program (bench : Bench) (changes : Changes) : Bench :=
  let around := bench.around
  { bench with
    around :=
      { around with
        scanRefusal := (changes.scanStatus.map Reason.ofStatus).getD around.scanRefusal
        offloadRefusal := (changes.offloadStatus.map Reason.ofStatus).getD around.offloadRefusal
        stopRefusal := (changes.stopStatus.map Reason.ofStatus).getD around.stopRefusal
        probeLimit := changes.probeLimit.getD around.probeLimit
        scanResults := changes.scanResults.getD around.scanResults
        offloadResults := changes.offloadResults.getD around.offloadResults } }

/-- Obeys a command, without reading from any channel. -/
def obey (bench : Bench) : Command → Outcome
  | .program changes => ⟨.done, [], bench.program changes⟩
  | .setClock nanos => ⟨.done, [], { bench with around := { bench.around with nanos } }⟩
  | .setPolicy backgroundScanning =>
    if bench.adjustable then
      ⟨.done, [], { bench with around := { bench.around with backgroundScanning } }⟩
    else ⟨.fixedPolicy, [], bench⟩
  | .fire tag =>
    match bench.backlog.fire? tag with
    | some (alarm, backlog) => { bench with backlog }.run alarm
    | none => ⟨.flag false, [], bench⟩
  | .take tag =>
    match bench.backlog.take? tag with
    | some (index, backlog) => ⟨.held (some index), [], { bench with backlog }⟩
    | none => ⟨.held none, [], bench⟩
  | .runHeld index =>
    match bench.backlog.release? index with
    | some (alarm, backlog) => { bench with backlog }.run alarm
    | none => ⟨.flag false, [], bench⟩
  | .closeMailbox listener =>
    ⟨.flag ((bench.desk? ⟨listener⟩).any Desk.isRead), [],
      { bench with desks := bench.desks.modify listener Desk.close }⟩
  | .dropScanner => ⟨.done, [], { bench with scanner := none }⟩
  | .startScan request boxed => bench.request .scan boxed (.startScan request)
  | .startBatchedScan request boxed => bench.request .scan boxed (.startBatchedScan request)
  | .controlBatchedScan => bench.ask fun _ ↦ .done
  | .latestBatched => bench.ask fun _ ↦ .nothing
  | .startOffload request boxed => bench.request .offload boxed (.startOffload request)
  | .resetOffload => bench.withScanner (bench.act · .resetOffload)
  | .driverStatus status =>
    bench.withScanner fun scanner ↦
      match Reason.ofStatus status with
      | some reason => bench.act scanner (.driverEvent (.scanFailed reason))
      | none => ⟨.notAFailure, [], bench⟩
  | .scanResultsAvailable => bench.withScanner (bench.act · (.driverEvent .scanResultsAvailable))
  | .offloadResultsAvailable =>
    bench.withScanner (bench.act · (.driverEvent .offloadResultsAvailable))
  | .offloadFailed => bench.withScanner (bench.act · (.driverEvent .offloadFailed))
  | .requiresOffload connected => bench.ask fun _ ↦ .flag (bench.around.requiresOffload connected)
  | .offloadNetworks => bench.ask fun scanner ↦ .networks scanner.offload.networks?
  | .latest => bench.ask fun scanner ↦ .snapshot scanner.single.latest
  | .report limit =>
    bench.ask fun scanner ↦
      let report := scanner.report bench.around.nanos
      match limit with
      | none => .text (String.ofList report.text)
      | some limit =>
        let attempt := report.writeWithin limit
        if attempt.taken then .text (String.ofList attempt.writer.text) else .unfinished
  | .cleanup => bench.withScanner (bench.act · .cleanup)
  | .capabilities => bench.ask fun _ ↦ .capabilities Capabilities.standard
  | .interface => bench.ask fun scanner ↦ .text scanner.radio.interface

end Commands

/-! ### Reading everything -/

/-- How many events wait at a desk. -/
def waitingAt : Desk → Nat
  | .scan (.boxed (mailbox : Mailbox ScanEvent) _) => mailbox.queued.length
  | .offload (.boxed (mailbox : Mailbox OffloadEvent) _) => mailbox.queued.length
  | _ => 0

/-- What is there to be read in the mailboxes, listener by listener. -/
def received (bench : Bench) : List (ListenerId × Notice) :=
  bench.desks.zipIdx.flatMap fun (desk, number) ↦
    (desk.collect (waitingAt desk)).1.map fun event ↦ (⟨number⟩, event.notice)

/-- Obeys a command, and reads the mailboxes afterwards. -/
def step (bench : Bench) (command : Command) : Observation × Bench :=
  let outcome := bench.obey command
  let bench := outcome.next
  ({ answer := outcome.answer
     log := outcome.log
     received := bench.received
     pending := bench.backlog.pending
     offloadedNetworks :=
       bench.scanner.bind fun scanner ↦ scanner.offload.networks?.map List.length },
    { bench with desks := bench.desks.map fun desk ↦ (desk.collect (waitingAt desk)).2 })

/-- Obeys several commands, one after the other. -/
def trace (bench : Bench) : List Command → List Observation × Bench
  | [] => ([], bench)
  | command :: rest =>
    let (observation, next) := bench.step command
    let (observations, last) := next.trace rest
    (observation :: observations, last)

end Bench

end RadioScan
