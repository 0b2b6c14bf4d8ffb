import RadioScan.Notice

/-!
Listeners that pass on what they are told as events, to be read from a channel. What channels are is
left open: `Channels` is any implementation of them. When nobody reads any more a channel does not
take an event; then the listener drops it, and whoever spoke to the listener does not notice.
-/

set_option autoImplicit false
set_option relaxedAutoImplicit false

namespace RadioScan

/-- An implementation of channels that have no limit. A channel is what its two ends share. An item
that it does not take is given back. -/
class Channels where
  Channel : Type → Type
  opened {α : Type} : Channel α
  send {α : Type} : Channel α → α → Except α Unit × Channel α
  receive {α : Type} : Channel α → Option α × Channel α
  dropReceiver {α : Type} : Channel α → Channel α

export Channels (Channel)

inductive ScanStatus
  | resultsAvailable
  deriving DecidableEq, Repr

/-- What can be read of a single scan. -/
inductive ScanEvent
  | status (status : ScanStatus)
  | fullResults (results : List Sighting) (bucketsScanned : Int)
  | failed (reason : Reason)
  deriving DecidableEq, Repr

/-- What can be read of an offloaded scan. -/
inductive OffloadEvent
  | networkFound (results : List Sighting)
  | failed
  deriving DecidableEq, Repr

inductive Event
  | scan (event : ScanEvent)
  | offload (event : OffloadEvent)
  deriving DecidableEq, Repr

/-- The notice that an event was made of. -/
def ScanEvent.notice : ScanEvent → ScanNotice
  | status .resultsAvailable => .resultsAvailable
  | fullResults results bucketsScanned => .fullResults results bucketsScanned
  | failed reason => .failed reason

def OffloadEvent.notice : OffloadEvent → OffloadNotice
  | networkFound results => .networkFound results
  | failed => .failed

def Event.notice : Event → Notice
  | scan event => .scan event.notice
  | offload event => .offload event.notice

section Sinks

variable [Channels]

/-- Sends an event, and goes on even if there is nobody to receive it. -/
def sendEvent {α : Type} (channel : Channel α) (event : α) : Channel α :=
  match Channels.send channel event with
  | (.ok (), next) => next
  | (.error _dropped, next) => next

/-- A listener of single scans: how it takes each notice. -/
def forwardScan (channel : Channel ScanEvent) : ScanNotice → Channel ScanEvent
  | .resultsAvailable => sendEvent channel (.status .resultsAvailable)
  | .fullResults results bucketsScanned =>
    sendEvent channel (.fullResults results bucketsScanned)
  | .failed reason => sendEvent channel (.failed reason)

/-- A listener of offloaded scans: how it takes each notice. -/
def forwardOffload (channel : Channel OffloadEvent) : OffloadNotice → Channel OffloadEvent
  | .networkFound results => sendEvent channel (.networkFound results)
  | .failed => sendEvent channel .failed

/-- Receives up to so many items, and no more than there are. -/
def receiveUpTo {α : Type} (channel : Channel α) : Nat → List α × Channel α
  | 0 => ([], channel)
  | most + 1 =>
    match Channels.receive channel with
    | (none, next) => ([], next)
    | (some item, next) =>
      let (items, last) := receiveUpTo next most
      (item :: items, last)

end Sinks

end RadioScan
