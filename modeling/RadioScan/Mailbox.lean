import RadioScan.Channel

/-!
Mailboxes, which are the channels that run. What is sent is kept in a list until it is read; a
mailbox whose reader is gone takes nothing.
-/

set_option autoImplicit false
set_option relaxedAutoImplicit false

namespace RadioScan

/-- Items waiting to be read, oldest first. -/
structure Mailbox (α : Type) where
  queued : List α
  isOpen : Bool
  deriving DecidableEq, Repr

namespace Mailbox

variable {α : Type}

def opened : Mailbox α := ⟨[], true⟩

def send (mailbox : Mailbox α) (item : α) : Except α Unit × Mailbox α :=
  if mailbox.isOpen then (.ok (), { mailbox with queued := mailbox.queued ++ [item] })
  else (.error item, mailbox)

def receive (mailbox : Mailbox α) : Option α × Mailbox α :=
  (mailbox.queued.head?, { mailbox with queued := mailbox.queued.tail })

/-- The reader leaves, and what it has not read is lost. -/
def close (_mailbox : Mailbox α) : Mailbox α := ⟨[], false⟩

end Mailbox

instance : Channels where
  Channel := Mailbox
  opened := Mailbox.opened
  send := Mailbox.send
  receive := Mailbox.receive
  dropReceiver := Mailbox.close

end RadioScan
