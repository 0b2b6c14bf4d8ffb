import RadioScan.Mailbox

/-!
What can be relied on of channels. `Channels.Contents.Documented` says that a channel which is
connected takes everything, and gives it back once and in the order in which it was sent; nothing is
said of channels that are not connected. From such a channel the notices can be read that a listener
has passed on (`queued_forwardScan`, `queued_forwardOffload`). Mailboxes are such channels
(`Mailbox.documented`).
-/

set_option autoImplicit false
set_option relaxedAutoImplicit false

namespace RadioScan

/-- What is to be known of a channel: what has been sent and not received, oldest first, and whether
there is a receiver. -/
structure Channels.Contents [Channels] where
  queued {α : Type} : Channel α → List α
  isConnected {α : Type} : Channel α → Bool

/-- What channels are documented to do: they are first in, first out, and sending fails only when
there is no receiver. -/
structure Channels.Contents.Documented [Channels] (contents : Channels.Contents) : Prop where
  queued_opened : ∀ {α : Type}, contents.queued (Channels.opened : Channel α) = []
  isConnected_opened : ∀ {α : Type}, contents.isConnected (Channels.opened : Channel α) = true
  sent : ∀ {α : Type} {channel : Channel α}, contents.isConnected channel = true → ∀ item : α,
    (Channels.send channel item).1 = .ok () ∧
      contents.queued (Channels.send channel item).2 = contents.queued channel ++ [item] ∧
      contents.isConnected (Channels.send channel item).2 = true
  received : ∀ {α : Type} {channel : Channel α}, contents.isConnected channel = true →
    (Channels.receive channel).1 = (contents.queued channel).head? ∧
      contents.queued (Channels.receive channel).2 = (contents.queued channel).tail ∧
      contents.isConnected (Channels.receive channel).2 = true

namespace Channels.Contents.Documented

variable [Channels] {contents : Channels.Contents} {α : Type} {channel : Channel α}

/-- What is sent comes to stand last, whatever it is read as. -/
theorem map_queued_sendEvent (documented : contents.Documented)
    (hconnected : contents.isConnected channel = true) {β : Type} (read : α → β) (event : α) :
    (contents.queued (sendEvent channel event)).map read =
        (contents.queued channel).map read ++ [read event] ∧
      contents.isConnected (sendEvent channel event) = true := by
  obtain ⟨hok, hqueued, hstill⟩ := documented.sent hconnected event
  rw [sendEvent]
  split
  · next heq =>
    rw [heq] at hqueued hstill
    refine ⟨?_, hstill⟩
    rw [hqueued, List.map_append]
    rfl
  · next heq =>
    rw [heq] at hok
    cases hok

/-- What is received, and what is left, is what was queued. -/
theorem receiveUpTo_append (documented : contents.Documented)
    (hconnected : contents.isConnected channel = true) (most : Nat) :
    (receiveUpTo channel most).1 ++ contents.queued (receiveUpTo channel most).2 =
        contents.queued channel ∧
      contents.isConnected (receiveUpTo channel most).2 = true := by
  induction most generalizing channel with
  | zero => exact ⟨rfl, hconnected⟩
  | succ most ih =>
    obtain ⟨hfirst, hqueued, hstill⟩ := documented.received hconnected
    rw [receiveUpTo]
    split
    · next next heq =>
      rw [heq] at hfirst hqueued hstill
      have hnil : contents.queued channel = [] := List.head?_eq_none_iff.mp hfirst.symm
      refine ⟨?_, hstill⟩
      rw [List.nil_append, hqueued, hnil, List.tail_nil]
    · next item next heq =>
      rw [heq] at hfirst hqueued hstill
      obtain ⟨items, hitems⟩ := List.head?_eq_some_iff.mp hfirst.symm
      obtain ⟨hrest, hlast⟩ := ih hstill
      refine ⟨?_, hlast⟩
      rw [List.cons_append, hrest, hqueued, hitems, List.tail_cons]

/-- A listener of single scans passes on each notice, and nothing else. -/
theorem queued_forwardScan (documented : contents.Documented) {channel : Channel ScanEvent}
    (hconnected : contents.isConnected channel = true) (notice : ScanNotice) :
    (contents.queued (forwardScan channel notice)).map ScanEvent.notice =
        (contents.queued channel).map ScanEvent.notice ++ [notice] ∧
      contents.isConnected (forwardScan channel notice) = true := by
  have hsent := documented.map_queued_sendEvent hconnected ScanEvent.notice
  cases notice with
  | resultsAvailable => exact hsent (.status .resultsAvailable)
  | fullResults results bucketsScanned => exact hsent (.fullResults results bucketsScanned)
  | failed reason => exact hsent (.failed reason)

/-- A listener of offloaded scans passes on each notice, and nothing else. -/
theorem queued_forwardOffload (documented : contents.Documented) {channel : Channel OffloadEvent}
    (hconnected : contents.isConnected channel = true) (notice : OffloadNotice) :
    (contents.queued (forwardOffload channel notice)).map OffloadEvent.notice =
        (contents.queued channel).map OffloadEvent.notice ++ [notice] ∧
      contents.isConnected (forwardOffload channel notice) = true := by
  have hsent := documented.map_queued_sendEvent hconnected OffloadEvent.notice
  cases notice with
  | networkFound results => exact hsent (.networkFound results)
  | failed => exact hsent .failed

end Channels.Contents.Documented

namespace Mailbox

/-- What is to be known of a mailbox can be read off it. -/
def contents : Channels.Contents := ⟨Mailbox.queued, Mailbox.isOpen⟩

theorem documented : contents.Documented where
  queued_opened := rfl
  isConnected_opened := rfl
  sent := by
    intro α mailbox hconnected item
    obtain ⟨queued, isOpen⟩ := mailbox
    obtain rfl : isOpen = true := hconnected
    exact ⟨rfl, rfl, rfl⟩
  received := by
    intro α mailbox hconnected
    exact ⟨rfl, rfl, hconnected⟩

end Mailbox

end RadioScan
