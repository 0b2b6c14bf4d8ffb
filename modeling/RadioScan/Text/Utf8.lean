import RadioScan.Bytes

/-!
Reading bytes as UTF-8, one byte at a time. A sequence that breaks off, and a byte that can begin
none, count as one unreadable spot each; the byte at which a sequence breaks off is read afresh.
-/

set_option autoImplicit false
set_option relaxedAutoImplicit false

namespace RadioScan.Text.Utf8

/-- A character of which some bytes are still owed. `payload` are the bits read so far, and the next
byte has to lie between `least` and `greatest`. -/
structure Pending where
  payload : Nat
  owed : Nat
  least : UInt8
  greatest : UInt8
  deriving DecidableEq, Repr

/-- The sequence that a byte begins. The narrower ranges keep out characters that have a shorter
form, surrogates, and numbers beyond the last character. -/
def Pending.ofLead? (byte : UInt8) : Option Pending :=
  if byte < 0xC2 then none
  else if byte < 0xE0 then some ⟨byte.toNat % 32, 1, 0x80, 0xBF⟩
  else if byte = 0xE0 then some ⟨0, 2, 0xA0, 0xBF⟩
  else if byte = 0xED then some ⟨13, 2, 0x80, 0x9F⟩
  else if byte < 0xF0 then some ⟨byte.toNat % 16, 2, 0x80, 0xBF⟩
  else if byte = 0xF0 then some ⟨0, 3, 0x90, 0xBF⟩
  else if byte < 0xF4 then some ⟨byte.toNat % 8, 3, 0x80, 0xBF⟩
  else if byte = 0xF4 then some ⟨4, 3, 0x80, 0x8F⟩
  else none

/-- What a byte completes, in order, `none` being an unreadable spot, and the sequence that is then
open. -/
structure Reading where
  spots : List (Option Char)
  pending : Option Pending
  deriving DecidableEq, Repr

/-- Reads a byte with no sequence open. -/
def Reading.afresh (byte : UInt8) : Reading :=
  if byte < 0x80 then ⟨[some (Char.ofNat byte.toNat)], none⟩
  else match Pending.ofLead? byte with
    | some pending => ⟨[], some pending⟩
    | none => ⟨[none], none⟩

/-- Reads a byte while a sequence is open. -/
def Pending.feed (pending : Pending) (byte : UInt8) : Reading :=
  if pending.least ≤ byte ∧ byte ≤ pending.greatest then
    let payload := pending.payload * 64 + byte.toNat % 64
    if pending.owed = 1 then ⟨[some (Char.ofNat payload)], none⟩
    else ⟨[], some ⟨payload, pending.owed - 1, 0x80, 0xBF⟩⟩
  else
    let reading := Reading.afresh byte
    ⟨none :: reading.spots, reading.pending⟩

/-- The characters and unreadable spots of the rest of a text. -/
def spotsFrom : Option Pending → Bytes → List (Option Char)
  | none, [] => []
  | some _, [] => [none]
  | pending, byte :: rest =>
    let reading := match pending with
      | none => Reading.afresh byte
      | some pending => pending.feed byte
    reading.spots ++ spotsFrom reading.pending rest

/-- The characters and unreadable spots of a text, in order. -/
def spots (bytes : Bytes) : List (Option Char) := spotsFrom none bytes

/-- The text, if all of it can be read. -/
def decode? (bytes : Bytes) : Option (List Char) := (spots bytes).mapM id

/-- The text with a replacement character at each unreadable spot. -/
def lossy (bytes : Bytes) : List Char :=
  (spots bytes).map fun spot ↦ spot.getD (Char.ofNat 0xFFFD)

/-- How many bytes a text takes up. -/
def size : List Char → Nat
  | [] => 0
  | char :: rest => char.utf8Size + size rest

theorem size_append (first second : List Char) :
    size (first ++ second) = size first + size second := by
  induction first with
  | nil => simp [size]
  | cons char rest ih => simp [size, ih, Nat.add_assoc]

theorem lossy_eq_of_decode? {bytes : Bytes} {text : List Char} (h : decode? bytes = some text) :
    lossy bytes = text := by
  have general : ∀ (spots : List (Option Char)) (text : List Char), spots.mapM id = some text →
      spots.map (fun spot ↦ spot.getD (Char.ofNat 0xFFFD)) = text := by
    intro spots
    induction spots with
    | nil =>
      intro text h
      simpa using h
    | cons spot spots ih =>
      intro text h
      simp only [List.mapM_cons, id_eq, Option.pure_def, Option.bind_eq_bind,
        Option.bind_eq_some_iff, Option.some.injEq] at h
      obtain ⟨c, rfl, rest, hrest, rfl⟩ := h
      simp [ih rest hrest]
  exact general _ _ h

end RadioScan.Text.Utf8
