import RadioScan.Config.Basic
import RadioScan.Json.Value

/-!
Reading a configuration. It is an object whose members may come in any order, or a list of their
values in the order of declaration; what is missing takes the standard value. Members of other names
are skipped, and one of the two names must not come twice. With `Config.render` this makes up the
library that runs (`Config.library`).
-/

set_option autoImplicit false
set_option relaxedAutoImplicit false

namespace RadioScan.Config

open Json

def readFlag (input : Bytes) : Except Fault (Bool × Bytes) :=
  match readLead false input with
  | .error fault => .error fault
  | .ok (.flag value, rest) => .ok (value, rest)
  | .ok _ => .error .mismatched

def readCount (input : Bytes) : Except Fault (UInt64 × Bytes) :=
  match readLead false input with
  | .error fault => .error fault
  | .ok (.number (some value), rest) => .ok (value, rest)
  | .ok _ => .error .mismatched

/-- The values found so far. -/
structure Members where
  background : Option Bool
  hidden : Option UInt64
  deriving DecidableEq, Repr

namespace Members

def empty : Members := ⟨none, none⟩

/-- The configuration in which what was not found has its standard value. -/
def config (found : Members) : Config :=
  ⟨found.background.getD standard.backgroundScanning, found.hidden.getD standard.hiddenPerScan⟩

end Members

/-- Reads the colon and a value for a member that has none yet. -/
def readFresh {α : Type} (known : Option α) (read : Bytes → Except Fault (α × Bytes))
    (input : Bytes) : Except Fault (α × Bytes) :=
  if known.isSome then .error .mismatched
  else
    match readColon input with
    | .error fault => .error fault
    | .ok rest => read rest

/-- Reads a member of which the name has been read. -/
def readMember (found : Members) (name : List Char) (input : Bytes) :
    Except Fault (Members × Bytes) :=
  if name = backgroundName then
    (readFresh found.background readFlag input).map fun (value, rest) ↦
      ({ found with background := some value }, rest)
  else if name = hiddenName then
    (readFresh found.hidden readCount input).map fun (value, rest) ↦
      ({ found with hidden := some value }, rest)
  else
    match readColon input with
    | .error fault => .error fault
    | .ok rest => (skipValue rest).map (found, ·)

/-- Reads a member's name up to the closing quote. -/
def readQuoted (input : Bytes) : Except Fault (List Char × Bytes) :=
  match next? input with
  | none => .error .truncated
  | some (c, rest) => if c = '"' then readString rest else .error .malformed

/-- Reads the name of the next member, with the comma in front of it unless it is the first. At the
end of the object there is none. -/
def readName (first : Bool) (input : Bytes) : Except Fault (Option (List Char) × Bytes) :=
  match next? input with
  | none => .error .truncated
  | some (c, rest) =>
    if c = '\x7d' then .ok (none, rest)
    else if first then (readQuoted input).map fun (name, rest) ↦ (some name, rest)
    else if c = ',' then (readQuoted rest).map fun (name, rest) ↦ (some name, rest)
    else .error .malformed

theorem length_lt_of_readFlag {input rest : Bytes} {value : Bool}
    (h : readFlag input = .ok (value, rest)) : rest.length < input.length := by
  unfold readFlag at h
  split at h
  · contradiction
  · rename_i hlead
    obtain ⟨-, rfl⟩ := Prod.mk.inj (Except.ok.inj h)
    exact length_lt_of_readLead hlead
  · contradiction

theorem length_lt_of_readCount {input rest : Bytes} {value : UInt64}
    (h : readCount input = .ok (value, rest)) : rest.length < input.length := by
  unfold readCount at h
  split at h
  · contradiction
  · rename_i hlead
    obtain ⟨-, rfl⟩ := Prod.mk.inj (Except.ok.inj h)
    exact length_lt_of_readLead hlead
  · contradiction

theorem length_lt_of_readFresh {α : Type} {known : Option α}
    {read : Bytes → Except Fault (α × Bytes)} {input rest : Bytes} {value : α}
    (shrinks : ∀ {input rest : Bytes} {value : α}, read input = .ok (value, rest) →
      rest.length < input.length)
    (h : readFresh known read input = .ok (value, rest)) : rest.length < input.length := by
  unfold readFresh at h
  split at h
  · contradiction
  · split at h
    · contradiction
    · rename_i hcolon
      exact Nat.lt_trans (shrinks h) (length_lt_of_readColon hcolon)

theorem length_lt_of_readMember {found next : Members} {name : List Char} {input rest : Bytes}
    (h : readMember found name input = .ok (next, rest)) : rest.length < input.length := by
  unfold readMember at h
  split at h
  · obtain ⟨⟨value, left⟩, hleft, hpair⟩ := eq_ok_of_map h
    obtain ⟨-, rfl⟩ := Prod.mk.inj hpair
    exact length_lt_of_readFresh length_lt_of_readFlag hleft
  · split at h
    · obtain ⟨⟨value, left⟩, hleft, hpair⟩ := eq_ok_of_map h
      obtain ⟨-, rfl⟩ := Prod.mk.inj hpair
      exact length_lt_of_readFresh length_lt_of_readCount hleft
    · split at h
      · contradiction
      · rename_i hcolon
        obtain ⟨left, hleft, hpair⟩ := eq_ok_of_map h
        obtain ⟨-, rfl⟩ := Prod.mk.inj hpair
        exact Nat.lt_of_le_of_lt (length_le_of_skipFrom hleft) (length_lt_of_readColon hcolon)

theorem length_lt_of_readQuoted {input rest : Bytes} {name : List Char}
    (h : readQuoted input = .ok (name, rest)) : rest.length < input.length := by
  unfold readQuoted at h
  split at h
  · contradiction
  · rename_i hnext
    split at h
    · exact Nat.lt_trans (length_lt_of_readString h) (length_lt_of_next? hnext)
    · contradiction

theorem length_lt_of_readName {first : Bool} {input rest : Bytes} {name : Option (List Char)}
    (h : readName first input = .ok (name, rest)) : rest.length < input.length := by
  unfold readName at h
  split at h
  · contradiction
  · rename_i hnext
    have tail_lt := length_lt_of_next? hnext
    split at h
    · obtain ⟨-, rfl⟩ := Prod.mk.inj (Except.ok.inj h)
      exact tail_lt
    · split at h
      · obtain ⟨⟨text, left⟩, hleft, hpair⟩ := eq_ok_of_map h
        obtain ⟨-, rfl⟩ := Prod.mk.inj hpair
        exact length_lt_of_readQuoted hleft
      · split at h
        · obtain ⟨⟨text, left⟩, hleft, hpair⟩ := eq_ok_of_map h
          obtain ⟨-, rfl⟩ := Prod.mk.inj hpair
          exact Nat.lt_trans (length_lt_of_readQuoted hleft) tail_lt
        · contradiction

/-- Reads the members of an object up to its closing bracket. -/
def readMembers (found : Members) (first : Bool) (input : Bytes) :
    Except Fault (Members × Bytes) :=
  match _hname : readName first input with
  | .error fault => .error fault
  | .ok (none, rest) => .ok (found, rest)
  | .ok (some name, rest) =>
    match _hmember : readMember found name rest with
    | .error fault => .error fault
    | .ok (found, rest) => readMembers found false rest
termination_by input.length
decreasing_by
  exact Nat.lt_trans (length_lt_of_readMember _hmember) (length_lt_of_readName _hname)

/-- Reads the next item of a list, with the comma in front of it unless it is the first. At the end
of the list there is none. -/
def readItem {α : Type} (first : Bool) (read : Bytes → Except Fault (α × Bytes)) (input : Bytes) :
    Except Fault (Option α × Bytes) :=
  match next? input with
  | none => .error .truncated
  | some (c, rest) =>
    if c = ']' then .ok (none, input)
    else if first then (read input).map fun (value, rest) ↦ (some value, rest)
    else if c = ',' then (read rest).map fun (value, rest) ↦ (some value, rest)
    else .error .malformed

/-- Goes past the closing bracket of a list that has no items left. -/
def readListEnd (input : Bytes) : Except Fault Bytes :=
  match next? input with
  | none => .error .truncated
  | some (c, rest) => if c = ']' then .ok rest else .error .malformed

/-- Reads a list of up to two values. -/
def readItems (input : Bytes) : Except Fault (Members × Bytes) :=
  match readItem true readFlag input with
  | .error fault => .error fault
  | .ok (background, rest) =>
    match readItem background.isNone readCount rest with
    | .error fault => .error fault
    | .ok (hidden, rest) => (readListEnd rest).map (⟨background, hidden⟩, ·)

/-- Reads an object or a list. -/
def readAny (input : Bytes) : Except Fault (Members × Bytes) :=
  match readLead false input with
  | .error fault => .error fault
  | .ok (.list, rest) => readItems rest
  | .ok (.object, rest) => readMembers .empty true rest
  | .ok _ => .error .mismatched

/-- Reads a configuration from a text that has nothing else in it. -/
def read (input : Bytes) : Except Fault Config :=
  match readAny input with
  | .error fault => .error fault
  | .ok (found, rest) => if skipBlanks rest = [] then .ok found.config else .error .malformed

/-- Reads a configuration from a text. -/
def parse (text : String) : Except Fault Config :=
  read (text.toList.flatMap String.utf8EncodeChar)

/-! ### Members on their own -/

/-- The truth value that a text stands for. -/
def flag? (text : List Char) : Option Bool :=
  if text = "true".toList then some true
  else if text = "false".toList then some false
  else none

/-- The number of 64 bits that a text stands for. -/
def count? (text : List Char) : Option UInt64 :=
  let value := UInt64.ofNat (Nat.ofDigitChars 10 text 0)
  if text = Nat.toDigits 10 value.toNat then some value else none

/-- Takes in a member that was read. -/
def Members.add (found : Members) (member : Member) : Except Fault Members :=
  if member.name = backgroundName then
    match found.background, flag? member.value with
    | none, some value => .ok { found with background := some value }
    | _, _ => .error .mismatched
  else if member.name = hiddenName then
    match found.hidden, count? member.value with
    | none, some value => .ok { found with hidden := some value }
    | _, _ => .error .mismatched
  else .ok found

/-- The configuration that the members of an object make up. -/
def ofMembers (members : List Member) : Except Fault Config :=
  (members.foldlM Members.add .empty).map Members.config

/-- The library that runs. -/
def library : Library Config Fault where
  ofText := parse
  ofMembers := ofMembers
  toText := fun config ↦ String.ofList config.render

end RadioScan.Config
