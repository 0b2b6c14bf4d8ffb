import RadioScan.Json.Numeral
import RadioScan.Json.Quoted

/-!
Values in JSON texts. A reader that wants a value of some type looks at the value's lead, which is
all of a value except a list or an object, and of those the opening bracket. Values that nobody
wants are skipped: they only have to obey the grammar, at any depth of nesting.
-/

set_option autoImplicit false
set_option relaxedAutoImplicit false

namespace RadioScan.Json

/-- A value as far as its type shows. A number is only told when it is a natural one. -/
inductive Lead
  | null
  | flag (value : Bool)
  | number (natural : Option UInt64)
  | text
  | list
  | object
  deriving DecidableEq, Repr

/-- Reads a number of which the minus, if any, has been read. One that is skipped may be of any
size, but the text must not end before the number is complete. -/
def readNumber (skipped negative : Bool) (input : Bytes) : Except Fault (Lead × Bytes) :=
  match Numeral.read (if skipped then .malformed else .truncated) negative input with
  | .error fault => .error fault
  | .ok (numeral, rest) =>
    if skipped then .ok (.number none, rest)
    else if numeral.exceedsRange then .error .malformed
    else .ok (.number numeral.natural?, rest)

/-- Reads a value's lead. -/
def readLead (skipped : Bool) (input : Bytes) : Except Fault (Lead × Bytes) :=
  match next? input with
  | none => .error .truncated
  | some (c, rest) =>
    match c with
    | 'n' => (expect ['u', 'l', 'l'] rest).map (.null, ·)
    | 't' => (expect ['r', 'u', 'e'] rest).map (.flag true, ·)
    | 'f' => (expect ['a', 'l', 's', 'e'] rest).map (.flag false, ·)
    | '"' =>
      if skipped then (skipString rest).map (.text, ·)
      else (readString rest).map fun (_, rest) ↦ (.text, rest)
    | '[' => .ok (.list, rest)
    | '\x7b' => .ok (.object, rest)
    | '-' => readNumber skipped true rest
    | c => if c.isDigit then readNumber skipped false (skipBlanks input) else .error .malformed

/-- Goes past the colon between a member's name and its value. -/
def readColon (input : Bytes) : Except Fault Bytes :=
  match next? input with
  | none => .error .truncated
  | some (c, rest) => if c = ':' then .ok rest else .error .malformed

/-- Goes past a member's name and the colon. -/
def skipName (input : Bytes) : Except Fault Bytes :=
  match next? input with
  | none => .error .truncated
  | some (c, rest) =>
    if c = '"' then
      match skipString rest with
      | .error fault => .error fault
      | .ok rest => readColon rest
    else .error .malformed

/-- What a skipped value is nested in. -/
inductive Frame
  | list
  | object
  deriving DecidableEq, Repr

namespace Frame

def closing : Frame → Char
  | list => ']'
  | object => '\x7d'

/-- Goes to the next value in a list or an object that is not at its end. -/
def enter : Frame → Bytes → Except Fault Bytes
  | list, input => .ok input
  | object, input => skipName input

end Frame

/-- What a value opens. -/
def Lead.frame? : Lead → Option Frame
  | list => some .list
  | object => some .object
  | _ => none

/-- Whether a value is about to begin or has just ended. -/
inductive Stage
  | before
  | after
  deriving DecidableEq, Repr

theorem length_lt_of_readNumber {skipped negative : Bool} {input rest : Bytes} {lead : Lead}
    (h : readNumber skipped negative input = .ok (lead, rest)) : rest.length < input.length := by
  unfold readNumber at h
  split at h
  · contradiction
  · rename_i hread
    have := Numeral.length_lt_of_read hread
    split at h
    · obtain ⟨-, rfl⟩ := Prod.mk.inj (Except.ok.inj h)
      exact this
    · split at h
      · contradiction
      · obtain ⟨-, rfl⟩ := Prod.mk.inj (Except.ok.inj h)
        exact this

theorem eq_ok_of_map {α β : Type} {result : Except Fault α} {f : α → β} {value : β}
    (h : result.map f = .ok value) : ∃ found, result = .ok found ∧ f found = value := by
  cases result with
  | error => contradiction
  | ok found => exact ⟨found, rfl, Except.ok.inj h⟩

theorem length_lt_of_readLead {skipped : Bool} {input rest : Bytes} {lead : Lead}
    (h : readLead skipped input = .ok (lead, rest)) : rest.length < input.length := by
  unfold readLead at h
  split at h
  · contradiction
  · rename_i c tail hnext
    have tail_lt := length_lt_of_next? hnext
    have word {letters : List Char} {found : Lead}
        (h : (expect letters tail).map (found, ·) = .ok (lead, rest)) :
        rest.length < input.length := by
      obtain ⟨left, hleft, hpair⟩ := eq_ok_of_map h
      obtain ⟨-, rfl⟩ := Prod.mk.inj hpair
      exact Nat.lt_of_le_of_lt (length_le_of_expect hleft) tail_lt
    split at h
    · exact word h
    · exact word h
    · exact word h
    · split at h
      · obtain ⟨left, hleft, hpair⟩ := eq_ok_of_map h
        obtain ⟨-, rfl⟩ := Prod.mk.inj hpair
        exact Nat.lt_trans (length_lt_of_skipString hleft) tail_lt
      · obtain ⟨⟨text, left⟩, hleft, hpair⟩ := eq_ok_of_map h
        obtain ⟨-, rfl⟩ := Prod.mk.inj hpair
        exact Nat.lt_trans (length_lt_of_readString hleft) tail_lt
    · obtain ⟨-, rfl⟩ := Prod.mk.inj (Except.ok.inj h)
      exact tail_lt
    · obtain ⟨-, rfl⟩ := Prod.mk.inj (Except.ok.inj h)
      exact tail_lt
    · exact Nat.lt_trans (length_lt_of_readNumber h) tail_lt
    · split at h
      · exact Nat.lt_of_lt_of_le (length_lt_of_readNumber h) (length_skipBlanks_le input)
      · contradiction

theorem length_lt_of_readColon {input rest : Bytes} (h : readColon input = .ok rest) :
    rest.length < input.length := by
  unfold readColon at h
  split at h
  · contradiction
  · rename_i hnext
    split at h
    · obtain rfl := Except.ok.inj h
      exact length_lt_of_next? hnext
    · contradiction

theorem length_lt_of_skipName {input rest : Bytes} (h : skipName input = .ok rest) :
    rest.length < input.length := by
  unfold skipName at h
  split at h
  · contradiction
  · rename_i hnext
    split at h
    · split at h
      · contradiction
      · rename_i hstring
        have := length_lt_of_next? hnext
        have := length_lt_of_skipString hstring
        have := length_lt_of_readColon h
        omega
    · contradiction

theorem Frame.length_le_of_enter {frame : Frame} {input rest : Bytes}
    (h : frame.enter input = .ok rest) : rest.length ≤ input.length := by
  cases frame with
  | list =>
    obtain rfl := Except.ok.inj h
    exact Nat.le_refl _
  | object => exact Nat.le_of_lt (length_lt_of_skipName h)

/-- Goes to the end of the outermost value, from before or after a value that is nested in the
frames, the innermost first. -/
def skipFrom (stage : Stage) (frames : List Frame) (input : Bytes) : Except Fault Bytes :=
  match stage, frames with
  | .before, frames =>
    match _hlead : readLead true input with
    | .error fault => .error fault
    | .ok (lead, rest) =>
      match lead.frame? with
      | none => skipFrom .after frames rest
      | some frame =>
        match _hnext : next? rest with
        | none => .error .truncated
        | some (c, tail) =>
          if c = frame.closing then skipFrom .after frames tail
          else
            match _henter : frame.enter rest with
            | .error fault => .error fault
            | .ok rest => skipFrom .before (frame :: frames) rest
  | .after, [] => .ok input
  | .after, frame :: frames =>
    match _hnext : next? input with
    | none => .error .truncated
    | some (c, rest) =>
      if c = ',' then
        match _henter : frame.enter rest with
        | .error fault => .error fault
        | .ok rest => skipFrom .before (frame :: frames) rest
      else if c = frame.closing then skipFrom .after frames rest
      else .error .malformed
termination_by input.length
decreasing_by
  · exact length_lt_of_readLead _hlead
  · exact Nat.lt_trans (length_lt_of_next? _hnext) (length_lt_of_readLead _hlead)
  · exact Nat.lt_of_le_of_lt (Frame.length_le_of_enter _henter) (length_lt_of_readLead _hlead)
  · exact Nat.lt_of_le_of_lt (Frame.length_le_of_enter _henter) (length_lt_of_next? _hnext)
  · exact length_lt_of_next? _hnext

/-- Goes past a value of any type. -/
def skipValue (input : Bytes) : Except Fault Bytes := skipFrom .before [] input

theorem length_le_of_skipFrom {stage : Stage} {frames : List Frame} {input rest : Bytes}
    (h : skipFrom stage frames input = .ok rest) : rest.length ≤ input.length := by
  fun_induction skipFrom stage frames input with
  | case2 frames input lead tail hlead _ ih =>
    exact Nat.le_of_lt (Nat.lt_of_le_of_lt (ih h) (length_lt_of_readLead hlead))
  | case4 frames input lead tail hlead frame _ left hnext ih =>
    have := length_lt_of_next? hnext
    have := length_lt_of_readLead hlead
    have := ih h
    omega
  | case6 frames input lead tail hlead frame _ c left hnext _ entered henter ih =>
    have := Frame.length_le_of_enter henter
    have := length_lt_of_readLead hlead
    have := ih h
    omega
  | case7 =>
    obtain rfl := Except.ok.inj h
    exact Nat.le_refl _
  | case10 input frame frames tail entered henter hnext ih =>
    have := Frame.length_le_of_enter henter
    have := length_lt_of_next? hnext
    have := ih h
    omega
  | case11 input frame frames tail hnext _ ih =>
    exact Nat.le_of_lt (Nat.lt_of_le_of_lt (ih h) (length_lt_of_next? hnext))
  | _ => contradiction

end RadioScan.Json
