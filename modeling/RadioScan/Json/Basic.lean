import RadioScan.Bytes

/-!
What all readers of JSON have in common. Texts are read as bytes from the left, and the first
problem decides. A reader that succeeds leaves no more than it was given
(`length_lt_of_next?`, `length_le_of_expect`), which is why the loops over its results end.
-/

set_option autoImplicit false
set_option relaxedAutoImplicit false

namespace RadioScan.Json

/-- What is wrong with a text: it breaks the grammar, it has something of another type than is
wanted, or it ends too soon. -/
inductive Fault
  | malformed
  | mismatched
  | truncated
  deriving DecidableEq, Repr

def isBlank (byte : UInt8) : Bool :=
  byte == 0x20 || byte == 0x0A || byte == 0x09 || byte == 0x0D

def skipBlanks (input : Bytes) : Bytes := input.dropWhile isBlank

/-- The first byte that is not blank, as a character, and what follows it. -/
def next? (input : Bytes) : Option (Char × Bytes) :=
  match skipBlanks input with
  | [] => none
  | byte :: rest => some (Char.ofUInt8 byte, rest)

/-- Goes past a word, to the letter. -/
def expect : List Char → Bytes → Except Fault Bytes
  | [], input => .ok input
  | _ :: _, [] => .error .truncated
  | c :: word, byte :: rest =>
    if Char.ofUInt8 byte = c then expect word rest else .error .malformed

theorem length_skipBlanks_le (input : Bytes) : (skipBlanks input).length ≤ input.length :=
  (List.dropWhile_suffix isBlank).length_le

theorem length_lt_of_next? {input rest : Bytes} {c : Char} (h : next? input = some (c, rest)) :
    rest.length < input.length := by
  have le := length_skipBlanks_le input
  unfold next? at h
  split at h
  · contradiction
  · rename_i byte tail heq
    obtain ⟨-, rfl⟩ := Prod.mk.inj (Option.some.inj h)
    rw [heq, List.length_cons] at le
    omega

theorem length_le_of_expect {word : List Char} {input rest : Bytes}
    (h : expect word input = .ok rest) : rest.length ≤ input.length := by
  induction word generalizing input with
  | nil =>
    obtain rfl := Except.ok.inj h
    exact Nat.le_refl _
  | cons c word ih =>
    cases input with
    | nil => contradiction
    | cons byte tail =>
      rw [expect] at h
      split at h
      · exact Nat.le_succ_of_le (ih h)
      · contradiction

end RadioScan.Json
