import RadioScan.Decimal.Rounding
import RadioScan.Json.Basic

/-!
Numbers in JSON texts. A numeral is read by its grammar first, and only then asked whether it is a
natural number of 64 bits, or so large that binary floating point cannot hold it.
-/

set_option autoImplicit false
set_option relaxedAutoImplicit false

namespace RadioScan.Json

/-- A number as it is written, digit by digit. Without a point there are no digits in `fraction`. -/
structure Numeral where
  negative : Bool
  whole : List Nat
  fraction : List Nat
  exponent : Option Int
  deriving DecidableEq, Repr

def digit? (byte : UInt8) : Option Nat :=
  if 0x30 ≤ byte ∧ byte ≤ 0x39 then some (byte.toNat - 0x30) else none

/-- The digits at the beginning, and what follows them. -/
def digits : Bytes → List Nat × Bytes
  | [] => ([], [])
  | byte :: rest =>
    match digit? byte with
    | some digit => (digit :: (digits rest).1, (digits rest).2)
    | none => ([], byte :: rest)

/-- As `digits`, but there has to be one. `atEnd` is what it counts as if the text ends instead. -/
def someDigits (atEnd : Fault) (input : Bytes) : Except Fault (List Nat × Bytes) :=
  match digits input with
  | ([], []) => .error atEnd
  | ([], _ :: _) => .error .malformed
  | found => .ok found

/-- The number that digits denote. -/
def ofDigits (digits : List Nat) : Nat := digits.foldl (fun value digit ↦ 10 * value + digit) 0

namespace Numeral

/-- The part before the point, which begins with zero only if that is all of it. -/
def readWhole (atEnd : Fault) (input : Bytes) : Except Fault (List Nat × Bytes) :=
  match someDigits atEnd input with
  | .error fault => .error fault
  | .ok (0 :: _ :: _, _) => .error .malformed
  | .ok found => .ok found

/-- The point and the digits after it, if there is a point. -/
def readFraction (atEnd : Fault) : Bytes → Except Fault (List Nat × Bytes)
  | [] => .ok ([], [])
  | byte :: rest =>
    if Char.ofUInt8 byte = '.' then someDigits atEnd rest else .ok ([], byte :: rest)

/-- A sign, if there is one, and whether it is a minus. -/
def readSign : Bytes → Bool × Bytes
  | [] => (false, [])
  | byte :: rest =>
    match Char.ofUInt8 byte with
    | '-' => (true, rest)
    | '+' => (false, rest)
    | _ => (false, byte :: rest)

/-- The power of ten that the number is to be multiplied with, if one is given. -/
def readExponent (atEnd : Fault) : Bytes → Except Fault (Option Int × Bytes)
  | [] => .ok (none, [])
  | byte :: rest =>
    if (Char.ofUInt8 byte).toLower = 'e' then
      let (negative, rest) := readSign rest
      (someDigits atEnd rest).map fun (digits, rest) ↦
        (some (if negative then -(ofDigits digits : Int) else ofDigits digits), rest)
    else .ok (none, byte :: rest)

/-- Reads a number of which the minus, if any, has been read. -/
def read (atEnd : Fault) (negative : Bool) (input : Bytes) : Except Fault (Numeral × Bytes) :=
  match readWhole atEnd input with
  | .error fault => .error fault
  | .ok (whole, input) =>
    match readFraction atEnd input with
    | .error fault => .error fault
    | .ok (fraction, input) =>
      match readExponent atEnd input with
      | .error fault => .error fault
      | .ok (exponent, input) => .ok (⟨negative, whole, fraction, exponent⟩, input)

/-- The natural number of 64 bits that a numeral without sign, point and exponent stands for. -/
def natural? (numeral : Numeral) : Option UInt64 :=
  if numeral.negative ∨ numeral.fraction ≠ [] ∨ numeral.exponent.isSome then none
  else if ofDigits numeral.whole < Nat.pow 2 64 then some (UInt64.ofNat (ofDigits numeral.whole))
  else none

/-- Appends digits to a number while it stays below 2^64, and counts the digits left over from the
first one that does not fit. -/
def takeIn (value : Nat) : List Nat → Nat × Nat
  | [] => (value, 0)
  | digit :: rest =>
    if 10 * value + digit < Nat.pow 2 64 then takeIn (10 * value + digit) rest
    else (value, rest.length + 1)

/-- The product of a number below 2^64 and a power of ten, both in binary floating point, is beyond
the largest finite number. Only products with a positive power ever are. -/
def overflows (significand : Nat) (exponent : Int) : Bool :=
  if significand = 0 ∨ exponent ≤ 0 then false
  else if 308 < exponent then true
  else
    (Nat.pow 2 1024 - Nat.pow 2 970) * Decimal.grainsPerUnit.pow 2
      ≤ Decimal.binary64 significand 1 * Decimal.binary64 (Nat.pow 10 exponent.toNat) 1

/-- The number is too large for binary floating point. It is taken as its leading digits times a
power of ten. -/
def exceedsRange (numeral : Numeral) : Bool :=
  let (whole, extra) := takeIn 0 numeral.whole
  let (significand, unread) := takeIn whole numeral.fraction
  overflows significand
    (numeral.exponent.getD 0 + extra - (numeral.fraction.length - unread : Nat))

end Numeral

theorem length_digits (input : Bytes) :
    (digits input).1.length + (digits input).2.length = input.length := by
  induction input with
  | nil => rfl
  | cons byte rest ih =>
    rw [digits]
    split
    · simp only [List.length_cons]
      omega
    · simp

theorem length_lt_of_someDigits {atEnd : Fault} {input rest : Bytes} {found : List Nat}
    (h : someDigits atEnd input = .ok (found, rest)) : rest.length < input.length := by
  have total := length_digits input
  unfold someDigits at h
  rcases hd : digits input with ⟨_ | ⟨digit, others⟩, tail⟩
  · cases tail <;> simp [hd] at h
  · rw [hd] at h total
    obtain ⟨-, rfl⟩ := Prod.mk.inj (Except.ok.inj h)
    simp only [List.length_cons] at total
    omega

namespace Numeral

theorem length_lt_of_readWhole {atEnd : Fault} {input rest : Bytes} {found : List Nat}
    (h : readWhole atEnd input = .ok (found, rest)) : rest.length < input.length := by
  unfold readWhole at h
  split at h
  · contradiction
  · contradiction
  · rename_i heq
    exact length_lt_of_someDigits (heq.trans h)

theorem length_le_of_readFraction {atEnd : Fault} {input rest : Bytes} {found : List Nat}
    (h : readFraction atEnd input = .ok (found, rest)) : rest.length ≤ input.length := by
  cases input with
  | nil =>
    obtain ⟨-, rfl⟩ := Prod.mk.inj (Except.ok.inj h)
    exact Nat.le_refl _
  | cons byte tail =>
    rw [readFraction] at h
    split at h
    · exact Nat.le_succ_of_le (Nat.le_of_lt (length_lt_of_someDigits h))
    · obtain ⟨-, rfl⟩ := Prod.mk.inj (Except.ok.inj h)
      exact Nat.le_refl _

theorem length_readSign_le (input : Bytes) : (readSign input).2.length ≤ input.length := by
  cases input with
  | nil => exact Nat.le_refl _
  | cons byte tail =>
    rw [readSign]
    split <;> simp

theorem length_le_of_readExponent {atEnd : Fault} {input rest : Bytes} {found : Option Int}
    (h : readExponent atEnd input = .ok (found, rest)) : rest.length ≤ input.length := by
  cases input with
  | nil =>
    obtain ⟨-, rfl⟩ := Prod.mk.inj (Except.ok.inj h)
    exact Nat.le_refl _
  | cons byte tail =>
    have sign := length_readSign_le tail
    rw [readExponent] at h
    split at h
    · rcases hdigits : someDigits atEnd (readSign tail).2 with fault | ⟨digits, left⟩
      · simp [hdigits, Except.map] at h
      · have lt := length_lt_of_someDigits hdigits
        simp only [hdigits, Except.map, Except.ok.injEq, Prod.mk.injEq] at h
        rw [← h.2, List.length_cons]
        omega
    · obtain ⟨-, rfl⟩ := Prod.mk.inj (Except.ok.inj h)
      exact Nat.le_refl _

theorem length_lt_of_read {atEnd : Fault} {negative : Bool} {input rest : Bytes}
    {numeral : Numeral} (h : read atEnd negative input = .ok (numeral, rest)) :
    rest.length < input.length := by
  unfold read at h
  split at h
  · contradiction
  · rename_i hwhole
    split at h
    · contradiction
    · rename_i hfraction
      split at h
      · contradiction
      · rename_i hexponent
        obtain ⟨-, rfl⟩ := Prod.mk.inj (Except.ok.inj h)
        have := length_lt_of_readWhole hwhole
        have := length_le_of_readFraction hfraction
        have := length_le_of_readExponent hexponent
        omega

end Numeral

end RadioScan.Json
