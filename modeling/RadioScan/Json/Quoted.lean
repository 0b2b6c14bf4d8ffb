import RadioScan.Json.Basic
import RadioScan.Text.Hex
import RadioScan.Text.Utf8

/-!
Strings in JSON texts. Scanning goes to the closing quote and checks no more than the escapes. Only
when the string's text is wanted must surrogates come in pairs, and all of it be UTF-8.
-/

set_option autoImplicit false
set_option relaxedAutoImplicit false

namespace RadioScan.Json

/-- A part of a string: a byte, or the number of a UTF-16 unit given by an escape. -/
inductive Part
  | byte (byte : UInt8)
  | unit (unit : Nat)
  deriving DecidableEq, Repr

/-- The parts of a string up to its closing quote or the first problem, and what follows the
quote. -/
structure Scan where
  parts : List Part
  ending : Except Fault Bytes

namespace Scan

def failed (fault : Fault) : Scan := ⟨[], .error fault⟩

def cons (part : Part) (scan : Scan) : Scan := { scan with parts := part :: scan.parts }

end Scan

/-- The byte that an escape of one letter stands for. -/
def shortEscape? : Char → Option UInt8
  | '"' => some 0x22
  | '\\' => some 0x5C
  | '/' => some 0x2F
  | 'b' => some 0x08
  | 'f' => some 0x0C
  | 'n' => some 0x0A
  | 'r' => some 0x0D
  | 't' => some 0x09
  | _ => none

/-- The number that four hexadecimal digits stand for. -/
def unit? (digits : Bytes) : Option Nat :=
  (digits.mapM fun byte ↦ Text.Hex.digit? (Char.ofUInt8 byte)).map fun digits ↦
    digits.foldl (fun value digit ↦ 16 * value + digit) 0

/-- Scans a string of which the opening quote has been read. -/
def scan : Bytes → Scan
  | [] => .failed .truncated
  | byte :: rest =>
    match Char.ofUInt8 byte with
    | '"' => ⟨[], .ok rest⟩
    | '\\' =>
      match rest with
      | [] => .failed .truncated
      | letter :: rest =>
        if Char.ofUInt8 letter = 'u' then
          match rest with
          | a :: b :: c :: d :: rest =>
            match unit? [a, b, c, d] with
            | some unit => (scan rest).cons (.unit unit)
            | none => .failed .malformed
          | _ => .failed .truncated
        else
          match shortEscape? (Char.ofUInt8 letter) with
          | some escaped => (scan rest).cons (.byte escaped)
          | none => .failed .malformed
    | _ => if byte < 0x20 then .failed .malformed else (scan rest).cons (.byte byte)

/-- Goes past a string without looking at its text. -/
def skipString (input : Bytes) : Except Fault Bytes := (scan input).ending

def isHighSurrogate (unit : Nat) : Bool := 0xD800 ≤ unit && unit < 0xDC00

def isLowSurrogate (unit : Nat) : Bool := 0xDC00 ≤ unit && unit < 0xE000

/-- The bytes that a scanned string stands for, with each escaped character in UTF-8. -/
def joined (ending : Except Fault Bytes) : List Part → Except Fault Bytes
  | [] => ending.map fun _ ↦ []
  | .byte byte :: rest => (joined ending rest).map (byte :: ·)
  | .unit unit :: rest =>
    if isLowSurrogate unit then .error .malformed
    else if isHighSurrogate unit then
      match rest with
      | [] => ending.bind fun _ ↦ .error .malformed
      | .byte _ :: _ => .error .malformed
      | .unit low :: rest =>
        if isLowSurrogate low then
          let c := Char.ofNat (0x10000 + (unit - 0xD800) * 0x400 + (low - 0xDC00))
          (joined ending rest).map (String.utf8EncodeChar c ++ ·)
        else .error .malformed
    else (joined ending rest).map (String.utf8EncodeChar (Char.ofNat unit) ++ ·)

/-- Reads a string of which the opening quote has been read. -/
def readString (input : Bytes) : Except Fault (List Char × Bytes) :=
  let scanned := scan input
  match joined scanned.ending scanned.parts with
  | .error fault => .error fault
  | .ok bytes =>
    match Text.Utf8.decode? bytes with
    | none => .error .malformed
    | some text => scanned.ending.map fun rest ↦ (text, rest)

@[simp] theorem Scan.ending_cons (part : Part) (scan : Scan) :
    (scan.cons part).ending = scan.ending := rfl

theorem length_lt_of_skipString {input rest : Bytes} (h : skipString input = .ok rest) :
    rest.length < input.length := by
  unfold skipString at h
  fun_induction scan input with
  | case1 => contradiction
  | case2 byte tail hquote =>
    obtain rfl := Except.ok.inj h
    exact Nat.lt_succ_self _
  | _ => simp_all [Scan.failed] <;> omega

theorem length_lt_of_readString {input rest : Bytes} {text : List Char}
    (h : readString input = .ok (text, rest)) : rest.length < input.length := by
  unfold readString at h
  simp only at h
  split at h
  · contradiction
  · split at h
    · contradiction
    · apply length_lt_of_skipString
      cases hending : (scan input).ending with
      | error => simp [hending, Except.map] at h
      | ok tail =>
        simp only [hending, Except.map, Except.ok.injEq, Prod.mk.injEq] at h
        rw [skipString, hending, h.2]

end RadioScan.Json
