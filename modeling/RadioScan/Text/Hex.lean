import RadioScan.Bytes

/-!
Bytes as hexadecimal digits, two to a byte, the high half first. Reading takes small and capital
letters. What writes capital letters is left open: a `HexEncoder` is any function that does it, and
`HexEncoder.Documented` is what can be relied on of one. `Text.Hex.upper` is the one that runs.
-/

set_option autoImplicit false
set_option relaxedAutoImplicit false

namespace RadioScan

namespace Text.Hex

/-- The two digits of a byte, with small letters. -/
def ofByte (byte : UInt8) : List Char :=
  [Nat.digitChar (byte.toNat / 16), Nat.digitChar (byte.toNat % 16)]

def lower (bytes : Bytes) : List Char := bytes.flatMap ofByte

/-- The digit of a value below sixteen, with a capital letter if it is one. -/
def capital (value : Nat) : Char := (Nat.digitChar value).toUpper

def upper (bytes : Bytes) : List Char :=
  bytes.flatMap fun byte ↦ [capital (byte.toNat / 16), capital (byte.toNat % 16)]

/-- The value of a digit. -/
def digit? (c : Char) : Option Nat :=
  (List.range 16).find? fun value ↦ c = Nat.digitChar value ∨ c = capital value

def decode? : List Char → Option Bytes
  | [] => some []
  | [_] => none
  | high :: low :: rest => do
    let high ← digit? high
    let low ← digit? low
    return UInt8.ofNat (16 * high + low) :: (← decode? rest)

theorem digit?_digitChar {value : Nat} (h : value < 16) :
    digit? (Nat.digitChar value) = some value := by
  have all : ∀ value ∈ List.range 16, digit? (Nat.digitChar value) = some value := by
    decide +kernel
  exact all value (List.mem_range.mpr h)

theorem digit?_capital {value : Nat} (h : value < 16) : digit? (capital value) = some value := by
  have all : ∀ value ∈ List.range 16, digit? (capital value) = some value := by
    decide +kernel
  exact all value (List.mem_range.mpr h)

theorem decode?_cons_cons {high low : Char} {byte : UInt8} {rest : List Char}
    (hhigh : digit? high = some (byte.toNat / 16)) (hlow : digit? low = some (byte.toNat % 16)) :
    decode? (high :: low :: rest) = (decode? rest).map (byte :: ·) := by
  rw [decode?, hhigh, hlow]
  cases decode? rest with
  | none => rfl
  | some bytes =>
    change some (UInt8.ofNat (16 * (byte.toNat / 16) + byte.toNat % 16) :: bytes) = _
    rw [Nat.div_add_mod, UInt8.ofNat_toNat]
    rfl

theorem high_lt (byte : UInt8) : byte.toNat / 16 < 16 := by
  have := byte.toNat_lt
  omega

theorem low_lt (byte : UInt8) : byte.toNat % 16 < 16 := Nat.mod_lt _ (by decide)

theorem decode?_lower (bytes : Bytes) : decode? (lower bytes) = some bytes := by
  induction bytes with
  | nil => rfl
  | cons byte bytes ih =>
    have step : lower (byte :: bytes) = Nat.digitChar (byte.toNat / 16)
        :: Nat.digitChar (byte.toNat % 16) :: lower bytes := rfl
    rw [step, decode?_cons_cons (digit?_digitChar (high_lt byte)) (digit?_digitChar (low_lt byte)),
      ih]
    rfl

end Text.Hex

/-- Writes bytes as hexadecimal digits with capital letters. -/
class HexEncoder where
  encode : Bytes → List Char

/-- The encoder that runs. -/
instance : HexEncoder := ⟨Text.Hex.upper⟩

namespace HexEncoder

open Text.Hex

/-- What an encoder is documented to do: bytes are written one after the other, each as the digits
of its two halves. -/
structure Documented [HexEncoder] : Prop where
  encode_nil : encode [] = []
  encode_cons : ∀ byte rest, encode (byte :: rest) =
    capital (byte.toNat / 16) :: capital (byte.toNat % 16) :: encode rest

theorem Documented.upper : Documented := ⟨rfl, fun _ _ ↦ rfl⟩

namespace Documented

variable [HexEncoder] (documented : Documented)
include documented

theorem decode?_encode (bytes : Bytes) : decode? (encode bytes) = some bytes := by
  induction bytes with
  | nil =>
    rw [documented.encode_nil]
    rfl
  | cons byte rest ih =>
    rw [documented.encode_cons, decode?_cons_cons (digit?_capital (high_lt byte))
      (digit?_capital (low_lt byte)), ih]
    rfl

theorem exists_capital_of_mem {c : Char} {bytes : Bytes} (h : c ∈ encode bytes) :
    ∃ value < 16, c = capital value := by
  induction bytes with
  | nil =>
    rw [documented.encode_nil] at h
    exact absurd h List.not_mem_nil
  | cons byte rest ih =>
    rw [documented.encode_cons, List.mem_cons, List.mem_cons] at h
    rcases h with rfl | rfl | hrest
    · exact ⟨_, high_lt byte, rfl⟩
    · exact ⟨_, low_lt byte, rfl⟩
    · exact ih hrest

end Documented

end HexEncoder

end RadioScan
