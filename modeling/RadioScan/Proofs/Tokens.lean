import RadioScan.Proofs.Decoding
import RadioScan.Proofs.Grammar

/-!
Reading the tokens of JSON texts. Each reader goes past a token that the grammar derives, and stops
where it ends. Only a number has to be followed by something that cannot be a part of it.

A number of 64 bits is read as the number that its digits were written from
(`Json.readNumber_toDigits`), so printing and the check against overflow meet at the greatest one. A
string is read as the text that it spells, escapes and surrogate pairs included
(`Json.readString_append`). To go past a string, it need not spell a text
(`Json.skipString_append`).
-/

set_option autoImplicit false
set_option relaxedAutoImplicit false

namespace RadioScan.Json

open Text.Utf8 (utf8)

/-! ### Characters -/

/-- An ASCII character as a byte. -/
def octet (c : Char) : UInt8 := UInt8.ofNat c.toNat

theorem utf8_cons_of_lt {c : Char} (h : c.toNat < 0x80) (rest : List Char) :
    utf8 (c :: rest) = octet c :: utf8 rest := by
  rw [Text.Utf8.utf8_cons, Text.Utf8.utf8EncodeChar_of_lt h]
  rfl

theorem toNat_octet {c : Char} (h : c.toNat < 0x80) : (octet c).toNat = c.toNat := by
  rw [octet, UInt8.toNat_ofNat']
  omega

theorem ofUInt8_octet {c : Char} (h : c.toNat < 0x80) : Char.ofUInt8 (octet c) = c :=
  Char.toNat_inj.mp (toNat_octet h)

/-- What follows begins with one of these characters, if there is anything. -/
def Followed (allowed rest : List Char) : Prop := ∀ c ∈ rest.head?, c ∈ allowed

variable {before rest : List Char}

theorem Followed.mono {allowed more : List Char} (h : Followed allowed rest)
    (hsubset : allowed ⊆ more) : Followed more rest := fun c hmem ↦ hsubset (h c hmem)

theorem Followed.of_cons {allowed : List Char} {c : Char} (h : c ∈ allowed) (tail : List Char) :
    Followed allowed (c :: tail) := by
  intro first hfirst
  rwa [← Option.some.inj hfirst]

/-! ### Blanks -/

theorem skipBlanks_append (hbefore : Blank before) (rest : List Char) :
    skipBlanks (utf8 (before ++ rest)) = skipBlanks (utf8 rest) := by
  induction before with
  | nil => rfl
  | cons c before ih =>
    obtain ⟨hc, hbefore⟩ := List.forall_mem_cons.mp hbefore
    have all : ∀ c ∈ blanks, c.toNat < 0x80 ∧ isBlank (octet c) = true :=
      forall_mem_of_all (by decide)
    obtain ⟨hascii, hblank⟩ := all c hc
    rw [List.cons_append, utf8_cons_of_lt hascii, skipBlanks, List.dropWhile_cons_of_pos hblank]
    exact ih hbefore

theorem next?_append (hbefore : Blank before) (rest : List Char) :
    next? (utf8 (before ++ rest)) = next? (utf8 rest) := by
  rw [next?, skipBlanks_append hbefore, next?]

/-- The characters that tokens begin with. -/
def tokenStarts : List Char := beginnings ++ [',', ':', ']', '\x7d']

theorem tokenStarts_ascii : ∀ c ∈ tokenStarts, c.toNat < 0x80 ∧ isBlank (octet c) = false :=
  forall_mem_of_all (by decide)

theorem skipBlanks_cons {c : Char} (h : c ∈ tokenStarts) (rest : List Char) :
    skipBlanks (utf8 (c :: rest)) = octet c :: utf8 rest := by
  obtain ⟨hascii, hblank⟩ := tokenStarts_ascii c h
  rw [utf8_cons_of_lt hascii, skipBlanks, List.dropWhile_cons_of_neg (by simp [hblank])]

theorem next?_cons {c : Char} (h : c ∈ tokenStarts) (rest : List Char) :
    next? (utf8 (c :: rest)) = some (c, utf8 rest) := by
  rw [next?, skipBlanks_cons h]
  simp only [ofUInt8_octet (tokenStarts_ascii c h).1]

theorem Begins.next? {text : List Char} (h : Begins text) :
    ∃ c tail, c ∈ beginnings ∧ next? (utf8 text) = some (c, tail) := by
  obtain ⟨before, c, tail, rfl, hbefore, hc⟩ := h
  refine ⟨c, utf8 tail, hc, ?_⟩
  rw [next?_append hbefore, next?_cons (List.mem_append_left _ hc)]

/-! ### Numbers -/

/-- What can follow a number. -/
def afterNumber : List Char := blanks ++ [',', ']', '\x7d']

def afterFraction : List Char := ['e', 'E'] ++ afterNumber

def afterWhole : List Char := '.' :: afterFraction

theorem Followed.afterFraction (h : Followed afterNumber rest) : Followed afterFraction rest :=
  h.mono (List.subset_append_right _ _)

theorem Followed.afterWhole (h : Followed Json.afterFraction rest) : Followed afterWhole rest :=
  h.mono (List.subset_cons_self _ _)

theorem Exponent.followed {text : List Char} (h : Exponent text)
    (hrest : Followed afterNumber rest) : Followed afterFraction (text ++ rest) := by
  cases h with
  | none => exact hrest.afterFraction
  | digits hletter _ _ => exact .of_cons (List.mem_append_left _ hletter) _

theorem Fraction.followed {text : List Char} (h : Fraction text)
    (hrest : Followed afterFraction rest) : Followed afterWhole (text ++ rest) := by
  cases h with
  | none => exact hrest.afterWhole
  | digits _ => exact .of_cons List.mem_cons_self _

def digitValue (c : Char) : Nat := c.toNat - 48

theorem digit?_octet {c : Char} (h : c.isDigit = true) :
    digit? (octet c) = some (digitValue c) := by
  have hrange : 48 ≤ c.toNat ∧ c.toNat ≤ 57 := Char.isDigit_iff_toNat.mp h
  have hvalue : (octet c).toNat = c.toNat := toNat_octet (by omega)
  have hdigit : 0x30 ≤ octet c ∧ octet c ≤ 0x39 := by
    simpa only [UInt8.le_iff_toNat_le, hvalue, UInt8.reduceToNat] using hrange
  rw [digit?, if_pos hdigit, hvalue]
  rfl

theorem ascii_of_isDigit {c : Char} (h : c.isDigit = true) : c.toNat < 0x80 := by
  have hrange : 48 ≤ c.toNat ∧ c.toNat ≤ 57 := Char.isDigit_iff_toNat.mp h
  omega

theorem digits_followed (hrest : Followed afterWhole rest) :
    digits (utf8 rest) = ([], utf8 rest) := by
  cases rest with
  | nil => rfl
  | cons c tail =>
    have hnone : ∀ c ∈ afterWhole, c.toNat < 0x80 ∧ digit? (octet c) = none :=
      forall_mem_of_all (by decide)
    obtain ⟨hascii, hdigit⟩ := hnone c (hrest c rfl)
    rw [utf8_cons_of_lt hascii, digits, hdigit]

theorem digits_append {text : List Char} (htext : ∀ c ∈ text, c.isDigit = true)
    (hrest : Followed afterWhole rest) :
    digits (utf8 (text ++ rest)) = (text.map digitValue, utf8 rest) := by
  induction text with
  | nil => exact digits_followed hrest
  | cons c text ih =>
    obtain ⟨hc, htext⟩ := List.forall_mem_cons.mp htext
    rw [List.cons_append, utf8_cons_of_lt (ascii_of_isDigit hc), digits, digit?_octet hc]
    simp only [ih htext, List.map_cons]

theorem someDigits_append {text : List Char} (htext : Digits text)
    (hrest : Followed afterWhole rest) (atEnd : Fault) :
    someDigits atEnd (utf8 (text ++ rest)) = .ok (text.map digitValue, utf8 rest) := by
  have hdigits := digits_append htext.2 hrest
  obtain ⟨c, tail, rfl, _⟩ := htext.exists_cons
  rw [someDigits, hdigits, List.map_cons]

namespace Numeral

theorem readWhole_append {text : List Char} (htext : Whole text) (hrest : Followed afterWhole rest)
    (atEnd : Fault) :
    readWhole atEnd (utf8 (text ++ rest)) = .ok (text.map digitValue, utf8 rest) := by
  cases htext with
  | zero =>
    have hdigits : Digits ['0'] := ⟨List.cons_ne_nil _ _, forall_mem_of_all (by decide)⟩
    rw [readWhole, someDigits_append hdigits hrest]
    rfl
  | digits hdigits hzero =>
    rw [readWhole, someDigits_append hdigits hrest]
    obtain ⟨c, tail, rfl, hc⟩ := hdigits.exists_cons
    have hvalue : digitValue c ≠ 0 := by
      have hrange : 48 ≤ c.toNat ∧ c.toNat ≤ 57 := Char.isDigit_iff_toNat.mp hc
      have hchar : c.toNat ≠ 48 := fun heq ↦ hzero (congrArg some (Char.toNat_inj.mp heq))
      rw [digitValue]
      omega
    split
    · contradiction
    · next heq =>
      simp only [List.map_cons, Except.ok.injEq, Prod.mk.injEq, List.cons.injEq] at heq
      exact absurd heq.1.1 hvalue
    · next heq => exact heq.symm

theorem readFraction_followed (hrest : Followed afterFraction rest) (atEnd : Fault) :
    readFraction atEnd (utf8 rest) = .ok ([], utf8 rest) := by
  cases rest with
  | nil => rfl
  | cons c tail =>
    have hpoint : ∀ c ∈ afterFraction, c.toNat < 0x80 ∧ c ≠ '.' := forall_mem_of_all (by decide)
    obtain ⟨hascii, hpoint⟩ := hpoint c (hrest c rfl)
    rw [utf8_cons_of_lt hascii, readFraction, ofUInt8_octet hascii, if_neg hpoint]

theorem readFraction_append {text : List Char} (htext : Fraction text)
    (hrest : Followed afterFraction rest) (atEnd : Fault) :
    ∃ found, readFraction atEnd (utf8 (text ++ rest)) = .ok (found, utf8 rest) := by
  cases htext with
  | none => exact ⟨_, readFraction_followed hrest atEnd⟩
  | @digits text hdigits =>
    refine ⟨text.map digitValue, ?_⟩
    rw [List.cons_append, utf8_cons_of_lt (by decide), readFraction, ofUInt8_octet (by decide),
      if_pos rfl]
    exact someDigits_append hdigits hrest.afterWhole atEnd

theorem readExponent_followed (hrest : Followed afterNumber rest) (atEnd : Fault) :
    readExponent atEnd (utf8 rest) = .ok (none, utf8 rest) := by
  cases rest with
  | nil => rfl
  | cons c tail =>
    have hletter : ∀ c ∈ afterNumber, c.toNat < 0x80 ∧ c.toLower ≠ 'e' :=
      forall_mem_of_all (by decide)
    obtain ⟨hascii, hletter⟩ := hletter c (hrest c rfl)
    rw [utf8_cons_of_lt hascii, readExponent, ofUInt8_octet hascii, if_neg hletter]

theorem readSign_append {sign text : List Char} (hsign : sign ∈ [[], ['+'], ['-']])
    (htext : Digits text) (rest : List Char) :
    ∃ negative, readSign (utf8 (sign ++ (text ++ rest))) = (negative, utf8 (text ++ rest)) := by
  obtain rfl | rfl | rfl : sign = [] ∨ sign = ['+'] ∨ sign = ['-'] := by simpa using hsign
  · obtain ⟨c, tail, rfl, hc⟩ := htext.exists_cons
    refine ⟨false, ?_⟩
    rw [List.nil_append, List.cons_append, utf8_cons_of_lt (ascii_of_isDigit hc), readSign,
      ofUInt8_octet (ascii_of_isDigit hc)]
    split
    · exact absurd hc (by decide)
    · exact absurd hc (by decide)
    · rfl
  · exact ⟨false, rfl⟩
  · exact ⟨true, rfl⟩

theorem readExponent_append {text : List Char} (htext : Exponent text)
    (hrest : Followed afterNumber rest) (atEnd : Fault) :
    ∃ found, readExponent atEnd (utf8 (text ++ rest)) = .ok (found, utf8 rest) := by
  cases htext with
  | none => exact ⟨_, readExponent_followed hrest atEnd⟩
  | @digits letter sign text hletter hsign hdigits =>
    have hall : ∀ letter ∈ ['e', 'E'], letter.toNat < 0x80 ∧ letter.toLower = 'e' :=
      forall_mem_of_all (by decide)
    have hlower := hall letter hletter
    obtain ⟨negative, hread⟩ := readSign_append hsign hdigits rest
    refine ⟨some (if negative then -(ofDigits (text.map digitValue) : Int)
      else ofDigits (text.map digitValue)), ?_⟩
    rw [List.cons_append, utf8_cons_of_lt hlower.1, readExponent, ofUInt8_octet hlower.1,
      if_pos hlower.2, List.append_assoc, hread]
    simp only [someDigits_append hdigits hrest.afterFraction.afterWhole]
    rfl

theorem read_append {text : List Char} (htext : Magnitude text) (hrest : Followed afterNumber rest)
    (atEnd : Fault) (negative : Bool) :
    ∃ numeral, read atEnd negative (utf8 (text ++ rest)) = .ok (numeral, utf8 rest) := by
  cases htext with
  | @parts whole _ _ hwhole hfraction hexponent =>
    have hafterFraction := hexponent.followed hrest
    have hafterWhole := hfraction.followed hafterFraction
    obtain ⟨fraction, hreadFraction⟩ := readFraction_append hfraction hafterFraction atEnd
    obtain ⟨exponent, hreadExponent⟩ := readExponent_append hexponent hrest atEnd
    refine ⟨⟨negative, whole.map digitValue, fraction, exponent⟩, ?_⟩
    rw [read, List.append_assoc, List.append_assoc, readWhole_append hwhole hafterWhole]
    simp only [hreadFraction, hreadExponent]

/-- A number without point and exponent is read as its digits. -/
theorem read_whole {text : List Char} (htext : Whole text) (hrest : Followed afterNumber rest)
    (atEnd : Fault) (negative : Bool) : read atEnd negative (utf8 (text ++ rest)) =
      .ok (⟨negative, text.map digitValue, [], none⟩, utf8 rest) := by
  rw [read, readWhole_append htext hrest.afterFraction.afterWhole]
  simp only [readFraction_followed hrest.afterFraction, readExponent_followed hrest]

end Numeral

/-! ### Natural numbers -/

theorem head?_toDigits_ne {value : Nat} (h : value ≠ 0) :
    (Nat.toDigits 10 value).head? ≠ some '0' := by
  induction value using Nat.strongRecOn with
  | ind value ih =>
    by_cases hsmall : value < 10
    · have all : ∀ value < 10, value ≠ 0 → [Nat.digitChar value].head? ≠ some '0' := by decide
      rw [Nat.toDigits_of_lt_base hsmall]
      exact all value hsmall h
    · have hhead := ih (value / 10) (by omega) (by omega)
      obtain ⟨c, tail, hcons⟩ :=
        List.exists_cons_of_ne_nil (Nat.toDigits_ne_nil : Nat.toDigits 10 (value / 10) ≠ [])
      rw [hcons] at hhead
      rw [Nat.toDigits_of_base_le (by decide) (Nat.le_of_not_lt hsmall), hcons]
      exact hhead

theorem digits_toDigits (value : Nat) : Digits (Nat.toDigits 10 value) :=
  ⟨Nat.toDigits_ne_nil, fun _ hmem ↦ Nat.isDigit_of_mem_toDigits (by decide) (by decide) hmem⟩

theorem whole_toDigits (value : Nat) : Whole (Nat.toDigits 10 value) := by
  by_cases hzero : value = 0
  · subst hzero
    exact .zero
  · exact .digits (digits_toDigits value) (head?_toDigits_ne hzero)

theorem Derives.toDigits (value : Nat) : Derives .value (Nat.toDigits 10 value) := by
  have hmagnitude := Magnitude.parts (whole_toDigits value) .none .none
  rw [List.append_nil, List.append_nil] at hmagnitude
  exact .natural hmagnitude

theorem ofDigits_toDigits (value : Nat) :
    ofDigits ((Nat.toDigits 10 value).map digitValue) = value := by
  rw [ofDigits, List.foldl_map]
  exact Nat.ofDigitChars_toDigits (by decide) (by decide)

namespace Numeral

theorem le_foldl_digits (value : Nat) (digits : List Nat) :
    value ≤ digits.foldl (fun value digit ↦ 10 * value + digit) value := by
  induction digits generalizing value with
  | nil => exact Nat.le_refl _
  | cons digit rest ih =>
    have hnext := ih (10 * value + digit)
    rw [List.foldl_cons]
    omega

/-- Digits of a number of 64 bits are all taken in. -/
theorem takeIn_of_lt {value : Nat} {digits : List Nat}
    (h : digits.foldl (fun value digit ↦ 10 * value + digit) value < Nat.pow 2 64) :
    takeIn value digits = (digits.foldl (fun value digit ↦ 10 * value + digit) value, 0) := by
  induction digits generalizing value with
  | nil => rfl
  | cons digit rest ih =>
    rw [List.foldl_cons] at h
    rw [takeIn, if_pos (Nat.lt_of_le_of_lt (le_foldl_digits _ rest) h), ih h, List.foldl_cons]

theorem exceedsRange_of_lt {negative : Bool} {whole : List Nat}
    (h : ofDigits whole < Nat.pow 2 64) :
    exceedsRange ⟨negative, whole, [], none⟩ = false := by
  have htake : takeIn 0 whole = (ofDigits whole, 0) := takeIn_of_lt h
  simp [exceedsRange, htake, takeIn, overflows]

theorem natural?_of_lt {whole : List Nat} (h : ofDigits whole < Nat.pow 2 64) :
    natural? ⟨false, whole, [], none⟩ = some (UInt64.ofNat (ofDigits whole)) := by
  rw [natural?, if_neg (by simp), if_pos h]

end Numeral

/-- A number of 64 bits is read as what it was written from. -/
theorem readNumber_toDigits (value : UInt64) (hrest : Followed afterNumber rest) :
    readNumber false false (utf8 (Nat.toDigits 10 value.toNat ++ rest)) =
      .ok (.number (some value), utf8 rest) := by
  have hvalue : ofDigits ((Nat.toDigits 10 value.toNat).map digitValue) < Nat.pow 2 64 := by
    rw [ofDigits_toDigits]
    exact value.toNat_lt
  rw [readNumber, Numeral.read_whole (whole_toDigits _) hrest]
  simp [Numeral.exceedsRange_of_lt hvalue, Numeral.natural?_of_lt hvalue, ofDigits_toDigits]

/-! ### Strings -/

/-- The byte may stand between quotes as it is. -/
def PlainByte (byte : UInt8) : Prop :=
  ¬ byte < 0x20 ∧ Char.ofUInt8 byte ≠ '"' ∧ Char.ofUInt8 byte ≠ '\\'

theorem scan_cons {byte : UInt8} (h : PlainByte byte) (rest : Bytes) :
    scan (byte :: rest) = (scan rest).cons (.byte byte) := by
  obtain ⟨hlow, hquote, hbackslash⟩ := h
  rw [scan.eq_def]
  simp only [if_neg hlow]

/-- The bytes are added to a scan as they are. -/
def Scan.prepend (bytes : Bytes) (scan : Scan) : Scan :=
  ⟨bytes.map .byte ++ scan.parts, scan.ending⟩

theorem scan_append {bytes : Bytes} (h : ∀ byte ∈ bytes, PlainByte byte) (rest : Bytes) :
    scan (bytes ++ rest) = (scan rest).prepend bytes := by
  induction bytes with
  | nil => rfl
  | cons byte bytes ih =>
    obtain ⟨hbyte, hbytes⟩ := List.forall_mem_cons.mp h
    rw [List.cons_append, scan_cons hbyte, ih hbytes]
    rfl

theorem plainByte_of_mem {c : Char} (h : Plain c) :
    ∀ byte ∈ String.utf8EncodeChar c, PlainByte byte := by
  intro byte hmem
  obtain ⟨hspace, hquote, hbackslash⟩ := h
  by_cases hascii : c.toNat < 0x80
  · rw [Text.Utf8.utf8EncodeChar_of_lt hascii, List.mem_singleton] at hmem
    obtain rfl : byte = octet c := hmem
    have hlow : ' '.toNat ≤ c.toNat := hspace
    rw [PlainByte, ofUInt8_octet hascii, UInt8.lt_iff_toNat_lt, toNat_octet hascii]
    exact ⟨Nat.not_lt.mpr hlow, hquote, hbackslash⟩
  · have hbyte := Text.Utf8.le_of_mem_utf8EncodeChar (Nat.le_of_not_lt hascii) hmem
    rw [UInt8.le_iff_toNat_le] at hbyte
    have hne (other : Char) (hother : other.toNat < 0x80) : Char.ofUInt8 byte ≠ other := by
      rintro rfl
      exact absurd hother (Nat.not_lt.mpr hbyte)
    refine ⟨?_, hne _ (by decide), hne _ (by decide)⟩
    rw [UInt8.lt_iff_toNat_lt]
    exact Nat.not_lt.mpr (Nat.le_trans (by decide) hbyte)

theorem scan_plain {c : Char} (h : Plain c) (rest : List Char) :
    scan (utf8 (c :: rest)) = (scan (utf8 rest)).prepend (String.utf8EncodeChar c) :=
  scan_append (plainByte_of_mem h) (utf8 rest)

theorem scan_quote (rest : List Char) : scan (utf8 ('"' :: rest)) = ⟨[], .ok (utf8 rest)⟩ := by
  rw [utf8_cons_of_lt (by decide), scan.eq_def]
  simp only [ofUInt8_octet (show '"'.toNat < 0x80 by decide)]

theorem scan_short {letter c : Char} (h : (letter, c) ∈ shortEscapes) (rest : List Char) :
    scan (utf8 ('\\' :: letter :: rest)) = (scan (utf8 rest)).prepend [octet c] := by
  have all : ∀ escape ∈ shortEscapes, escape.1.toNat < 0x80 ∧ escape.1 ≠ 'u' ∧
      shortEscape? escape.1 = some (octet escape.2) := by decide
  obtain ⟨hascii, hunit, hescape⟩ := all _ h
  rw [utf8_cons_of_lt (by decide), utf8_cons_of_lt hascii, scan.eq_def]
  simp only [ofUInt8_octet (show '\\'.toNat < 0x80 by decide), ofUInt8_octet hascii, if_neg hunit,
    hescape]
  rfl

theorem ascii_of_digit? {c : Char} {value : Nat} (h : Text.Hex.digit? c = some value) :
    c.toNat < 0x80 := by
  have all : ∀ value < 16, (Nat.digitChar value).toNat < 0x80 ∧
      (Text.Hex.capital value).toNat < 0x80 := by decide
  unfold Text.Hex.digit? at h
  have hvalue := List.mem_range.mp (List.mem_of_find?_eq_some h)
  have hchar := List.find?_some h
  rw [decide_eq_true_iff] at hchar
  rcases hchar with rfl | rfl
  · exact (all value hvalue).1
  · exact (all value hvalue).2

theorem scan_unit {digits : List Char} {unit : Nat} (h : FourDigits digits unit)
    (rest : List Char) :
    scan (utf8 ('\\' :: 'u' :: (digits ++ rest))) = (scan (utf8 rest)).cons (.unit unit) := by
  cases h with
  | @digits first second third fourth a b c d hfirst hsecond hthird hfourth =>
    have hunit : unit? [octet first, octet second, octet third, octet fourth] =
        some (16 * (16 * (16 * a + b) + c) + d) := by
      simp [unit?, ofUInt8_octet, ascii_of_digit? hfirst, ascii_of_digit? hsecond,
        ascii_of_digit? hthird, ascii_of_digit? hfourth, hfirst, hsecond, hthird, hfourth]
    rw [utf8_cons_of_lt (by decide), utf8_cons_of_lt (by decide), List.cons_append,
      List.cons_append, List.cons_append, List.cons_append, List.nil_append,
      utf8_cons_of_lt (ascii_of_digit? hfirst), utf8_cons_of_lt (ascii_of_digit? hsecond),
      utf8_cons_of_lt (ascii_of_digit? hthird), utf8_cons_of_lt (ascii_of_digit? hfourth),
      scan.eq_def]
    simp only [ofUInt8_octet (show '\\'.toNat < 0x80 by decide),
      ofUInt8_octet (show 'u'.toNat < 0x80 by decide), if_true, hunit]

/-- Going past a string depends on nothing but the grammar. -/
theorem skipString_append {text : List Char} (htext : Quotable text) (rest : List Char) :
    skipString (utf8 (text ++ '"' :: rest)) = .ok (utf8 rest) := by
  unfold skipString
  induction htext with
  | nil => rw [List.nil_append, scan_quote]
  | plain hplain _ ih => exact (congrArg Scan.ending (scan_plain hplain _)).trans ih
  | short hletter _ ih => exact (congrArg Scan.ending (scan_short hletter _)).trans ih
  | @unit digits text unit hdigits _ ih =>
    rw [List.cons_append, List.cons_append, List.append_assoc, scan_unit hdigits, Scan.ending_cons]
    exact ih

theorem joined_prepend {ending : Except Fault Bytes} {scan : Scan} {bytes : Bytes}
    (h : joined ending scan.parts = .ok bytes) (added : Bytes) :
    joined ending (scan.prepend added).parts = .ok (added ++ bytes) := by
  induction added with
  | nil => exact h
  | cons byte added ih =>
    change (joined ending (scan.prepend added).parts).map (byte :: ·) = _
    rw [ih]
    rfl

theorem joined_unit {ending : Except Fault Bytes} {parts : List Part} {bytes : Bytes} {unit : Nat}
    (hunit : unit < 0xD800 ∨ 0xE000 ≤ unit) (h : joined ending parts = .ok bytes) :
    joined ending (.unit unit :: parts) =
      .ok (String.utf8EncodeChar (Char.ofNat unit) ++ bytes) := by
  have hlow : ¬ isLowSurrogate unit = true := by
    simp only [isLowSurrogate, Bool.and_eq_true, decide_eq_true_eq]
    omega
  have hhigh : ¬ isHighSurrogate unit = true := by
    simp only [isHighSurrogate, Bool.and_eq_true, decide_eq_true_eq]
    omega
  rw [joined.eq_def]
  simp only [if_neg hlow, if_neg hhigh, h]
  rfl

theorem joined_pair {ending : Except Fault Bytes} {parts : List Part} {bytes : Bytes}
    {high low : Nat} (hhigh : 0xD800 ≤ high ∧ high < 0xDC00) (hlow : 0xDC00 ≤ low ∧ low < 0xE000)
    (h : joined ending parts = .ok bytes) :
    joined ending (.unit high :: .unit low :: parts) =
      .ok (String.utf8EncodeChar
        (Char.ofNat (0x10000 + (high - 0xD800) * 0x400 + (low - 0xDC00))) ++ bytes) := by
  have hfirst : ¬ isLowSurrogate high = true := by
    simp only [isLowSurrogate, Bool.and_eq_true, decide_eq_true_eq]
    omega
  have hsecond : isHighSurrogate high = true ∧ isLowSurrogate low = true := by
    simp only [isHighSurrogate, isLowSurrogate, Bool.and_eq_true, decide_eq_true_eq]
    omega
  rw [joined.eq_def]
  simp only [if_neg hfirst, if_pos hsecond.1, if_pos hsecond.2, h]
  rfl

/-- What a string spells is read, whatever the spelling. -/
theorem joined_scan {source text : List Char} (h : Spells source text) (rest : List Char) :
    joined (.ok (utf8 rest)) (scan (utf8 (source ++ '"' :: rest))).parts = .ok (utf8 text) := by
  induction h with
  | nil => rw [List.nil_append, scan_quote]; rfl
  | plain hplain _ ih =>
    rw [List.cons_append, scan_plain hplain]
    exact joined_prepend ih _
  | @short letter c source text hletter _ ih =>
    have hascii : ∀ escape ∈ shortEscapes, escape.2.toNat < 0x80 := by decide
    rw [List.cons_append, List.cons_append, scan_short hletter, utf8_cons_of_lt (hascii _ hletter)]
    exact joined_prepend ih _
  | @unit digits source text unit hdigits hunit _ ih =>
    rw [List.cons_append, List.cons_append, List.append_assoc, scan_unit hdigits]
    exact joined_unit hunit ih
  | @pair first second source text high low hfirst hsecond hhigh hlow _ ih =>
    rw [List.cons_append, List.cons_append, List.append_assoc, scan_unit hfirst, List.cons_append,
      List.cons_append, List.append_assoc, scan_unit hsecond]
    exact joined_pair hhigh hlow ih

theorem readString_append {source text : List Char} (h : Spells source text) (rest : List Char) :
    readString (utf8 (source ++ '"' :: rest)) = .ok (text, utf8 rest) := by
  have hending : (scan (utf8 (source ++ '"' :: rest))).ending = .ok (utf8 rest) :=
    skipString_append h.quotable rest
  simp only [readString, hending, joined_scan h rest, Text.Utf8.decode?_utf8]
  rfl

end RadioScan.Json
