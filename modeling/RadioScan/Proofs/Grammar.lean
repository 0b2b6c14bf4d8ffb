import RadioScan.Json.Library
import RadioScan.Json.Value

/-!
The grammar of JSON texts, apart from any reader. A text between quotes is derived in two ways: for
itself, and together with the text that it spells. What stands in a list and what stands in an
object are derived by the same rules, as only a member has something in front of its value.
-/

set_option autoImplicit false
set_option relaxedAutoImplicit false

namespace RadioScan.Json

def blanks : List Char := [' ', '\t', '\n', '\r']

/-- Checks a property of the characters of a list one by one. -/
theorem forall_mem_of_all {p : Char → Prop} [DecidablePred p] {chars : List Char}
    (h : chars.all (fun c ↦ decide (p c)) = true) : ∀ c ∈ chars, p c :=
  fun c hmem ↦ of_decide_eq_true (List.all_eq_true.mp h c hmem)

/-- What may stand between two tokens. -/
def Blank (text : List Char) : Prop := ∀ c ∈ text, c ∈ blanks

/-! ### Numbers -/

def Digits (text : List Char) : Prop := text ≠ [] ∧ ∀ c ∈ text, c.isDigit = true

/-- The part of a number before the point, which begins with zero only if that is all of it. -/
inductive Whole : List Char → Prop
  | zero : Whole ['0']
  | digits {text : List Char} (hdigits : Digits text) (hzero : text.head? ≠ some '0') : Whole text

inductive Fraction : List Char → Prop
  | none : Fraction []
  | digits {text : List Char} (hdigits : Digits text) : Fraction ('.' :: text)

inductive Exponent : List Char → Prop
  | none : Exponent []
  | digits {letter : Char} {sign text : List Char} (hletter : letter ∈ ['e', 'E'])
      (hsign : sign ∈ [[], ['+'], ['-']]) (hdigits : Digits text) :
      Exponent (letter :: (sign ++ text))

/-- A number without its minus, if it has one. -/
inductive Magnitude : List Char → Prop
  | parts {whole fraction exponent : List Char} (hwhole : Whole whole)
      (hfraction : Fraction fraction) (hexponent : Exponent exponent) :
      Magnitude (whole ++ (fraction ++ exponent))

/-! ### Strings -/

/-- The character may stand between quotes as it is. -/
def Plain (c : Char) : Prop := ' ' ≤ c ∧ c ≠ '"' ∧ c ≠ '\\'

instance (c : Char) : Decidable (Plain c) := inferInstanceAs (Decidable (_ ∧ _ ∧ _))

/-- The letters that can follow a backslash, and what they stand for. -/
def shortEscapes : List (Char × Char) :=
  [('"', '"'), ('\\', '\\'), ('/', '/'), ('b', '\x08'), ('f', '\x0c'), ('n', '\n'), ('r', '\r'),
    ('t', '\t')]

/-- The four hexadecimal digits of a UTF-16 unit. -/
inductive FourDigits : List Char → Nat → Prop
  | digits {first second third fourth : Char} {a b c d : Nat}
      (hfirst : Text.Hex.digit? first = some a) (hsecond : Text.Hex.digit? second = some b)
      (hthird : Text.Hex.digit? third = some c) (hfourth : Text.Hex.digit? fourth = some d) :
      FourDigits [first, second, third, fourth] (16 * (16 * (16 * a + b) + c) + d)

/-- What may stand between quotes. -/
inductive Quotable : List Char → Prop
  | nil : Quotable []
  | plain {c : Char} {rest : List Char} (hplain : Plain c) (hrest : Quotable rest) :
      Quotable (c :: rest)
  | short {letter c : Char} {rest : List Char} (hletter : (letter, c) ∈ shortEscapes)
      (hrest : Quotable rest) : Quotable ('\\' :: letter :: rest)
  | unit {digits rest : List Char} {unit : Nat} (hdigits : FourDigits digits unit)
      (hrest : Quotable rest) : Quotable ('\\' :: 'u' :: (digits ++ rest))

/-- What stands between quotes spells the text. A unit that is half of a surrogate pair spells
nothing without the other half. -/
inductive Spells : List Char → List Char → Prop
  | nil : Spells [] []
  | plain {c : Char} {rest text : List Char} (hplain : Plain c) (hrest : Spells rest text) :
      Spells (c :: rest) (c :: text)
  | short {letter c : Char} {rest text : List Char} (hletter : (letter, c) ∈ shortEscapes)
      (hrest : Spells rest text) : Spells ('\\' :: letter :: rest) (c :: text)
  | unit {digits rest text : List Char} {unit : Nat} (hdigits : FourDigits digits unit)
      (hunit : unit < 0xD800 ∨ 0xE000 ≤ unit) (hrest : Spells rest text) :
      Spells ('\\' :: 'u' :: (digits ++ rest)) (Char.ofNat unit :: text)
  | pair {first second rest text : List Char} {high low : Nat} (hfirst : FourDigits first high)
      (hsecond : FourDigits second low) (hhigh : 0xD800 ≤ high ∧ high < 0xDC00)
      (hlow : 0xDC00 ≤ low ∧ low < 0xE000) (hrest : Spells rest text) :
      Spells ('\\' :: 'u' :: (first ++ '\\' :: 'u' :: (second ++ rest)))
        (Char.ofNat (0x10000 + (high - 0xD800) * 0x400 + (low - 0xDC00)) :: text)

/-- A text without quotes, backslashes and control characters spells itself. -/
theorem Spells.of_forall_plain {text : List Char} (h : ∀ c ∈ text, Plain c) : Spells text text := by
  induction text with
  | nil => exact .nil
  | cons c rest ih =>
    exact .plain (h c List.mem_cons_self) (ih fun c hmem ↦ h c (List.mem_cons_of_mem _ hmem))

theorem Spells.quotable {source text : List Char} (h : Spells source text) : Quotable source := by
  induction h with
  | nil => exact .nil
  | plain hplain _ ih => exact .plain hplain ih
  | short hletter _ ih => exact .short hletter ih
  | unit hdigits _ _ ih => exact .unit hdigits ih
  | pair hfirst hsecond _ _ _ ih => exact .unit hfirst (.unit hsecond ih)

/-! ### Values -/

/-- What is derived: a value, or what stands between the brackets of a list or an object. -/
inductive Kind
  | value
  | contents (frame : Frame)

def Frame.opening : Frame → Char
  | list => '['
  | object => '\x7b'

/-- What stands in front of a value in a list or an object, up to the blanks. -/
inductive Introduces : Frame → List Char → Prop
  | item : Introduces .list []
  | member {before name after : List Char} (hbefore : Blank before) (hname : Quotable name)
      (hafter : Blank after) :
      Introduces .object (before ++ '"' :: (name ++ '"' :: (after ++ [':'])))

def flagText (value : Bool) : List Char :=
  if value then ['t', 'r', 'u', 'e'] else ['f', 'a', 'l', 's', 'e']

/-- The texts of each kind. -/
inductive Derives : Kind → List Char → Prop
  | null : Derives .value ['n', 'u', 'l', 'l']
  | flag (value : Bool) : Derives .value (flagText value)
  | negative {text : List Char} (hmagnitude : Magnitude text) : Derives .value ('-' :: text)
  | natural {text : List Char} (hmagnitude : Magnitude text) : Derives .value text
  | string {text : List Char} (hquotable : Quotable text) : Derives .value ('"' :: (text ++ ['"']))
  | empty {frame : Frame} {text : List Char} (hblank : Blank text) :
      Derives .value (frame.opening :: (text ++ [frame.closing]))
  | filled {frame : Frame} {text : List Char} (hcontents : Derives (.contents frame) text) :
      Derives .value (frame.opening :: (text ++ [frame.closing]))
  | last {frame : Frame} {intro before value after : List Char} (hintro : Introduces frame intro)
      (hbefore : Blank before) (hvalue : Derives .value value) (hafter : Blank after) :
      Derives (.contents frame) (intro ++ (before ++ (value ++ after)))
  | more {frame : Frame} {intro before value after rest : List Char}
      (hintro : Introduces frame intro) (hbefore : Blank before) (hvalue : Derives .value value)
      (hafter : Blank after) (hrest : Derives (.contents frame) rest) :
      Derives (.contents frame) (intro ++ (before ++ (value ++ (after ++ ',' :: rest))))

/-! ### Objects and their members -/

/-- The text is the member, with blanks between its tokens. -/
inductive Member.Spelled : Member → List Char → Prop
  | parts {name before spelling afterName beforeValue value after : List Char}
      (hbefore : Blank before) (hspelling : Spells spelling name) (hafterName : Blank afterName)
      (hbeforeValue : Blank beforeValue) (hvalue : Derives .value value) (hafter : Blank after) :
      Spelled ⟨name, value⟩ (before ++ '"' :: (spelling ++ '"' ::
        (afterName ++ ':' :: (beforeValue ++ (value ++ after)))))

/-- The text is the members, with commas between them. -/
inductive MemberList : List Member → List Char → Prop
  | last {member : Member} {text : List Char} (hmember : member.Spelled text) :
      MemberList [member] text
  | more {member : Member} {text rest : List Char} {members : List Member}
      (hmember : member.Spelled text) (hrest : MemberList members rest) :
      MemberList (member :: members) (text ++ ',' :: rest)

/-- The text is an object that has just these members, in this order. -/
inductive Object : List Member → List Char → Prop
  | empty {before within after : List Char} (hbefore : Blank before) (hwithin : Blank within)
      (hafter : Blank after) : Object [] (before ++ '\x7b' :: (within ++ '\x7d' :: after))
  | filled {members : List Member} {before text after : List Char} (hbefore : Blank before)
      (hmembers : MemberList members text) (hafter : Blank after) :
      Object members (before ++ '\x7b' :: (text ++ '\x7d' :: after))

/-! ### How texts begin -/

/-- The characters that values and members begin with. -/
def beginnings : List Char := "\"-0123456789[\x7btfn".toList

/-- After some blanks, the text begins like a value or a member. -/
def Begins (text : List Char) : Prop :=
  ∃ before c tail, text = before ++ c :: tail ∧ Blank before ∧ c ∈ beginnings

theorem blank_nil : Blank [] := List.forall_mem_nil _

theorem Begins.of_cons {c : Char} (h : c ∈ beginnings) (tail : List Char) : Begins (c :: tail) :=
  ⟨[], c, tail, rfl, blank_nil, h⟩

theorem Begins.append {text : List Char} (h : Begins text) (rest : List Char) :
    Begins (text ++ rest) := by
  obtain ⟨before, c, tail, rfl, hbefore, hc⟩ := h
  exact ⟨before, c, tail ++ rest, by simp, hbefore, hc⟩

theorem Begins.blank_append {before text : List Char} (h : Begins text) (hbefore : Blank before) :
    Begins (before ++ text) := by
  obtain ⟨between, c, tail, rfl, hbetween, hc⟩ := h
  exact ⟨before ++ between, c, tail, by simp, List.forall_mem_append.mpr ⟨hbefore, hbetween⟩, hc⟩

theorem mem_beginnings_of_isDigit {c : Char} (h : c.isDigit = true) : c ∈ beginnings := by
  have hrange : c.toNat ∈ List.range' 48 10 := by
    have hdigit : 48 ≤ c.toNat ∧ c.toNat ≤ 57 := Char.isDigit_iff_toNat.mp h
    rw [List.mem_range'_1]
    omega
  have all : ∀ value ∈ List.range' 48 10, Char.ofNat value ∈ beginnings := by decide
  simpa using all c.toNat hrange

theorem Digits.exists_cons {text : List Char} (h : Digits text) :
    ∃ c tail, text = c :: tail ∧ c.isDigit = true := by
  obtain ⟨hne, hall⟩ := h
  obtain ⟨c, tail, rfl⟩ := List.exists_cons_of_ne_nil hne
  exact ⟨c, tail, rfl, hall c List.mem_cons_self⟩

theorem Magnitude.exists_cons {text : List Char} (h : Magnitude text) :
    ∃ c tail, text = c :: tail ∧ c.isDigit = true := by
  obtain ⟨hwhole, _, _⟩ := h
  cases hwhole with
  | zero => exact ⟨'0', _, rfl, by decide⟩
  | digits hdigits _ =>
    obtain ⟨c, tail, rfl, hc⟩ := hdigits.exists_cons
    exact ⟨c, _, rfl, hc⟩

theorem Introduces.begins {frame : Frame} {intro text : List Char} (h : Introduces frame intro)
    (htext : Begins text) : Begins (intro ++ text) := by
  cases h with
  | item => exact htext
  | member hbefore _ _ =>
    rw [List.append_assoc]
    exact Begins.blank_append (.of_cons (by decide) _) hbefore

theorem Derives.begins {kind : Kind} {text : List Char} (h : Derives kind text) : Begins text := by
  induction h with
  | null => exact .of_cons (by decide) _
  | flag value => cases value <;> exact .of_cons (by decide) _
  | negative _ => exact .of_cons (by decide) _
  | natural hmagnitude =>
    obtain ⟨c, tail, rfl, hc⟩ := hmagnitude.exists_cons
    exact .of_cons (mem_beginnings_of_isDigit hc) tail
  | string _ => exact .of_cons (by decide) _
  | @empty frame _ _ => exact .of_cons (by cases frame <;> decide) _
  | @filled frame _ _ _ => exact .of_cons (by cases frame <;> decide) _
  | last hintro hbefore _ _ ih => exact hintro.begins ((ih.append _).blank_append hbefore)
  | more hintro hbefore _ _ _ ih _ => exact hintro.begins ((ih.append _).blank_append hbefore)

end RadioScan.Json
