import RadioScan.Proofs.Delivery
import RadioScan.Proofs.Rows

/-!
The information elements at the end of a report. Earlier lines may imitate the title, since names
are printed as they are, but no line after the genuine title can: these consist of hexadecimal
digits, or are empty. So the last title is the genuine one, and what follows it gives back the
elements (`Report.elements_recovered`), whatever encoder wrote the digits.
-/

set_option autoImplicit false
set_option relaxedAutoImplicit false

namespace RadioScan.Report

/-- A hexadecimal digit, with a capital letter if it is one. -/
def CapitalDigit (c : Char) : Prop := c ∈ "0123456789ABCDEF".toList

/-- The text ends with the title of the information elements, lines that follow no such title, and
an empty line. -/
structure EndsWith (text : List Char) (earlier digitLines : List (List Char)) : Prop where
  text_eq : text = Text.ofLines (Text.lines text)
  lines_eq : Text.lines text = earlier ++ elementsTitle :: (digitLines ++ [[]])
  title_not_mem : elementsTitle ∉ digitLines ++ [[]]
  digits : ∀ line ∈ digitLines, ∀ c ∈ line, CapitalDigit c

/-- Reads the information elements: the lines after the last title, less the empty one. -/
def readElements? (text : List Char) : Option (List Bytes) :=
  (Text.afterLast elementsTitle (Text.lines text)).dropLast.mapM Text.Hex.decode?

/-- No line of digits is the title, and neither is the empty line. -/
theorem elementsTitle_not_mem {digitLines : List (List Char)}
    (h : ∀ line ∈ digitLines, ∀ c ∈ line, CapitalDigit c) :
    elementsTitle ∉ digitLines ++ [[]] := by
  have hcolon : ':' ∈ elementsTitle := by decide
  have hdigit : ¬ CapitalDigit ':' := by
    unfold CapitalDigit
    decide
  intro hmem
  rcases List.mem_append.mp hmem with hmem | hmem
  · exact hdigit (h _ hmem _ hcolon)
  · exact absurd (List.mem_singleton.mp hmem) (by decide)

/-- The reader starts at the last title, so the earlier lines do not matter. -/
theorem EndsWith.readElements? {text : List Char} {earlier digitLines : List (List Char)}
    (h : EndsWith text earlier digitLines) :
    readElements? text = digitLines.mapM Text.Hex.decode? := by
  rw [Report.readElements?, h.lines_eq, Text.afterLast_append_cons h.title_not_mem,
    List.dropLast_concat]

section Encoded

variable [HexEncoder] (documented : HexEncoder.Documented)
include documented

theorem capitalDigit_of_mem_elementLines {report : Report} {line : List Char}
    (hline : line ∈ report.elementLines) : ∀ c ∈ line, CapitalDigit c := by
  obtain ⟨bytes, _, rfl⟩ := List.mem_map.mp hline
  intro c hmem
  obtain ⟨value, hvalue, rfl⟩ := documented.exists_capital_of_mem hmem
  have all : ∀ value < 16, Text.Hex.capital value ∈ "0123456789ABCDEF".toList := by decide
  exact all value hvalue

theorem endsWith_text (report : Report) :
    EndsWith report.text (scanTitle :: tableLines report.nowMillis report.scan
      ++ offloadTitle :: tableLines report.nowMillis report.offload) report.elementLines where
  text_eq := (lists_text documented report).text_eq
  lines_eq := by
    rw [lines_text documented]
    simp
  title_not_mem := elementsTitle_not_mem fun _ ↦ capitalDigit_of_mem_elementLines documented
  digits := fun _ ↦ capitalDigit_of_mem_elementLines documented

theorem readElements?_text (report : Report) :
    readElements? report.text = some report.listedElements := by
  rw [(endsWith_text documented report).readElements?, elementLines,
    mapM_decode?_encode documented]

/-- A report is written out in full, with either arithmetic, unless an age is missing. The text
after the last title of the information elements is made up of lines of hexadecimal digits and an
empty line, and decoding them gives the elements of the results that have any. So reports on
different elements differ. -/
theorem elements_recovered (report : Report) :
    (∀ arithmetic formatter, report.written? arithmetic formatter =
      if report.HasAges arithmetic then some report.text else none) ∧
    (∃ earlier digitLines, EndsWith report.text earlier digitLines ∧
      digitLines.mapM Text.Hex.decode? = some report.listedElements) ∧
    readElements? report.text = some report.listedElements ∧
    ∀ other : Report, other.listedElements ≠ report.listedElements → other.text ≠ report.text := by
  refine ⟨written?_eq report, ⟨_, _, endsWith_text documented report,
    mapM_decode?_encode documented _⟩, readElements?_text documented report, ?_⟩
  intro other hne htext
  have hread := readElements?_text documented other
  rw [htext, readElements?_text documented report] at hread
  exact hne (Option.some.inj hread).symm

end Encoded

/-- A report on a name that imitates the title and what follows it. The first result has no
elements, the second has an empty list of them. The age of the third does not fit in a word. -/
def imitating (last : Bytes) : Report where
  nowMillis := 9223372036854775807
  scan := some [named (Text.Utf8.utf8 ('\n' :: elementsTitle ++ "\nFF\n\n".toList)) 2412 (-40),
    { named [] 2412 (-40) with elements := some [] },
    ⟨{ (named [0x0A] 2412 (-40)).sighting with timestampMicros := -1000 }, some last⟩]
  offload := none

theorem elements_recovered_imitating :
    HexEncoder.Documented ∧
      (imitating []).written? .wrapping .plain = some (imitating []).text ∧
      (imitating []).written? .checked .plain = none ∧
      readElements? (imitating [0x0A, 0xFF]).text = some [[], [0x0A, 0xFF]] ∧
      (imitating []).listedElements ≠ (imitating [0x0A, 0xFF]).listedElements ∧
      (imitating []).text ≠ (imitating [0x0A, 0xFF]).text :=
  have hne : (imitating []).listedElements ≠ (imitating [0x0A, 0xFF]).listedElements := by decide
  have written := (elements_recovered .upper (imitating [])).1
  have recovered := (elements_recovered .upper (imitating [0x0A, 0xFF])).2
  ⟨.upper, (written .wrapping .plain).trans (if_pos (Or.inl rfl)),
    (written .checked .plain).trans (if_neg (by decide)), recovered.2.1, hne,
    recovered.2.2 _ hne⟩

end RadioScan.Report
