import RadioScan.Decimal.Fixed
import RadioScan.Sighting.Basic
import RadioScan.Text.Hex
import RadioScan.Text.Utf8

/-!
The diagnostic report on what a driver delivered last. Two tables list the results of single and of
offloaded scans, one row each; then come the information elements of the single scan's results, one
line for each result that has them, and an empty line.

Ages are differences of 64-bit words and can leave the range of these. The text of a report has such
an age as it is when the words go round; a machine that does not let them go round stops there
(`Arithmetic`).
-/

set_option autoImplicit false
set_option relaxedAutoImplicit false

namespace RadioScan

/-- The time of the report in milliseconds since boot, and the results to list. Results that were
never fetched get no table. -/
structure Report where
  nowMillis : Int
  scan : Option (List RawSighting)
  offload : Option (List RawSighting)
  deriving DecidableEq, Repr

/-- What comes of a difference of words that has no room in a word: it goes round, or it is checked
for, and then there is no answer. -/
inductive Arithmetic
  | wrapping
  | checked
  deriving DecidableEq, Repr

namespace Report

/-- The results that a report lists. -/
def listed (report : Report) : List RawSighting :=
  report.scan.getD [] ++ report.offload.getD []

def scanTitle : List Char := "Latest native scan results:".toList

def offloadTitle : List Char := "Latest native pno scan results:".toList

def elementsTitle : List Char := "Latest native scan results IEs:".toList

def columnTitles : List Char :=
  "    BSSID              Frequency      RSSI           Age(sec)     SSID".toList

def blanks (count : Nat) : List Char := List.replicate count ' '

/-- The milliseconds from a sighting to the time of the report, as a 64-bit word. -/
def ageMillis (nowMillis timestampMicros : Int) : Int :=
  (Int64.ofInt nowMillis - Int64.ofInt timestampMicros / 1000).toInt

/-- The word is the difference itself. -/
def AgeFits (nowMillis timestampMicros : Int) : Prop :=
  ageMillis nowMillis timestampMicros =
    (Int64.ofInt nowMillis).toInt - (Int64.ofInt timestampMicros).toInt.tdiv 1000

instance (nowMillis timestampMicros : Int) : Decidable (AgeFits nowMillis timestampMicros) :=
  inferInstanceAs (Decidable (_ = _))

theorem ageMillis_eq_bmod (nowMillis timestampMicros : Int) :
    ageMillis nowMillis timestampMicros =
      ((Int64.ofInt nowMillis).toInt - (Int64.ofInt timestampMicros).toInt.tdiv 1000).bmod
        Int64.size := by
  have hdivisor : (1000 : Int64) ≠ -1 := by decide
  rw [ageMillis, Int64.toInt_sub, Int64.toInt_div_of_ne_right _ _ hdivisor]
  rfl

/-- An age fits unless it is below the least word or above the greatest. -/
theorem ageFits_iff (nowMillis timestampMicros : Int) :
    AgeFits nowMillis timestampMicros ↔
      let age := (Int64.ofInt nowMillis).toInt - (Int64.ofInt timestampMicros).toInt.tdiv 1000
      Int64.minValue.toInt ≤ age ∧ age ≤ Int64.maxValue.toInt := by
  rw [AgeFits, ageMillis_eq_bmod]
  have hleast : Int64.minValue.toInt = -9223372036854775808 := rfl
  have hgreatest : Int64.maxValue.toInt = 9223372036854775807 := rfl
  have hsize : Int64.size = 18446744073709551616 := rfl
  rw [hleast, hgreatest]
  generalize (Int64.ofInt nowMillis).toInt - _ = age
  constructor
  · intro hfits
    have hlow := Int.le_bmod (x := age) (m := Int64.size) (by decide)
    have hhigh := Int.bmod_lt (x := age) (m := Int64.size) (by decide)
    omega
  · rintro ⟨hlow, hhigh⟩
    exact Int.bmod_eq_of_le (by omega) (by omega)

/-- The arithmetic has an age for each result that the report lists. -/
def HasAges (report : Report) (arithmetic : Arithmetic) : Prop :=
  arithmetic = .wrapping ∨
    ∀ raw ∈ report.listed, AgeFits report.nowMillis raw.sighting.timestampMicros

instance (report : Report) (arithmetic : Arithmetic) : Decidable (report.HasAges arithmetic) :=
  inferInstanceAs (Decidable (_ ∨ _))

/-- The age of a sighting in seconds, with three places. Both the milliseconds and their thousandth
part are rounded to binary floating point. -/
def age (nowMillis timestampMicros : Int) : List Char :=
  let millis := ageMillis nowMillis timestampMicros
  let grains := Decimal.binary64 (Decimal.binary64 millis.natAbs 1) (1000 * Decimal.grainsPerUnit)
  (if millis < 0 then ['-'] else []) ++ Decimal.fixed 3 grains Decimal.grainsPerUnit

/-- The fields of a row and the blanks between them. Numbers stand at the right of their column, and
one that is too wide for it is not cut off. -/
def row (nowMillis : Int) (sighting : Sighting) : List (List Char) :=
  [blanks 2, sighting.bssid.render,
    blanks 2, List.leftpad 9 ' ' (Decimal.integer sighting.frequency),
    blanks 6, List.leftpad 5 ' ' (Decimal.integer sighting.rssi),
    blanks 6, List.leftpad 12 ' ' (age nowMillis sighting.timestampMicros),
    blanks 6, Text.Utf8.lossy sighting.ssid]

/-- The lines of a table, each in pieces. -/
def table (nowMillis : Int) (results : List RawSighting) : List (List (List Char)) :=
  [columnTitles] :: results.map fun raw ↦ row nowMillis raw.sighting

section Text

variable [HexEncoder]

/-- The information elements of the results that have any, one line each. -/
def elements (results : List RawSighting) : List (List (List Char)) :=
  (results.filterMap RawSighting.elements).map fun bytes ↦ [HexEncoder.encode bytes]

/-- The lines of a report, each in pieces. -/
def lines (report : Report) : List (List (List Char)) :=
  [[scanTitle]] ++ (report.scan.map (table report.nowMillis)).getD []
    ++ [[offloadTitle]] ++ (report.offload.map (table report.nowMillis)).getD []
    ++ [[elementsTitle]] ++ (report.scan.map elements).getD []
    ++ [[]]

/-- The report as it is written, piece by piece, each line being closed by a line break. -/
def pieces (report : Report) : List (List Char) := report.lines.flatMap (· ++ [['\n']])

def text (report : Report) : List Char := report.pieces.flatten

end Text

end Report

end RadioScan
