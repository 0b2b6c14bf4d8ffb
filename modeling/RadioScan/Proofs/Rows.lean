import RadioScan.Proofs.Decoding
import RadioScan.Proofs.Lines
import RadioScan.Report.Basic

/-!
The lines of a report. A row begins with the address, the frequency and the strength of its result,
whatever the network is called, and ends with the name as it is. So a result takes up one line, and
one more for each line break in the name (`Report.laidOut_spread`), and the report has one row for
each result exactly if no name has a line break (`Report.laidOut_oneRow_iff`). Then the tables can
be read back (`Report.readTables?_text`).
-/

set_option autoImplicit false
set_option relaxedAutoImplicit false

namespace RadioScan

/-! ### Numbers and addresses -/

namespace Decimal

/-- Reads a number without sign. -/
def natural? (text : List Char) : Option Nat :=
  if text ≠ [] ∧ text.all Char.isDigit then some (Nat.ofDigitChars 10 text 0) else none

/-- Reads a number that may have a minus. -/
def integer? : List Char → Option Int
  | '-' :: digits => (natural? digits).map fun value : Nat ↦ -(value : Int)
  | text => (natural? text).map Int.ofNat

theorem natural?_toDigits (value : Nat) : natural? (Nat.toDigits 10 value) = some value := by
  have hdigits : (Nat.toDigits 10 value).all Char.isDigit = true :=
    List.all_eq_true.mpr fun _ hmem ↦ Nat.isDigit_of_mem_toDigits (by decide) (by decide) hmem
  rw [natural?, if_pos ⟨Nat.toDigits_ne_nil, hdigits⟩,
    Nat.ofDigitChars_toDigits (by decide) (by decide)]

theorem integer_natCast (value : Nat) : integer value = Nat.toDigits 10 value := by
  have hnonneg : ¬ (value : Int) < 0 := by omega
  rw [integer, if_neg hnonneg]
  rfl

theorem not_mem_toDigits {c : Char} (hdigit : c.isDigit = false) (value : Nat) :
    c ∉ Nat.toDigits 10 value := by
  intro hmem
  rw [Nat.isDigit_of_mem_toDigits (by decide) (by decide) hmem] at hdigit
  cases hdigit

theorem integer?_integer (value : Int) : integer? (integer value) = some value := by
  by_cases hneg : value < 0
  · have habs : -(value.natAbs : Int) = value := by omega
    rw [integer, if_pos hneg, List.singleton_append, integer?, natural?_toDigits, Option.map_some,
      habs]
  · have habs : Int.ofNat value.natAbs = value := by
      rw [Int.ofNat_eq_natCast]
      omega
    rw [integer, if_neg hneg, List.nil_append, integer?, natural?_toDigits, Option.map_some, habs]
    intro digits hminus
    exact not_mem_toDigits (c := '-') (by decide) value.natAbs (hminus ▸ List.mem_cons_self)

theorem not_mem_integer {c : Char} (hdigit : c.isDigit = false) (hminus : c ≠ '-') (value : Int) :
    c ∉ integer value := by
  rw [integer]
  have := not_mem_toDigits hdigit value.natAbs
  split <;> simp [hminus, this]

theorem integer_ne_nil (value : Int) : integer value ≠ [] := by
  rw [integer]
  simp [Nat.toDigits_ne_nil]

theorem not_mem_fixed {c : Char} (hdigit : c.isDigit = false) (hpoint : c ≠ '.')
    (places numerator denominator : Nat) : c ∉ fixed places numerator denominator := by
  have hzero : c ≠ '0' := by
    rintro rfl
    cases hdigit
  simp [fixed, List.leftpad, not_mem_toDigits hdigit, hpoint, hzero]

end Decimal

namespace Bssid

/-- Reads an address as it is rendered. -/
def read? (text : List Char) : Option Bssid :=
  ((text.splitOn ':').mapM Text.Hex.decode?).bind fun octets ↦ ofOctets? octets.flatten

theorem exists_digit_of_mem_ofByte {c : Char} {byte : UInt8} (h : c ∈ Text.Hex.ofByte byte) :
    ∃ value < 16, c = Nat.digitChar value := by
  rcases List.mem_cons.mp h with rfl | hlow
  · exact ⟨_, Text.Hex.high_lt byte, rfl⟩
  · exact ⟨_, Text.Hex.low_lt byte, List.mem_singleton.mp hlow⟩

theorem not_mem_ofByte {c : Char} (hc : ∀ value < 16, c ≠ Nat.digitChar value) (byte : UInt8) :
    c ∉ Text.Hex.ofByte byte := by
  intro hmem
  obtain ⟨value, hvalue, rfl⟩ := exists_digit_of_mem_ofByte hmem
  exact hc value hvalue rfl

theorem octets_ne_nil (bssid : Bssid) : bssid.octets ≠ [] := by
  intro hnil
  have hlength := bssid.length_eq
  rw [hnil] at hlength
  cases hlength

theorem mapM_decode?_ofByte (octets : Bytes) :
    (octets.map Text.Hex.ofByte).mapM Text.Hex.decode? = some (octets.map fun byte ↦ [byte]) := by
  have hbyte (byte : UInt8) : Text.Hex.decode? (Text.Hex.ofByte byte) = some [byte] := by
    simpa [Text.Hex.lower] using Text.Hex.decode?_lower [byte]
  rw [Text.mapM_eq_some_iff, List.forall₂_map_left_iff, List.forall₂_map_right_iff,
    List.forall₂_same]
  exact fun byte _ ↦ hbyte byte

theorem read?_render (bssid : Bssid) : read? bssid.render = some bssid := by
  have hsplit : bssid.render.splitOn ':' = bssid.octets.map Text.Hex.ofByte := by
    refine List.splitOn_intercalate ':' (fun digits hmem ↦ ?_) (by simp [bssid.octets_ne_nil])
    obtain ⟨byte, _, rfl⟩ := List.mem_map.mp hmem
    exact not_mem_ofByte (by decide) byte
  have hflatten : (bssid.octets.map fun byte ↦ [byte]).flatten = bssid.octets := by
    rw [← List.flatMap_def, List.flatMap_singleton']
  rw [read?, hsplit, mapM_decode?_ofByte, Option.bind_some, hflatten, ofOctets?,
    dif_pos bssid.length_eq]

theorem not_mem_render {c : Char} (hc : ∀ value < 16, c ≠ Nat.digitChar value) (hcolon : c ≠ ':')
    (bssid : Bssid) : c ∉ bssid.render := by
  rw [render]
  generalize bssid.octets = octets
  induction octets with
  | nil => simp
  | cons byte rest ih =>
    cases rest with
    | nil => simpa using not_mem_ofByte hc byte
    | cons second others =>
      rw [List.map_cons, List.map_cons, List.intercalate_cons_cons, ← List.map_cons]
      simpa [hcolon, not_mem_ofByte hc byte] using ih

theorem render_ne_nil (bssid : Bssid) : bssid.render ≠ [] := by
  intro hnil
  have hread := bssid.read?_render
  rw [hnil] at hread
  cases hread

end Bssid

/-! ### Rows -/

namespace Report

/-- A row up to the blanks before the network's name. -/
def rowStart (nowMillis : Int) (sighting : Sighting) : List Char :=
  (row nowMillis sighting).dropLast.flatten

/-- What a table shows of a result. -/
def shown (sighting : Sighting) : Bssid × Frequency × Int :=
  (sighting.bssid, sighting.frequency, sighting.rssi)

/-- Reads what a row shows of its result. -/
def readRow? (line : List Char) : Option (Bssid × Frequency × Int) :=
  match Text.words line with
  | address :: frequency :: rssi :: _ => do
    return (← Bssid.read? address, ← Decimal.natural? frequency, ← Decimal.integer? rssi)
  | _ => none

/-- The line begins with the address, the frequency and the strength of the result. -/
structure Shows (sighting : Sighting) (line : List Char) : Prop where
  words_eq : (Text.words line).take 3 = [sighting.bssid.render,
    Decimal.integer sighting.frequency, Decimal.integer sighting.rssi]
  read_eq : readRow? line = some (shown sighting)

variable {nowMillis : Int} {sighting : Sighting}

theorem flatten_row (nowMillis : Int) (sighting : Sighting) :
    (row nowMillis sighting).flatten =
      rowStart nowMillis sighting ++ Text.Utf8.lossy sighting.ssid := by
  simp [rowStart, row]

theorem words_leftpad {word : List Char} (hne : word ≠ []) (hword : ' ' ∉ word) (width : Nat)
    (rest : List Char) :
    Text.words (List.leftpad width ' ' word ++ ' ' :: rest) = word :: Text.words rest := by
  rw [List.leftpad, List.append_assoc, Text.words_replicate, Text.words_word hne hword]

/-- Whatever the name is, it does not touch the first three words. -/
theorem words_rowStart_append (nowMillis : Int) (sighting : Sighting) (name : List Char) :
    ∃ others, Text.words (rowStart nowMillis sighting ++ name) =
      sighting.bssid.render :: Decimal.integer sighting.frequency ::
        Decimal.integer sighting.rssi :: others := by
  have haddress : ' ' ∉ sighting.bssid.render :=
    sighting.bssid.not_mem_render (by decide) (by decide)
  have hnumber (value : Int) : ' ' ∉ Decimal.integer value :=
    Decimal.not_mem_integer (by decide) (by decide) value
  have hrow : rowStart nowMillis sighting ++ name =
      List.replicate 2 ' ' ++ (sighting.bssid.render ++ ' ' :: (List.replicate 1 ' ' ++
        (List.leftpad 9 ' ' (Decimal.integer sighting.frequency) ++ ' ' :: (List.replicate 5 ' ' ++
          (List.leftpad 5 ' ' (Decimal.integer sighting.rssi) ++ ' ' :: (List.replicate 5 ' ' ++
            (List.leftpad 12 ' ' (age nowMillis sighting.timestampMicros) ++
              (blanks 6 ++ name)))))))) := by
    simp [rowStart, row, blanks, List.replicate]
  refine ⟨Text.words (List.replicate 5 ' ' ++
    (List.leftpad 12 ' ' (age nowMillis sighting.timestampMicros) ++ (blanks 6 ++ name))), ?_⟩
  rw [hrow, Text.words_replicate, Text.words_word sighting.bssid.render_ne_nil haddress,
    Text.words_replicate, words_leftpad (Decimal.integer_ne_nil _) (hnumber _),
    Text.words_replicate, words_leftpad (Decimal.integer_ne_nil _) (hnumber _)]

theorem shows_rowStart_append (nowMillis : Int) (sighting : Sighting) (name : List Char) :
    Shows sighting (rowStart nowMillis sighting ++ name) := by
  obtain ⟨others, hwords⟩ := words_rowStart_append nowMillis sighting name
  refine ⟨by rw [hwords]; rfl, ?_⟩
  rw [readRow?, hwords, Decimal.integer_natCast]
  simp only [Bssid.read?_render, Decimal.natural?_toDigits, Decimal.integer?_integer]
  rfl

theorem newline_not_mem_rowStart (nowMillis : Int) (sighting : Sighting) :
    '\n' ∉ rowStart nowMillis sighting := by
  have haddress : '\n' ∉ sighting.bssid.render :=
    sighting.bssid.not_mem_render (by decide) (by decide)
  have hnumber (value : Int) : '\n' ∉ Decimal.integer value :=
    Decimal.not_mem_integer (by decide) (by decide) value
  have hage : '\n' ∉ age nowMillis sighting.timestampMicros := by
    unfold age
    have hfixed := Decimal.not_mem_fixed (c := '\n') (by decide) (by decide)
    simp only [List.mem_append, hfixed, or_false]
    split <;> simp
  simp [rowStart, row, blanks, List.leftpad, haddress, hnumber, hage]

/-- The lines that a result takes up. -/
def rowLines (nowMillis : Int) (sighting : Sighting) : List (List Char) :=
  (row nowMillis sighting).flatten.splitOn '\n'

theorem length_rowLines (nowMillis : Int) (sighting : Sighting) :
    (rowLines nowMillis sighting).length = sighting.ssid.count 0x0A + 1 := by
  rw [rowLines, Text.length_splitOn, flatten_row, List.count_append,
    List.count_eq_zero.mpr (newline_not_mem_rowStart nowMillis sighting), Nat.zero_add,
    Text.Utf8.count_newline_lossy]

/-- The first line that a result takes up shows it. -/
theorem exists_rowLines_eq_cons (nowMillis : Int) (sighting : Sighting) :
    ∃ first others, rowLines nowMillis sighting = first :: others ∧ Shows sighting first := by
  have hsplit := Text.splitOn_append_of_not_mem (newline_not_mem_rowStart nowMillis sighting)
    (Text.Utf8.lossy sighting.ssid)
  obtain ⟨name, others, hname⟩ :=
    List.exists_cons_of_ne_nil (List.splitOn_ne_nil '\n' (Text.Utf8.lossy sighting.ssid))
  rw [hname, List.modifyHead_cons] at hsplit
  refine ⟨_, others, ?_, shows_rowStart_append nowMillis sighting name⟩
  rw [rowLines, flatten_row, hsplit]

/-! ### Whole reports -/

/-- The information elements that a report lists. -/
def listedElements (report : Report) : List Bytes :=
  (report.scan.getD []).filterMap RawSighting.elements

/-- A result takes up a line that shows it, and more lines for the line breaks in its name. -/
def Spread (raw : RawSighting) (lines : List (List Char)) : Prop :=
  lines.length = raw.sighting.ssid.count 0x0A + 1 ∧
    ∃ first others, lines = first :: others ∧ Shows raw.sighting first

/-- A result takes up just one line, which shows it. -/
def OneRow (raw : RawSighting) (lines : List (List Char)) : Prop :=
  ∃ line, lines = [line] ∧ Shows raw.sighting line

/-- The lines are a table of the results, each taking up its lines as told. Results that were never
fetched have no table. -/
def Tabulates (takesUp : RawSighting → List (List Char) → Prop) :
    Option (List RawSighting) → List (List Char) → Prop
  | none, lines => lines = []
  | some results, lines => ∃ rows, lines = columnTitles :: rows.flatten ∧
      List.Forall₂ takesUp results rows

/-- The report is made up of lines: the title and the table of each kind of results, the title and
the lines of the information elements, and an empty line. -/
structure Lists [HexEncoder] (report : Report)
    (scanTable offloadTable elementLines : List (List Char)) : Prop where
  text_eq : report.text = Text.ofLines (Text.lines report.text)
  lines_eq : Text.lines report.text = scanTitle :: scanTable ++ offloadTitle :: offloadTable
    ++ elementsTitle :: elementLines ++ [[]]
  elements : elementLines.mapM Text.Hex.decode? = some report.listedElements

/-- The report is laid out as a list of results, each of which takes up its lines as told. -/
def LaidOut (takesUp : RawSighting → List (List Char) → Prop) (report : Report) : Prop :=
  ∃ scanTable offloadTable elementLines, report.Lists scanTable offloadTable elementLines ∧
    Tabulates takesUp report.scan scanTable ∧ Tabulates takesUp report.offload offloadTable

variable {report : Report}

/-- The lines of a table. -/
def tableLines (nowMillis : Int) (results : Option (List RawSighting)) : List (List Char) :=
  (results.map fun results ↦
    columnTitles :: results.flatMap fun raw ↦ rowLines nowMillis raw.sighting).getD []

theorem flatMap_splitOn_table (nowMillis : Int) (results : Option (List RawSighting)) :
    (((results.map (table nowMillis)).getD []).map List.flatten).flatMap (List.splitOn '\n') =
      tableLines nowMillis results := by
  cases results with
  | none => rfl
  | some results =>
    have htitles : columnTitles.splitOn '\n' = [columnTitles] :=
      List.splitOn_eq_singleton (by decide)
    simp [table, tableLines, List.flatMap_map, htitles, rowLines]

section Lines

variable [HexEncoder]

/-- The lines of the information elements. -/
def elementLines (report : Report) : List (List Char) :=
  report.listedElements.map HexEncoder.encode

theorem text_eq_ofLines (report : Report) :
    report.text = Text.ofLines (report.lines.map List.flatten) := by
  rw [text, pieces, Text.ofLines, List.flatMap_map, ← List.flatMap_id, List.flatMap_assoc]
  simp

variable (documented : HexEncoder.Documented)
include documented

theorem newline_not_mem_encode (bytes : Bytes) : '\n' ∉ HexEncoder.encode bytes := by
  intro hmem
  obtain ⟨value, hvalue, hdigit⟩ := documented.exists_capital_of_mem hmem
  revert value
  decide

theorem flatMap_splitOn_elements (report : Report) :
    (((report.scan.map elements).getD []).map List.flatten).flatMap (List.splitOn '\n') =
      report.elementLines := by
  have hlines (bytes : Bytes) :
      (HexEncoder.encode bytes).splitOn '\n' = [HexEncoder.encode bytes] :=
    List.splitOn_eq_singleton (newline_not_mem_encode documented bytes)
  rw [elementLines, listedElements]
  cases report.scan with
  | none => rfl
  | some results =>
    rw [List.map_eq_flatMap (f := HexEncoder.encode)]
    simp [elements, hlines, List.flatMap_map]

theorem lines_text (report : Report) :
    Text.lines report.text = scanTitle :: tableLines report.nowMillis report.scan
      ++ offloadTitle :: tableLines report.nowMillis report.offload
      ++ elementsTitle :: report.elementLines ++ [[]] := by
  have htitles : ∀ title ∈ [scanTitle, offloadTitle, elementsTitle],
      title.splitOn '\n' = [title] :=
    fun title hmem ↦ List.splitOn_eq_singleton (by revert title; decide)
  rw [text_eq_ofLines, Text.lines_ofLines, Report.lines]
  simp only [List.map_append, List.flatMap_append, flatMap_splitOn_table,
    flatMap_splitOn_elements documented]
  simp [htitles]

theorem mapM_decode?_encode (elements : List Bytes) :
    (elements.map HexEncoder.encode).mapM Text.Hex.decode? = some elements := by
  rw [Text.mapM_eq_some_iff, List.forall₂_map_left_iff, List.forall₂_same]
  exact fun bytes _ ↦ documented.decode?_encode bytes

theorem lists_text (report : Report) :
    report.Lists (tableLines report.nowMillis report.scan)
      (tableLines report.nowMillis report.offload) report.elementLines where
  text_eq := by rw [text_eq_ofLines, Text.ofLines_lines_ofLines]
  lines_eq := lines_text documented report
  elements := mapM_decode?_encode documented report.listedElements

end Lines

/-! ### Line breaks in names -/

theorem tabulates_tableLines {takesUp : RawSighting → List (List Char) → Prop}
    {results : Option (List RawSighting)} {nowMillis : Int}
    (h : ∀ raw ∈ results.getD [], takesUp raw (rowLines nowMillis raw.sighting)) :
    Tabulates takesUp results (tableLines nowMillis results) := by
  cases results with
  | none => rfl
  | some results =>
    refine ⟨results.map fun raw ↦ rowLines nowMillis raw.sighting, ?_, ?_⟩
    · rw [← List.flatMap_def]
      rfl
    · rw [List.forall₂_map_right_iff, List.forall₂_same]
      exact h

theorem spread_rowLines (nowMillis : Int) (raw : RawSighting) :
    Spread raw (rowLines nowMillis raw.sighting) :=
  ⟨length_rowLines nowMillis raw.sighting, exists_rowLines_eq_cons nowMillis raw.sighting⟩

theorem OneRow.of_spread {raw : RawSighting} {lines : List (List Char)} (h : Spread raw lines)
    (hname : 0x0A ∉ raw.sighting.ssid) : OneRow raw lines := by
  obtain ⟨hlength, first, others, rfl, hshows⟩ := h
  rw [List.count_eq_zero.mpr hname, List.length_cons] at hlength
  exact ⟨first, by rw [List.length_eq_zero_iff.mp (Nat.succ.inj hlength)], hshows⟩

/-- Whatever the names are, each result takes up a line that shows it and one more for each line
break in its name. -/
theorem laidOut_spread (report : Report) : report.LaidOut Spread :=
  ⟨_, _, _, lists_text .upper report, tabulates_tableLines fun raw _ ↦ spread_rowLines _ raw,
    tabulates_tableLines fun raw _ ↦ spread_rowLines _ raw⟩

/-- How many lines a table has if each result takes up one. -/
def tableLength (results : Option (List RawSighting)) : Nat :=
  (results.map fun results ↦ results.length + 1).getD 0

/-- How many line breaks the names of the results have. -/
def lineBreaks (results : Option (List RawSighting)) : Nat :=
  ((results.getD []).flatMap fun raw ↦ raw.sighting.ssid).count 0x0A

theorem Tabulates.length_of_oneRow {results : Option (List RawSighting)}
    {lines : List (List Char)} (h : Tabulates OneRow results lines) :
    lines.length = tableLength results := by
  cases results with
  | none => exact congrArg List.length h
  | some results =>
    obtain ⟨rows, rfl, hrows⟩ := h
    have hflatten : rows.flatten.length = results.length := by
      induction hrows with
      | nil => rfl
      | cons hrow _ ih =>
        obtain ⟨line, rfl, _⟩ := hrow
        rw [List.flatten_cons, List.length_append, ih, Nat.add_comm]
        rfl
    rw [List.length_cons, hflatten]
    rfl

theorem length_tableLines (nowMillis : Int) (results : Option (List RawSighting)) :
    (tableLines nowMillis results).length = tableLength results + lineBreaks results := by
  cases results with
  | none => rfl
  | some results =>
    have hrows : (results.flatMap fun raw ↦ rowLines nowMillis raw.sighting).length =
        results.length + lineBreaks (some results) := by
      induction results with
      | nil => rfl
      | cons raw rest ih =>
        rw [List.flatMap_cons, List.length_append, ih, length_rowLines, List.length_cons]
        simp only [lineBreaks, Option.getD_some, List.flatMap_cons, List.count_append]
        omega
    simp only [tableLines, tableLength, Option.map_some, Option.getD_some, List.length_cons, hrows]
    omega

theorem lineBreaks_eq_zero_iff {results : Option (List RawSighting)} :
    lineBreaks results = 0 ↔ ∀ raw ∈ results.getD [], 0x0A ∉ raw.sighting.ssid := by
  simp [lineBreaks, List.count_eq_zero]

/-- The report has one row for each result exactly if no name has a line break. -/
theorem laidOut_oneRow_iff (report : Report) :
    report.LaidOut OneRow ↔ ∀ raw ∈ report.listed, 0x0A ∉ raw.sighting.ssid := by
  have hlisted : (∀ raw ∈ report.listed, 0x0A ∉ raw.sighting.ssid) ↔
      lineBreaks report.scan = 0 ∧ lineBreaks report.offload = 0 := by
    rw [lineBreaks_eq_zero_iff, lineBreaks_eq_zero_iff, listed, List.forall_mem_append]
  rw [hlisted]
  constructor
  · rintro ⟨scanTable, offloadTable, elementLines, hlists, hscan, hoffload⟩
    -- Both ways of counting the report's lines come to the same.
    have hcount := congrArg List.length (hlists.lines_eq.symm.trans (lines_text .upper report))
    have helements : elementLines.length = report.elementLines.length :=
      (Text.mapM_eq_some_iff.mp hlists.elements).length_eq.trans (List.length_map _).symm
    simp only [List.length_cons, List.length_append, hscan.length_of_oneRow,
      hoffload.length_of_oneRow, length_tableLines, helements] at hcount
    omega
  · rintro ⟨hscan, hoffload⟩
    have hrow (raw : RawSighting) (hname : 0x0A ∉ raw.sighting.ssid) :
        OneRow raw (rowLines report.nowMillis raw.sighting) :=
      .of_spread (spread_rowLines _ raw) hname
    refine ⟨_, _, _, lists_text .upper report, tabulates_tableLines fun raw hmem ↦ ?_,
      tabulates_tableLines fun raw hmem ↦ ?_⟩
    · exact hrow raw (lineBreaks_eq_zero_iff.mp hscan raw hmem)
    · exact hrow raw (lineBreaks_eq_zero_iff.mp hoffload raw hmem)

/-! ### Reading the tables back -/

/-- Reads the results that a table shows. -/
def readTable? : List (List Char) → Option (List (Bssid × Frequency × Int))
  | [] => some []
  | _ :: rows => rows.mapM readRow?

/-- Reads the results that the two tables of a report show. -/
def readTables? (text : List Char) :
    Option (List (Bssid × Frequency × Int) × List (Bssid × Frequency × Int)) := do
  let lines := Text.afterFirst scanTitle (Text.lines text)
  let later := Text.afterFirst offloadTitle lines
  return (← readTable? (Text.beforeFirst offloadTitle lines),
    ← readTable? (Text.beforeFirst elementsTitle later))

/-- What there is to read from the table of some results. -/
def shownIn (results : Option (List RawSighting)) : List (Bssid × Frequency × Int) :=
  (results.getD []).map fun raw ↦ shown raw.sighting

theorem readTable?_of_tabulates {results : Option (List RawSighting)} {lines : List (List Char)}
    (h : Tabulates OneRow results lines) : readTable? lines = some (shownIn results) := by
  cases results with
  | none =>
    obtain rfl : lines = [] := h
    rfl
  | some results =>
    obtain ⟨rows, rfl, hrows⟩ := h
    rw [readTable?, Text.mapM_eq_some_iff]
    simp only [shownIn, Option.getD_some, List.forall₂_map_right_iff]
    induction hrows with
    | nil => exact .nil
    | cons hrow _ ih =>
      obtain ⟨line, rfl, hshows⟩ := hrow
      exact .cons hshows.read_eq ih

/-- What cannot be read as a row is not in a table, unless it is the line above the rows. -/
theorem not_mem_of_tabulates {results : Option (List RawSighting)} {lines : List (List Char)}
    (h : Tabulates OneRow results lines) {line : List Char} (hread : readRow? line = none)
    (hline : line ≠ columnTitles) : line ∉ lines := by
  cases results with
  | none =>
    obtain rfl : lines = [] := h
    exact List.not_mem_nil
  | some results =>
    obtain ⟨rows, rfl, hrows⟩ := h
    refine List.not_mem_cons_of_ne_of_not_mem hline ?_
    induction hrows with
    | nil => exact List.not_mem_nil
    | cons hrow _ ih =>
      obtain ⟨other, rfl, hshows⟩ := hrow
      refine List.not_mem_cons_of_ne_of_not_mem (fun heq ↦ ?_) ih
      have hother := hshows.read_eq
      rw [← heq, hread] at hother
      cases hother

/-- Without line breaks in names, the tables are read back from the text. -/
theorem readTables?_text (hnames : ∀ raw ∈ report.listed, 0x0A ∉ raw.sighting.ssid) :
    readTables? report.text = some (shownIn report.scan, shownIn report.offload) := by
  obtain ⟨scanTable, offloadTable, elementLines, hlists, hscan, hoffload⟩ :=
    (laidOut_oneRow_iff report).mpr hnames
  have hscanTitle : offloadTitle ∉ scanTable :=
    not_mem_of_tabulates hscan (by decide) (by decide)
  have hoffloadTitle : elementsTitle ∉ offloadTable :=
    not_mem_of_tabulates hoffload (by decide) (by decide)
  have hlines : Text.lines report.text = [] ++ scanTitle :: (scanTable ++
      offloadTitle :: (offloadTable ++ elementsTitle :: (elementLines ++ [[]]))) := by
    rw [hlists.lines_eq]
    simp
  rw [readTables?, hlines, Text.afterFirst_append_cons List.not_mem_nil]
  simp only [Text.beforeFirst_append_cons hscanTitle, Text.afterFirst_append_cons hscanTitle,
    Text.beforeFirst_append_cons hoffloadTitle, readTable?_of_tabulates hscan,
    readTable?_of_tabulates hoffload]
  rfl

/-- The report consists of its titles, its tables, the lines of the information elements and an
empty line. A result takes up a line that shows it and one more for each line break in its name, so
there is one row for each result exactly if no name has a line break. Then the tables can be read
back. -/
theorem rows_exact (report : Report) :
    report.LaidOut Spread ∧
    (report.LaidOut OneRow ↔ ∀ raw ∈ report.listed, 0x0A ∉ raw.sighting.ssid) ∧
    ((∀ raw ∈ report.listed, 0x0A ∉ raw.sighting.ssid) →
      readTables? report.text = some (shownIn report.scan, shownIn report.offload)) :=
  ⟨laidOut_spread report, laidOut_oneRow_iff report, readTables?_text⟩

/-- A result whose name, frequency and strength are given. -/
def named (name : Ssid) (frequency : Frequency) (rssi : Int) : RawSighting :=
  ⟨⟨name, ⟨[0xAA, 0, 0, 0, 0, 0xBB], rfl⟩, frequency, rssi, 0, ""⟩, none⟩

/-- A report on names that are no text, end the line on some terminals, or imitate a title, and on
numbers that are wider than their columns. -/
def disguised : Report where
  nowMillis := -1
  scan := some [named [0xFF, 0x20, 0x0D, 0xC2] 4294967295 (-2147483648),
    named (Text.Utf8.utf8 elementsTitle) 2412 (-40)]
  offload := some [named [] 0 0]

theorem rows_exact_disguised :
    (∀ raw ∈ disguised.listed, 0x0A ∉ raw.sighting.ssid) ∧
      readTables? disguised.text = some
        ([(⟨[0xAA, 0, 0, 0, 0, 0xBB], rfl⟩, 4294967295, -2147483648),
          (⟨[0xAA, 0, 0, 0, 0, 0xBB], rfl⟩, 2412, -40)],
        [(⟨[0xAA, 0, 0, 0, 0, 0xBB], rfl⟩, 0, 0)]) :=
  have hnames : ∀ raw ∈ disguised.listed, 0x0A ∉ raw.sighting.ssid := by decide
  ⟨hnames, (rows_exact disguised).2.2 hnames⟩

/-- A report on one result, whose name breaks the line and goes on as if it was a row. -/
def forged : Report where
  nowMillis := 0
  scan := some [named (Text.Utf8.utf8 "\n  0a:0b:0c:0d:0e:0f 5180 -1".toList) 2412 (-40)]
  offload := none

/-- One result can add a line, and the line can be read as the row of an access point that no result
is about. -/
theorem not_laidOut_oneRow_forged :
    ¬ forged.LaidOut OneRow ∧ forged.listed.length = 1 ∧
      ∃ line ∈ Text.lines forged.text,
        readRow? line = some (⟨[0x0A, 0x0B, 0x0C, 0x0D, 0x0E, 0x0F], rfl⟩, 5180, -1) := by
  refine ⟨fun hrow ↦ ?_, rfl, "  0a:0b:0c:0d:0e:0f 5180 -1".toList, ?_, by decide +kernel⟩
  · have hnames := (laidOut_oneRow_iff forged).mp hrow
    revert hnames
    decide
  · rw [lines_text .upper]
    decide +kernel

end Report

end RadioScan
