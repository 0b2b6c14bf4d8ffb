import RadioScan.Report.Basic

/-!
Writing a report out to a writer that may refuse. The report is written line by line, its tables row
by row, and a formatter hands each line over in chunks. After the first chunk that is refused
nothing more is written. With checked arithmetic, writing also stops at a row whose age does not fit
in a word, before anything of the row is written.
-/

set_option autoImplicit false
set_option relaxedAutoImplicit false

namespace RadioScan

/-- How an attempt to write ends: the writer took everything, or it refused something, or writing
stopped by itself. -/
inductive Ending
  | taken
  | refused
  | stopped
  deriving DecidableEq, Repr

/-- What became of an attempt to write: the writer afterwards, and how it ended. -/
structure Attempt (σ : Type) where
  writer : σ
  ending : Ending
  deriving DecidableEq, Repr

def Attempt.taken {σ : Type} (attempt : Attempt σ) : Bool := attempt.ending = .taken

/-- Goes on if everything was taken so far. -/
def Attempt.andThen {σ : Type} (attempt : Attempt σ) (next : σ → Attempt σ) : Attempt σ :=
  if attempt.taken then next attempt.writer else attempt

/-- Writes one item after the other, up to the first that is not taken. -/
def writeEach {σ α : Type} (write : σ → α → Attempt σ) (writer : σ) : List α → Attempt σ
  | [] => ⟨writer, .taken⟩
  | item :: rest => (write writer item).andThen fun writer ↦ writeEach write writer rest

/-- The chunks in which the fields of a line are handed over. However a line is cut up, the chunks
make up the line and its line break. -/
structure Formatter where
  chunks : List (List Char) → List (List Char)
  flatten_chunks : ∀ fields, (chunks fields).flatten = fields.flatten ++ ['\n']

/-- Hands over each field as it is, and then the line break. -/
def Formatter.plain : Formatter where
  chunks := fun fields ↦ fields ++ [['\n']]
  flatten_chunks := fun _ ↦ List.flatten_concat

namespace Report

section Writing

variable {σ : Type} [HexEncoder] (arithmetic : Arithmetic) (formatter : Formatter)
  (offer : σ → List Char → Attempt σ)

def writeLine (writer : σ) (fields : List (List Char)) : Attempt σ :=
  writeEach offer writer (formatter.chunks fields)

/-- Writes the row of a result, once its age is there. -/
def writeRow (nowMillis : Int) (writer : σ) (raw : RawSighting) : Attempt σ :=
  if arithmetic = .checked ∧ ¬ AgeFits nowMillis raw.sighting.timestampMicros then
    ⟨writer, .stopped⟩
  else writeLine formatter offer writer (row nowMillis raw.sighting)

def writeTable (nowMillis : Int) (writer : σ) (results : List RawSighting) : Attempt σ :=
  (writeLine formatter offer writer [columnTitles]).andThen fun writer ↦
    writeEach (writeRow arithmetic formatter offer nowMillis) writer results

/-- Writes the table of the results if they were ever fetched. -/
def writeSection (nowMillis : Int) (writer : σ) : Option (List RawSighting) → Attempt σ
  | none => ⟨writer, .taken⟩
  | some results => writeTable arithmetic formatter offer nowMillis writer results

/-- Writes the information elements of the results that have any. -/
def writeElements (writer : σ) (results : List RawSighting) : Attempt σ :=
  writeEach (fun writer bytes ↦ writeLine formatter offer writer [HexEncoder.encode bytes]) writer
    (results.filterMap RawSighting.elements)

def deliver (report : Report) (writer : σ) : Attempt σ :=
  let tabulate := writeSection arithmetic formatter offer report.nowMillis
  (writeLine formatter offer writer [scanTitle]).andThen fun writer ↦
  (tabulate writer report.scan).andThen fun writer ↦
  (writeLine formatter offer writer [offloadTitle]).andThen fun writer ↦
  (tabulate writer report.offload).andThen fun writer ↦
  (writeLine formatter offer writer [elementsTitle]).andThen fun writer ↦
  (writeElements formatter offer writer (report.scan.getD [])).andThen fun writer ↦
  writeLine formatter offer writer []

end Writing

end Report

/-- A sheet with room for a limited number of bytes. `refusals` counts the chunks that did not
fit. -/
structure Sheet where
  text : List Char
  refusals : Nat
  deriving DecidableEq, Repr

namespace Sheet

def blank : Sheet := ⟨[], 0⟩

/-- Adds a chunk if the whole text then takes up no more than `limit` bytes. -/
def write (limit : Nat) (sheet : Sheet) (chunk : List Char) : Attempt Sheet :=
  if Text.Utf8.size (sheet.text ++ chunk) ≤ limit then
    ⟨{ sheet with text := sheet.text ++ chunk }, .taken⟩
  else ⟨{ sheet with refusals := sheet.refusals + 1 }, .refused⟩

end Sheet

/-- Writes a report on a blank sheet. -/
def Report.writeWithin (report : Report) (limit : Nat) : Attempt Sheet :=
  report.deliver .wrapping .plain (Sheet.write limit) .blank

/-- Adds a chunk to a text, which has room for everything. -/
def addChunk (text chunk : List Char) : Attempt (List Char) := ⟨text ++ chunk, .taken⟩

/-- The text that is there when a report has been written in full. -/
def Report.written? [HexEncoder] (report : Report) (arithmetic : Arithmetic)
    (formatter : Formatter) : Option (List Char) :=
  let attempt := report.deliver arithmetic formatter addChunk []
  if attempt.taken then some attempt.writer else none

end RadioScan
