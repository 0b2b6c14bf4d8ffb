import Mathlib.Data.List.TakeWhile
import RadioScan.Report.Delivery

/-!
Delivery of a report to a writer with limited room. The nested loops that write a report offer the
writer the chunks of its lines one after the other (`Report.deliver_eq`), and each of them passes a
refusal on. So however the lines are cut up, the report is refused exactly if it is too long, the
writer then has a part of it from the beginning on, and is offered nothing after the chunk that it
refuses (`Report.delivery_exact`). Checked arithmetic writes the same unless an age is missing; then
writing ends at that row at the latest.
-/

set_option autoImplicit false
set_option relaxedAutoImplicit false

namespace RadioScan

/-! ### Loops that write -/

namespace Attempt

variable {σ : Type} {attempt : Attempt σ}

theorem taken_iff : attempt.taken = true ↔ attempt.ending = .taken := decide_eq_true_iff

theorem andThen_of_taken (next : σ → Attempt σ) (htaken : attempt.ending = .taken) :
    attempt.andThen next = next attempt.writer := by
  rw [andThen, if_pos (taken_iff.mpr htaken)]

theorem andThen_of_not_taken (next : σ → Attempt σ) (hnot : attempt.ending ≠ .taken) :
    attempt.andThen next = attempt := by
  rw [andThen, if_neg (hnot ∘ taken_iff.mp)]

theorem andThen_assoc (attempt : Attempt σ) (second third : σ → Attempt σ) :
    (attempt.andThen second).andThen third =
      attempt.andThen fun writer ↦ (second writer).andThen third := by
  obtain ⟨writer, ending⟩ := attempt
  cases ending <;> rfl

theorem andThen_done (attempt : Attempt σ) :
    attempt.andThen (fun writer ↦ ⟨writer, .taken⟩) = attempt := by
  obtain ⟨writer, ending⟩ := attempt
  cases ending <;> rfl

theorem ending_andThen_ne_taken {ending : Ending} (hending : ending ≠ .taken) :
    (attempt.andThen fun writer ↦ ⟨writer, ending⟩).ending ≠ .taken := by
  by_cases htaken : attempt.ending = .taken
  · rw [andThen_of_taken _ htaken]
    exact hending
  · rw [andThen_of_not_taken _ htaken]
    exact htaken

end Attempt

section Loops

variable {σ α β : Type} {write : σ → α → Attempt σ}

theorem writeEach_singleton (writer : σ) (item : α) :
    writeEach write writer [item] = write writer item :=
  (write writer item).andThen_done

theorem writeEach_append (writer : σ) (first second : List α) :
    writeEach write writer (first ++ second) =
      (writeEach write writer first).andThen fun writer ↦ writeEach write writer second := by
  induction first generalizing writer with
  | nil => rfl
  | cons item rest ih =>
    show (write writer item).andThen _ = ((write writer item).andThen _).andThen _
    rw [Attempt.andThen_assoc]
    congr
    funext next
    exact ih next

theorem writeEach_map (f : β → α) (writer : σ) (items : List β) :
    writeEach write writer (items.map f) =
      writeEach (fun writer item ↦ write writer (f item)) writer items := by
  induction items generalizing writer with
  | nil => rfl
  | cons item rest ih =>
    show (write writer (f item)).andThen _ = (write writer (f item)).andThen _
    congr
    funext next
    exact ih next

/-- A loop in a loop writes the same as one loop over all the items. -/
theorem writeEach_flatMap (f : β → List α) (writer : σ) (items : List β) :
    writeEach write writer (items.flatMap f) =
      writeEach (fun writer item ↦ writeEach write writer (f item)) writer items := by
  induction items generalizing writer with
  | nil => rfl
  | cons item rest ih =>
    rw [List.flatMap_cons, writeEach_append]
    show (writeEach write writer (f item)).andThen _ = (writeEach write writer (f item)).andThen _
    congr
    funext next
    exact ih next

/-- A loop that stops before the first item that fails a test writes the items up to there. -/
theorem writeEach_guarded (test : α → Bool) (writer : σ) (items : List α) :
    writeEach (fun writer item ↦ if test item then write writer item else ⟨writer, .stopped⟩)
        writer items =
      (writeEach write writer (items.takeWhile test)).andThen fun writer ↦
        ⟨writer, if items.all test then .taken else .stopped⟩ := by
  induction items generalizing writer with
  | nil => rfl
  | cons item rest ih =>
    cases htest : test item with
    | true =>
      rw [List.takeWhile_cons_of_pos htest, List.all_cons, htest, Bool.true_and, writeEach,
        writeEach, if_pos htest, Attempt.andThen_assoc]
      congr
      funext next
      exact ih next
    | false =>
      simp [writeEach, htest, Attempt.andThen, Attempt.taken]

/-- A writer that never stops by itself does not stop in a loop. -/
theorem ending_writeEach_ne_stopped (hwrite : ∀ writer item, (write writer item).ending ≠ .stopped)
    (writer : σ) (items : List α) : (writeEach write writer items).ending ≠ .stopped := by
  induction items generalizing writer with
  | nil => simp [writeEach]
  | cons item rest ih =>
    rw [writeEach]
    by_cases htaken : (write writer item).ending = .taken
    · rw [Attempt.andThen_of_taken _ htaken]
      exact ih _
    · rw [Attempt.andThen_of_not_taken _ htaken]
      exact hwrite writer item

end Loops

/-! ### Watching a writer -/

/-- A chunk that a writer was offered, and whether it took it. -/
structure Offer where
  chunk : List Char
  taken : Bool
  deriving DecidableEq, Repr

/-- A writer and all that it was offered, oldest first. -/
structure Watched (σ : Type) where
  writer : σ
  offers : List Offer
  deriving DecidableEq, Repr

/-- Offers a chunk to a writer that is watched. -/
def watch {σ : Type} (offer : σ → List Char → Attempt σ) (watched : Watched σ)
    (chunk : List Char) : Attempt (Watched σ) :=
  let attempt := offer watched.writer chunk
  ⟨⟨attempt.writer, watched.offers ++ [⟨chunk, attempt.taken⟩]⟩, attempt.ending⟩

/-- The attempt as if nobody had watched. -/
def Attempt.unwatched {σ : Type} (attempt : Attempt (Watched σ)) : Attempt σ :=
  ⟨attempt.writer.writer, attempt.ending⟩

/-- `accepted` is the text that a writer has taken. It takes a chunk if the text then is no longer
than `limit` bytes, and refuses it otherwise. -/
structure TakesWithin {σ : Type} (limit : Nat) (offer : σ → List Char → Attempt σ)
    (accepted : σ → List Char) : Prop where
  ending_eq : ∀ writer chunk, (offer writer chunk).ending =
    if Text.Utf8.size (accepted writer ++ chunk) ≤ limit then .taken else .refused
  accepted_of_taken : ∀ writer chunk, (offer writer chunk).ending = .taken →
    accepted (offer writer chunk).writer = accepted writer ++ chunk
  accepted_of_refused : ∀ writer chunk, (offer writer chunk).ending = .refused →
    accepted (offer writer chunk).writer = accepted writer

/-- What is to be said of a text that was written to a writer with room for `limit` bytes. -/
structure Delivered {σ : Type} (limit : Nat) (accepted : σ → List Char) (text : List Char)
    (last : Attempt (Watched σ)) : Prop where
  refused_iff : last.ending = .refused ↔ limit < Text.Utf8.size text
  accepted_isPrefix : accepted last.writer.writer <+: text
  accepted_eq : last.ending ≠ .refused → accepted last.writer.writer = text
  /-- What the writer has is made up of the chunks that it took. -/
  accepted_eq_flatten : accepted last.writer.writer =
    ((last.writer.offers.filter Offer.taken).map Offer.chunk).flatten
  /-- After a chunk that is refused none is offered. -/
  earlier_taken : ∀ offer ∈ last.writer.offers.dropLast, offer.taken = true
  refused_iff_offer : last.ending = .refused ↔ ∃ offer ∈ last.writer.offers, offer.taken = false

section Watching

variable {σ : Type} {limit : Nat} {offer : σ → List Char → Attempt σ} {accepted : σ → List Char}

theorem unwatched_andThen {attempt : Attempt (Watched σ)}
    {next : Watched σ → Attempt (Watched σ)} {next' : σ → Attempt σ}
    (hnext : ∀ watched, (next watched).unwatched = next' watched.writer) :
    (attempt.andThen next).unwatched = attempt.unwatched.andThen next' := by
  obtain ⟨watched, ending⟩ := attempt
  cases ending with
  | taken => exact hnext watched
  | refused => rfl
  | stopped => rfl

/-- To be watched makes no difference. -/
theorem unwatched_writeEach (watched : Watched σ) (chunks : List (List Char)) :
    (writeEach (watch offer) watched chunks).unwatched = writeEach offer watched.writer chunks := by
  induction chunks generalizing watched with
  | nil => rfl
  | cons chunk rest ih => exact unwatched_andThen fun next ↦ ih next

theorem offers_watch (watched : Watched σ) (chunk : List Char) :
    (watch offer watched chunk).writer.offers =
      watched.offers ++ [⟨chunk, (watch offer watched chunk).taken⟩] := rfl

theorem TakesWithin.taken_iff (takes : TakesWithin limit offer accepted) (writer : σ)
    (chunk : List Char) :
    (offer writer chunk).ending = .taken ↔ Text.Utf8.size (accepted writer ++ chunk) ≤ limit := by
  rw [takes.ending_eq]
  split <;> simp_all

theorem TakesWithin.refused_of_not_taken (takes : TakesWithin limit offer accepted) {writer : σ}
    {chunk : List Char} (hnot : (offer writer chunk).ending ≠ .taken) :
    (offer writer chunk).ending = .refused := by
  rw [takes.ending_eq, if_neg (hnot ∘ (takes.taken_iff _ _).mpr)]

theorem TakesWithin.ending_watch_ne_stopped (takes : TakesWithin limit offer accepted)
    (watched : Watched σ) (chunk : List Char) : (watch offer watched chunk).ending ≠ .stopped := by
  show (offer watched.writer chunk).ending ≠ .stopped
  rw [takes.ending_eq]
  split <;> simp

/-- Nothing was refused so far. -/
structure Unrefused (limit : Nat) (accepted : σ → List Char) (watched : Watched σ) : Prop where
  all_taken : ∀ offer ∈ watched.offers, offer.taken = true
  accepted_eq : accepted watched.writer = (watched.offers.map Offer.chunk).flatten
  size_le : Text.Utf8.size (accepted watched.writer) ≤ limit

namespace Unrefused

variable {watched : Watched σ} (unrefused : Unrefused limit accepted watched)
include unrefused

/-- A chunk that fits is taken, and nothing was refused after that. -/
theorem of_taken (takes : TakesWithin limit offer accepted) {chunk : List Char}
    (htaken : (watch offer watched chunk).ending = .taken) :
    Unrefused limit accepted (watch offer watched chunk).writer where
  all_taken := by
    intro other hother
    rcases List.mem_append.mp hother with hold | hnew
    · exact unrefused.all_taken other hold
    · rw [List.mem_singleton.mp hnew]
      exact Attempt.taken_iff.mpr htaken
  accepted_eq := by
    show accepted (offer watched.writer chunk).writer = _
    rw [takes.accepted_of_taken _ _ htaken, unrefused.accepted_eq]
    simp [watch]
  size_le := by
    show Text.Utf8.size (accepted (offer watched.writer chunk).writer) ≤ limit
    rw [takes.accepted_of_taken _ _ htaken]
    exact (takes.taken_iff _ _).mp htaken

/-- Writing ends well with nothing refused. -/
theorem delivered_nil : Delivered limit accepted (accepted watched.writer) ⟨watched, .taken⟩ where
  refused_iff := by
    have hfits := unrefused.size_le
    constructor
    · intro hrefused
      cases hrefused
    · intro hlong
      omega
  accepted_isPrefix := List.prefix_refl _
  accepted_eq := fun _ ↦ rfl
  accepted_eq_flatten := by
    rw [List.filter_eq_self.mpr unrefused.all_taken]
    exact unrefused.accepted_eq
  earlier_taken := fun other hother ↦
    unrefused.all_taken other (List.dropLast_subset _ hother)
  refused_iff_offer := by
    refine iff_of_false Ending.noConfusion ?_
    rintro ⟨other, hother, hrefused⟩
    rw [unrefused.all_taken other hother] at hrefused
    cases hrefused

/-- Writing ends with the first chunk that does not fit, whatever was to follow. -/
theorem delivered_refused (takes : TakesWithin limit offer accepted) {chunk : List Char}
    (hnot : (watch offer watched chunk).ending ≠ .taken) (rest : List Char) :
    Delivered limit accepted (accepted watched.writer ++ (chunk ++ rest))
      (watch offer watched chunk) := by
  have hrefused : (watch offer watched chunk).ending = .refused := takes.refused_of_not_taken hnot
  have haccepted : accepted (watch offer watched chunk).writer.writer = accepted watched.writer :=
    takes.accepted_of_refused _ _ hrefused
  have htaken : (watch offer watched chunk).taken = false :=
    Bool.eq_false_iff.mpr (hnot ∘ Attempt.taken_iff.mp)
  exact
    { refused_iff := by
        have hlong : ¬ Text.Utf8.size (accepted watched.writer ++ chunk) ≤ limit := by
          rw [← takes.taken_iff]
          exact hnot
        rw [← List.append_assoc, Text.Utf8.size_append]
        exact iff_of_true hrefused (by omega)
      accepted_isPrefix := by
        rw [haccepted]
        exact List.prefix_append _ _
      accepted_eq := fun hother ↦ absurd hrefused hother
      accepted_eq_flatten := by
        rw [haccepted, offers_watch, htaken, List.filter_append,
          List.filter_eq_self.mpr unrefused.all_taken]
        simpa using unrefused.accepted_eq
      earlier_taken := by
        rw [offers_watch, List.dropLast_concat]
        exact unrefused.all_taken
      refused_iff_offer := by
        rw [offers_watch]
        exact iff_of_true hrefused
          ⟨_, List.mem_append_right _ (List.mem_singleton_self _), htaken⟩ }

end Unrefused

/-- The invariant is that nothing was refused so far. A chunk either keeps it or ends the loop. -/
theorem Unrefused.delivered (takes : TakesWithin limit offer accepted) {watched : Watched σ}
    (unrefused : Unrefused limit accepted watched) (chunks : List (List Char)) :
    Delivered limit accepted (accepted watched.writer ++ chunks.flatten)
      (writeEach (watch offer) watched chunks) := by
  induction chunks generalizing watched with
  | nil =>
    rw [List.flatten_nil, List.append_nil]
    exact unrefused.delivered_nil
  | cons chunk rest ih =>
    rw [writeEach, List.flatten_cons]
    by_cases htaken : (watch offer watched chunk).ending = .taken
    · have hnext : accepted (watch offer watched chunk).writer.writer =
          accepted watched.writer ++ chunk := takes.accepted_of_taken _ _ htaken
      rw [Attempt.andThen_of_taken _ htaken, ← List.append_assoc, ← hnext]
      exact ih (unrefused.of_taken takes htaken)
    · rw [Attempt.andThen_of_not_taken _ htaken]
      exact unrefused.delivered_refused takes htaken rest.flatten

/-- How writing ends by itself does not touch what was written. -/
theorem Delivered.andThen {text : List Char} {last : Attempt (Watched σ)}
    (delivered : Delivered limit accepted text last) {ending : Ending}
    (hending : ending ≠ .refused) :
    Delivered limit accepted text (last.andThen fun writer ↦ ⟨writer, ending⟩) := by
  by_cases htaken : last.ending = .taken
  · rw [Attempt.andThen_of_taken _ htaken]
    have hlast : last.ending ≠ .refused := by simp [htaken]
    exact
      { refused_iff := (iff_of_false hending hlast).trans delivered.refused_iff
        accepted_isPrefix := delivered.accepted_isPrefix
        accepted_eq := fun _ ↦ delivered.accepted_eq hlast
        accepted_eq_flatten := delivered.accepted_eq_flatten
        earlier_taken := delivered.earlier_taken
        refused_iff_offer := (iff_of_false hending hlast).trans delivered.refused_iff_offer }
  · rw [Attempt.andThen_of_not_taken _ htaken]
    exact delivered

end Watching

theorem Sheet.takesWithin (limit : Nat) : TakesWithin limit (Sheet.write limit) Sheet.text where
  ending_eq := by
    intro sheet chunk
    rw [write]
    split <;> rfl
  accepted_of_taken := by
    intro sheet chunk htaken
    rw [write] at htaken ⊢
    split at htaken
    · rw [if_pos ‹_›]
    · cases htaken
  accepted_of_refused := by
    intro sheet chunk hrefused
    rw [write] at hrefused ⊢
    split at hrefused
    · cases hrefused
    · rw [if_neg ‹_›]

theorem writeEach_addChunk (text : List Char) (chunks : List (List Char)) :
    writeEach addChunk text chunks = ⟨text ++ chunks.flatten, .taken⟩ := by
  induction chunks generalizing text with
  | nil => rw [List.flatten_nil, List.append_nil, writeEach]
  | cons chunk rest ih =>
    rw [List.flatten_cons, ← List.append_assoc]
    exact ih (text ++ chunk)

/-! ### Reports -/

namespace Report

/-- What a line of a report is written for. -/
inductive Entry
  | fixed (fields : List (List Char))
  | result (raw : RawSighting)

namespace Entry

def fields (nowMillis : Int) : Entry → List (List Char)
  | fixed fields => fields
  | result raw => row nowMillis raw.sighting

/-- The arithmetic gives all that the line shows. -/
def computes (arithmetic : Arithmetic) (nowMillis : Int) : Entry → Bool
  | fixed _ => true
  | result raw => arithmetic = .wrapping ∨ AgeFits nowMillis raw.sighting.timestampMicros

def ofTable (results : List RawSighting) : List Entry :=
  .fixed [columnTitles] :: results.map .result

end Entry

/-- How a report that is not refused ends. -/
def closing (report : Report) (arithmetic : Arithmetic) : Ending :=
  if report.HasAges arithmetic then .taken else .stopped

theorem closing_ne_refused (report : Report) (arithmetic : Arithmetic) :
    report.closing arithmetic ≠ .refused := by
  rw [closing]
  split <;> simp

section Entries

variable {σ : Type}

/-- Writes the line of an entry, if the arithmetic gives all that it shows. -/
def writeEntry (arithmetic : Arithmetic) (formatter : Formatter)
    (offer : σ → List Char → Attempt σ) (nowMillis : Int) (writer : σ) (entry : Entry) :
    Attempt σ :=
  if entry.computes arithmetic nowMillis then
    writeLine formatter offer writer (entry.fields nowMillis)
  else ⟨writer, .stopped⟩

variable {arithmetic : Arithmetic} {formatter : Formatter} {offer : σ → List Char → Attempt σ}

theorem writeRow_eq (nowMillis : Int) (writer : σ) (raw : RawSighting) :
    writeRow arithmetic formatter offer nowMillis writer raw =
      writeEntry arithmetic formatter offer nowMillis writer (.result raw) := by
  rw [writeRow, writeEntry]
  cases arithmetic <;> by_cases hfits : AgeFits nowMillis raw.sighting.timestampMicros <;>
    simp [Entry.computes, Entry.fields, hfits]

theorem writeSection_eq (nowMillis : Int) (writer : σ) (results : Option (List RawSighting)) :
    writeSection arithmetic formatter offer nowMillis writer results =
      writeEach (writeEntry arithmetic formatter offer nowMillis) writer
        ((results.map Entry.ofTable).getD []) := by
  cases results with
  | none => rfl
  | some results =>
    have hrows : writeRow arithmetic formatter offer nowMillis = fun writer raw ↦
        writeEntry arithmetic formatter offer nowMillis writer (.result raw) := by
      funext writer raw
      exact writeRow_eq nowMillis writer raw
    simp only [writeSection, writeTable, hrows, ← writeEach_map]
    rfl

end Entries

section Writing

variable [HexEncoder]

/-- What a report has lines for. -/
def entries (report : Report) : List Entry :=
  [.fixed [scanTitle]] ++ (report.scan.map Entry.ofTable).getD []
    ++ [.fixed [offloadTitle]] ++ (report.offload.map Entry.ofTable).getD []
    ++ [.fixed [elementsTitle]] ++ ((report.scan.map elements).getD []).map .fixed
    ++ [.fixed []]

theorem map_fields_entries (report : Report) :
    report.entries.map (Entry.fields report.nowMillis) = report.lines := by
  have htable (results : Option (List RawSighting)) :
      ((results.map Entry.ofTable).getD []).map (Entry.fields report.nowMillis) =
        (results.map (table report.nowMillis)).getD [] := by
    cases results with
    | none => rfl
    | some results => simp [Entry.ofTable, table, Entry.fields]
  simp [entries, lines, htable, Entry.fields, Function.comp_def]

theorem all_computes_iff (report : Report) (arithmetic : Arithmetic) :
    report.entries.all (Entry.computes arithmetic report.nowMillis) = true ↔
      report.HasAges arithmetic := by
  have htable (results : Option (List RawSighting)) :
      ((results.map Entry.ofTable).getD []).all (Entry.computes arithmetic report.nowMillis) =
          true ↔
        ∀ raw ∈ results.getD [],
          arithmetic = .wrapping ∨ AgeFits report.nowMillis raw.sighting.timestampMicros := by
    cases results with
    | none => simp
    | some results => simp [Entry.ofTable, Entry.computes]
  have hfixed (lines : List (List (List Char))) :
      (lines.map Entry.fixed).all (Entry.computes arithmetic report.nowMillis) = true := by
    simp [Entry.computes]
  have hages : report.HasAges arithmetic ↔ ∀ raw ∈ report.listed,
      arithmetic = .wrapping ∨ AgeFits report.nowMillis raw.sighting.timestampMicros := by
    by_cases hwrapping : arithmetic = .wrapping <;> simp [HasAges, hwrapping]
  rw [hages, listed, List.forall_mem_append, ← htable, ← htable]
  simp only [entries, List.all_append, hfixed]
  simp [Entry.computes]

/-- The lines before the first whose age is missing. -/
def reached (report : Report) (arithmetic : Arithmetic) : List (List (List Char)) :=
  (report.entries.takeWhile (Entry.computes arithmetic report.nowMillis)).map
    (Entry.fields report.nowMillis)

/-- The text of the lines before the first whose age is missing. -/
def beginning (report : Report) (arithmetic : Arithmetic) : List Char :=
  ((report.reached arithmetic).flatMap (· ++ [['\n']])).flatten

theorem reached_isPrefix (report : Report) (arithmetic : Arithmetic) :
    report.reached arithmetic <+: report.lines := by
  rw [reached, ← map_fields_entries]
  exact (List.takeWhile_prefix _).map _

theorem beginning_isPrefix (report : Report) (arithmetic : Arithmetic) :
    report.beginning arithmetic <+: report.text := by
  obtain ⟨others, hlines⟩ := report.reached_isPrefix arithmetic
  rw [text, pieces, ← hlines, List.flatMap_append, List.flatten_append]
  exact List.prefix_append _ _

theorem beginning_of_hasAges {report : Report} {arithmetic : Arithmetic}
    (hages : report.HasAges arithmetic) : report.beginning arithmetic = report.text := by
  rw [beginning, reached, List.takeWhile_eq_self_iff.mpr, map_fields_entries, text, pieces]
  exact List.all_eq_true.mp ((report.all_computes_iff arithmetic).mpr hages)

/-- The chunks that a report is handed over in, line by line. -/
def chunks (report : Report) (arithmetic : Arithmetic) (formatter : Formatter) :
    List (List Char) :=
  (report.reached arithmetic).flatMap formatter.chunks

theorem flatten_chunks (report : Report) (arithmetic : Arithmetic) (formatter : Formatter) :
    (report.chunks arithmetic formatter).flatten = report.beginning arithmetic := by
  have hline : List.flatten ∘ formatter.chunks = List.flatten ∘ (· ++ [['\n']]) := by
    funext fields
    exact (formatter.flatten_chunks fields).trans List.flatten_concat.symm
  rw [chunks, beginning, List.flatMap_def, List.flatMap_def, List.flatten_flatten,
    List.flatten_flatten, List.map_map, List.map_map, hline]

variable {σ : Type} {arithmetic : Arithmetic} {formatter : Formatter}
  {offer : σ → List Char → Attempt σ}

theorem writeElements_eq (arithmetic : Arithmetic) (nowMillis : Int) (writer : σ)
    (results : Option (List RawSighting)) :
    writeElements formatter offer writer (results.getD []) =
      writeEach (writeEntry arithmetic formatter offer nowMillis) writer
        (((results.map elements).getD []).map .fixed) := by
  cases results with
  | none => rfl
  | some results =>
    simp only [Option.map_some, Option.getD_some, elements, writeEach_map]
    rfl

/-- The nested loops write the lines of all entries, in order, up to the first that ends them. -/
theorem deliver_eq_writeEach_entries (report : Report) (writer : σ) :
    report.deliver arithmetic formatter offer writer =
      writeEach (writeEntry arithmetic formatter offer report.nowMillis) writer
        report.entries := by
  simp only [entries, writeEach_append, writeEach_singleton, Attempt.andThen_assoc]
  simp only [deliver, writeSection_eq, writeElements_eq arithmetic report.nowMillis]
  rfl

/-- What a writer is offered are the chunks of these lines, up to the first refusal. -/
theorem deliver_eq (report : Report) (writer : σ) :
    report.deliver arithmetic formatter offer writer =
      (writeEach offer writer (report.chunks arithmetic formatter)).andThen fun writer ↦
        ⟨writer, report.closing arithmetic⟩ := by
  rw [deliver_eq_writeEach_entries, chunks, writeEach_flatMap, reached, writeEach_map]
  simp only [closing, ← all_computes_iff]
  exact writeEach_guarded _ writer report.entries

/-- A writer with room for `limit` bytes refuses a report exactly if the report is longer. It then
has the beginning of the report, and is offered nothing more after the chunk that it refused.
Otherwise it has the whole report. Where checked arithmetic has no age for a result, this holds of
the lines before the first such row, and what fits is not taken for the whole report. -/
theorem delivery_exact {limit : Nat} {accepted : σ → List Char}
    (takes : TakesWithin limit offer accepted) {blank : σ} (hblank : accepted blank = [])
    (arithmetic : Arithmetic) (formatter : Formatter) (report : Report) :
    let last := report.deliver arithmetic formatter (watch offer) ⟨blank, []⟩
    last.unwatched = report.deliver arithmetic formatter offer blank ∧
    (report.HasAges arithmetic →
      Delivered limit accepted report.text last ∧ last.ending ≠ .stopped) ∧
    (¬ report.HasAges arithmetic →
      Delivered limit accepted (report.beginning arithmetic) last ∧
        report.beginning arithmetic <+: report.text ∧ last.ending ≠ .taken) := by
  intro last
  have unrefused : Unrefused limit accepted (⟨blank, []⟩ : Watched σ) :=
    { all_taken := fun _ hoffer ↦ absurd hoffer List.not_mem_nil
      accepted_eq := hblank
      size_le := by
        show Text.Utf8.size (accepted blank) ≤ limit
        rw [hblank]
        exact Nat.zero_le limit }
  have hwritten := unrefused.delivered takes (report.chunks arithmetic formatter)
  have hunstopped := ending_writeEach_ne_stopped takes.ending_watch_ne_stopped ⟨blank, []⟩
    (report.chunks arithmetic formatter)
  have hlast : last = (writeEach (watch offer) ⟨blank, []⟩
      (report.chunks arithmetic formatter)).andThen fun watched ↦
        ⟨watched, report.closing arithmetic⟩ := deliver_eq report _
  have hdelivered : Delivered limit accepted (report.beginning arithmetic) last := by
    rw [hblank, List.nil_append, flatten_chunks] at hwritten
    rw [hlast]
    exact hwritten.andThen (report.closing_ne_refused arithmetic)
  refine ⟨?_, fun hages ↦ ⟨?_, ?_⟩, fun hmissing ↦ ⟨hdelivered, report.beginning_isPrefix _, ?_⟩⟩
  · rw [hlast, deliver_eq, ← unwatched_writeEach ⟨blank, []⟩]
    exact unwatched_andThen fun _ ↦ rfl
  · rw [beginning_of_hasAges hages] at hdelivered
    exact hdelivered
  · rw [hlast, closing, if_pos hages, Attempt.andThen_done]
    exact hunstopped
  · rw [hlast, closing, if_neg hmissing]
    exact Attempt.ending_andThen_ne_taken (by simp)

/-- With room for everything, a report is written in full unless an age is missing. -/
theorem written?_eq (report : Report) (arithmetic : Arithmetic) (formatter : Formatter) :
    report.written? arithmetic formatter =
      if report.HasAges arithmetic then some report.text else none := by
  rw [written?, deliver_eq, writeEach_addChunk, List.nil_append, flatten_chunks]
  by_cases hages : report.HasAges arithmetic
  · rw [if_pos hages, ← beginning_of_hasAges hages, closing, if_pos hages]
    rfl
  · rw [if_neg hages, closing, if_neg hages]
    rfl

end Writing

/-- Hands a line over letter by letter. -/
def letters : Formatter where
  chunks := fun fields ↦ (fields.flatten ++ ['\n']).map fun letter ↦ [letter]
  flatten_chunks := by
    intro fields
    rw [← List.flatMap_def, List.flatMap_singleton']

/-- A report on one result, whose name is a byte that cannot be read. The age of the result does not
fit in a word. -/
def unreadable : Report where
  nowMillis := 9223372036854775807
  scan := some
    [⟨⟨[0xFF], ⟨[0x02, 0, 0, 0, 0, 0x01], rfl⟩, 2412, -40, -1000, ""⟩, some [0x00, 0x01]⟩]
  offload := none

/-- The name is shown as one letter of three bytes, and there is room for two of them. -/
theorem delivery_exact_unreadable :
    let last := unreadable.deliver .wrapping letters (watch (Sheet.write 175)) ⟨.blank, []⟩
    let cut := unreadable.deliver .checked letters (watch (Sheet.write 175)) ⟨.blank, []⟩
    TakesWithin 175 (Sheet.write 175) Sheet.text ∧ Sheet.blank.text = [] ∧
      unreadable.HasAges .wrapping ∧ ¬ unreadable.HasAges .checked ∧
      (last.ending = .refused ∧
        last.writer.offers.getLast? = some ⟨[Char.ofNat 0xFFFD], false⟩ ∧
        Text.Utf8.size last.writer.writer.text = 173) ∧
      last.unwatched = unreadable.deliver .wrapping letters (Sheet.write 175) .blank ∧
      Delivered 175 Sheet.text unreadable.text last ∧
      Delivered 175 Sheet.text (unreadable.beginning .checked) cut ∧ cut.ending ≠ .taken :=
  have takes := Sheet.takesWithin 175
  have hages : unreadable.HasAges .wrapping := Or.inl rfl
  have hmissing : ¬ unreadable.HasAges .checked := by decide
  have hwrapping := delivery_exact takes rfl .wrapping letters unreadable
  have hchecked := delivery_exact takes rfl .checked letters unreadable
  ⟨takes, rfl, hages, hmissing, by decide +kernel, hwrapping.1, (hwrapping.2.1 hages).1,
    (hchecked.2.2 hmissing).1, (hchecked.2.2 hmissing).2.2⟩

end Report

end RadioScan
