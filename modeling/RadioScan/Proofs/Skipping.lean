import RadioScan.Proofs.Tokens

/-!
Values that nobody wants. Whatever value the grammar derives, at any depth of nesting, skipping it
ends right after it (`Json.skipValue_append`). The induction is on the derivation; of the contents
of a list or an object it says that skipping ends after the closing bracket.
-/

set_option autoImplicit false
set_option relaxedAutoImplicit false

namespace RadioScan.Json

open Text.Utf8 (utf8)

variable {before rest : List Char} {skipped : Bool}

/-! ### Leads -/

theorem readLead_append (hbefore : Blank before) (rest : List Char) :
    readLead skipped (utf8 (before ++ rest)) = readLead skipped (utf8 rest) := by
  simp only [readLead, next?_append hbefore, skipBlanks_append hbefore]

theorem readLead_null (rest : List Char) :
    readLead skipped (utf8 (['n', 'u', 'l', 'l'] ++ rest)) = .ok (.null, utf8 rest) := by
  rw [List.cons_append, readLead, next?_cons (by decide)]
  rfl

theorem readLead_flag (value : Bool) (rest : List Char) :
    readLead skipped (utf8 (flagText value ++ rest)) = .ok (.flag value, utf8 rest) := by
  cases value
  · rw [flagText, if_neg (by decide), List.cons_append, readLead, next?_cons (by decide)]
    rfl
  · rw [flagText, if_pos rfl, List.cons_append, readLead, next?_cons (by decide)]
    rfl

theorem readLead_minus (text : List Char) :
    readLead skipped (utf8 ('-' :: text)) = readNumber skipped true (utf8 text) := by
  rw [readLead, next?_cons (by decide)]
  rfl

theorem readLead_digit {c : Char} (hc : c.isDigit = true) (text : List Char) :
    readLead skipped (utf8 (c :: text)) = readNumber skipped false (utf8 (c :: text)) := by
  have hstart : c ∈ tokenStarts := List.mem_append_left _ (mem_beginnings_of_isDigit hc)
  rw [readLead, next?_cons hstart, skipBlanks_cons hstart, ← utf8_cons_of_lt (ascii_of_isDigit hc)]
  simp only
  split
  case h_8 => rw [if_pos hc]
  all_goals contradiction

theorem readNumber_skipped {text : List Char} (htext : Magnitude text)
    (hrest : Followed afterNumber rest) (negative : Bool) :
    readNumber true negative (utf8 (text ++ rest)) = .ok (.number none, utf8 rest) := by
  obtain ⟨numeral, hread⟩ := Numeral.read_append htext hrest .malformed negative
  simp only [readNumber, if_true, hread]

theorem readLead_string {text : List Char} (htext : Quotable text) (rest : List Char) :
    readLead true (utf8 ('"' :: (text ++ '"' :: rest))) = .ok (.text, utf8 rest) := by
  rw [readLead, next?_cons (by decide)]
  simp only [if_true, skipString_append htext]
  rfl

def Frame.lead : Frame → Lead
  | list => .list
  | object => .object

theorem Frame.frame?_lead (frame : Frame) : frame.lead.frame? = some frame := by
  cases frame <;> rfl

theorem readLead_opening (frame : Frame) (rest : List Char) :
    readLead skipped (utf8 (frame.opening :: rest)) = .ok (frame.lead, utf8 rest) := by
  cases frame <;> rw [readLead, next?_cons (by decide)] <;> rfl

/-! ### Colons and names -/

theorem readColon_append (hbefore : Blank before) (rest : List Char) :
    readColon (utf8 (before ++ ':' :: rest)) = .ok (utf8 rest) := by
  rw [readColon, next?_append hbefore, next?_cons (by decide)]
  rfl

theorem Introduces.enter {frame : Frame} {intro : List Char} (h : Introduces frame intro)
    (rest : List Char) : frame.enter (utf8 (intro ++ rest)) = .ok (utf8 rest) := by
  cases h with
  | item => rfl
  | @member before name after hbefore hname hafter =>
    have htext : before ++ '"' :: (name ++ '"' :: (after ++ [':'])) ++ rest =
        before ++ '"' :: (name ++ '"' :: (after ++ ':' :: rest)) := by
      simp
    rw [Frame.enter, htext, skipName, next?_append hbefore, next?_cons (by decide)]
    simp only [if_true, skipString_append hname, readColon_append hafter]

/-! ### Steps -/

variable {frames : List Frame} {frame : Frame}

/-- What skipping does before a value. The definition also keeps why it ends. -/
theorem skipFrom_before (frames : List Frame) (input : Bytes) :
    skipFrom .before frames input =
      match readLead true input with
      | .error fault => .error fault
      | .ok (lead, rest) =>
        match lead.frame? with
        | none => skipFrom .after frames rest
        | some frame =>
          match next? rest with
          | none => .error .truncated
          | some (c, tail) =>
            if c = frame.closing then skipFrom .after frames tail
            else
              match frame.enter rest with
              | .error fault => .error fault
              | .ok entered => skipFrom .before (frame :: frames) entered := by
  rw [skipFrom.eq_def]
  simp only
  cases readLead true input with
  | error fault => rfl
  | ok found =>
    simp only
    cases found.1.frame? with
    | none => rfl
    | some frame =>
      simp only
      cases next? found.2 with
      | none => rfl
      | some next =>
        simp only
        split
        · rfl
        · cases frame.enter found.2 <;> rfl

/-- What skipping does after a value in a list or an object. -/
theorem skipFrom_after (frame : Frame) (frames : List Frame) (input : Bytes) :
    skipFrom .after (frame :: frames) input =
      match next? input with
      | none => .error .truncated
      | some (c, rest) =>
        if c = ',' then
          match frame.enter rest with
          | .error fault => .error fault
          | .ok entered => skipFrom .before (frame :: frames) entered
        else if c = frame.closing then skipFrom .after frames rest
        else .error .malformed := by
  rw [skipFrom.eq_def]
  simp only
  cases next? input with
  | none => rfl
  | some next =>
    simp only
    split
    · cases frame.enter next.2 <;> rfl
    · rfl

theorem skipFrom_of_lead {input rest : Bytes} {lead : Lead}
    (hlead : readLead true input = .ok (lead, rest)) (hframe : lead.frame? = none) :
    skipFrom .before frames input = skipFrom .after frames rest := by
  rw [skipFrom_before, hlead]
  simp only [hframe]

theorem skipFrom_of_empty {input rest tail : Bytes}
    (hlead : readLead true input = .ok (frame.lead, rest))
    (hnext : next? rest = some (frame.closing, tail)) :
    skipFrom .before frames input = skipFrom .after frames tail := by
  rw [skipFrom_before, hlead]
  simp only [frame.frame?_lead, hnext, if_true]

theorem skipFrom_of_filled {input rest tail entered : Bytes} {c : Char}
    (hlead : readLead true input = .ok (frame.lead, rest)) (hnext : next? rest = some (c, tail))
    (hc : c ≠ frame.closing) (henter : frame.enter rest = .ok entered) :
    skipFrom .before frames input = skipFrom .before (frame :: frames) entered := by
  rw [skipFrom_before, hlead]
  simp only [frame.frame?_lead, hnext, if_neg hc, henter]

theorem skipFrom_of_comma {input rest entered : Bytes} (hnext : next? input = some (',', rest))
    (henter : frame.enter rest = .ok entered) :
    skipFrom .after (frame :: frames) input = skipFrom .before (frame :: frames) entered := by
  rw [skipFrom_after, hnext]
  simp only [if_true, henter]

theorem skipFrom_of_closing {input rest : Bytes}
    (hnext : next? input = some (frame.closing, rest)) :
    skipFrom .after (frame :: frames) input = skipFrom .after frames rest := by
  have hcomma : frame.closing ≠ ',' := by cases frame <;> decide
  rw [skipFrom_after, hnext]
  simp only [if_neg hcomma, if_true]

/-! ### Derivations -/

theorem Blank.followed {after : List Char} (h : Blank after) {c : Char} (hc : c ∈ afterNumber)
    (rest : List Char) : Followed afterNumber (after ++ c :: rest) := by
  cases after with
  | nil => exact .of_cons hc rest
  | cons blank after => exact .of_cons (List.mem_append_left _ (h blank List.mem_cons_self)) _

theorem Frame.closing_mem_tokenStarts (frame : Frame) : frame.closing ∈ tokenStarts := by
  cases frame <;> decide

theorem Frame.closing_mem_afterNumber (frame : Frame) : frame.closing ∈ afterNumber := by
  cases frame <;> decide

theorem Frame.closing_not_mem_beginnings (frame : Frame) : frame.closing ∉ beginnings := by
  cases frame <;> decide

/-- Skipping goes past the text, and if it is the contents of a list or an object, past the closing
bracket too. -/
def Skips : Kind → List Char → Prop
  | .value, text => ∀ {before rest : List Char} (frames : List Frame), Blank before →
      Followed afterNumber rest → skipFrom .before frames (utf8 (before ++ (text ++ rest))) =
        skipFrom .after frames (utf8 rest)
  | .contents frame, text => ∀ (frames : List Frame) (rest : List Char),
      ∃ entered, frame.enter (utf8 (text ++ frame.closing :: rest)) = .ok entered ∧
        skipFrom .before (frame :: frames) entered = skipFrom .after frames (utf8 rest)

theorem Skips.of_lead {text : List Char}
    (h : ∀ {rest}, Followed afterNumber rest → ∃ lead,
      readLead true (utf8 (text ++ rest)) = .ok (lead, utf8 rest) ∧ lead.frame? = none) :
    Skips .value text := by
  intro before rest frames hbefore hrest
  obtain ⟨lead, hlead, hframe⟩ := h hrest
  exact skipFrom_of_lead ((readLead_append hbefore _).trans hlead) hframe

theorem Derives.skips {kind : Kind} {text : List Char} (h : Derives kind text) :
    Skips kind text := by
  induction h with
  | null => exact Skips.of_lead fun _ ↦ ⟨.null, readLead_null _, rfl⟩
  | flag value => exact Skips.of_lead fun _ ↦ ⟨.flag value, readLead_flag value _, rfl⟩
  | negative hmagnitude =>
    refine Skips.of_lead fun hrest ↦ ⟨.number none, ?_, rfl⟩
    rw [List.cons_append, readLead_minus]
    exact readNumber_skipped hmagnitude hrest true
  | natural hmagnitude =>
    refine Skips.of_lead fun hrest ↦ ⟨.number none, ?_, rfl⟩
    have hread := readNumber_skipped hmagnitude hrest false
    obtain ⟨c, tail, rfl, hc⟩ := hmagnitude.exists_cons
    exact (readLead_digit hc _).trans hread
  | @string text hquotable =>
    refine Skips.of_lead fun {rest} _ ↦ ⟨.text, ?_, rfl⟩
    rw [List.cons_append, List.append_assoc]
    exact readLead_string hquotable rest
  | @empty frame text hblank =>
    intro before rest frames hbefore _
    have hlead : readLead true (utf8 (frame.opening :: (text ++ frame.closing :: rest))) =
        .ok (frame.lead, utf8 (text ++ frame.closing :: rest)) := readLead_opening frame _
    have hnext : next? (utf8 (text ++ frame.closing :: rest)) =
        some (frame.closing, utf8 rest) := by
      rw [next?_append hblank, next?_cons frame.closing_mem_tokenStarts]
    rw [List.cons_append, List.append_assoc]
    exact skipFrom_of_empty ((readLead_append hbefore _).trans hlead) hnext
  | @filled frame text hcontents ih =>
    intro before rest frames hbefore _
    have hlead : readLead true (utf8 (frame.opening :: (text ++ frame.closing :: rest))) =
        .ok (frame.lead, utf8 (text ++ frame.closing :: rest)) := readLead_opening frame _
    obtain ⟨entered, henter, hskip⟩ := ih frames rest
    obtain ⟨c, tail, hc, hnext⟩ := (hcontents.begins.append (frame.closing :: rest)).next?
    have hclosing : c ≠ frame.closing := fun heq ↦ frame.closing_not_mem_beginnings (heq ▸ hc)
    rw [List.cons_append, List.append_assoc]
    exact (skipFrom_of_filled ((readLead_append hbefore _).trans hlead) hnext hclosing
      henter).trans hskip
  | @last frame intro before value after hintro hbefore _ hafter ih =>
    intro frames rest
    have hnext : next? (utf8 (after ++ frame.closing :: rest)) =
        some (frame.closing, utf8 rest) := by
      rw [next?_append hafter, next?_cons frame.closing_mem_tokenStarts]
    refine ⟨utf8 (before ++ (value ++ (after ++ frame.closing :: rest))), ?_, ?_⟩
    · have henter := hintro.enter (before ++ (value ++ (after ++ frame.closing :: rest)))
      simpa only [List.append_assoc] using henter
    · rw [ih (frame :: frames) hbefore (hafter.followed frame.closing_mem_afterNumber rest)]
      exact skipFrom_of_closing hnext
  | @more frame intro before value after others hintro hbefore _ hafter _ ih ihrest =>
    intro frames rest
    obtain ⟨entered, henter, hskip⟩ := ihrest frames rest
    have hnext : next? (utf8 (after ++ ',' :: (others ++ frame.closing :: rest))) =
        some (',', utf8 (others ++ frame.closing :: rest)) := by
      rw [next?_append hafter, next?_cons (by decide)]
    refine ⟨utf8 (before ++ (value ++ (after ++ ',' :: (others ++ frame.closing :: rest)))), ?_, ?_⟩
    · have henter := hintro.enter
        (before ++ (value ++ (after ++ ',' :: (others ++ frame.closing :: rest))))
      simpa only [List.append_assoc, List.cons_append] using henter
    · rw [ih (frame :: frames) hbefore (hafter.followed (by decide) _)]
      exact (skipFrom_of_comma hnext henter).trans hskip

/-- Skipping a value ends right after it. -/
theorem skipValue_append {text : List Char} (htext : Derives .value text) (hbefore : Blank before)
    (hrest : Followed afterNumber rest) :
    skipValue (utf8 (before ++ (text ++ rest))) = .ok (utf8 rest) := by
  rw [skipValue, htext.skips [] hbefore hrest, skipFrom.eq_def]

end RadioScan.Json
