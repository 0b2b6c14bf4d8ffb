import Mathlib.Data.List.DropRight
import Mathlib.Data.List.Forall2

/-!
Texts as lines, and lines as words. A line is closed by a line break, so pieces that are each
followed by one are read back as they are unless they hold line breaks themselves, and then as all
of their own lines (`Text.lines_ofLines`).
-/

set_option autoImplicit false
set_option relaxedAutoImplicit false

namespace RadioScan.Text

/-! ### Lines -/

/-- The text in which each piece is followed by a line break. -/
def ofLines (pieces : List (List Char)) : List Char := pieces.flatMap (· ++ ['\n'])

/-- The lines of a text. What stands after the last line break is not a line. -/
def lines (text : List Char) : List (List Char) := (text.splitOn '\n').dropLast

theorem length_splitOn (c : Char) (text : List Char) :
    (text.splitOn c).length = text.count c + 1 := by
  rw [List.splitOn_eq_splitOnP]
  induction text with
  | nil => simp
  | cons first rest ih =>
    rw [List.splitOnP_cons_eq_if_modifyHead, List.count_cons]
    split
    · rw [List.length_cons, ih]
    · rw [List.length_modifyHead, ih]

theorem splitOn_append_of_not_mem {c : Char} {start : List Char} (h : c ∉ start)
    (rest : List Char) : (start ++ rest).splitOn c = (rest.splitOn c).modifyHead (start ++ ·) := by
  induction start with
  | nil => exact (congrFun List.modifyHead_id _).symm
  | cons first start ih =>
    obtain ⟨hfirst, hstart⟩ : c ≠ first ∧ c ∉ start := by simpa using h
    rw [List.cons_append, List.splitOn_eq_splitOnP, List.splitOnP_cons_eq_if_modifyHead,
      if_neg (by simpa using Ne.symm hfirst), ← List.splitOn_eq_splitOnP, ih hstart,
      List.modifyHead_modifyHead]
    rfl

theorem lines_append (piece rest : List Char) :
    lines (piece ++ '\n' :: rest) = piece.splitOn '\n' ++ lines rest := by
  rw [lines, List.splitOn_append_cons_self,
    List.dropLast_append_of_ne_nil (List.splitOn_ne_nil _ _)]
  rfl

/-- Pieces that are each followed by a line break are read back as the lines that they hold. -/
theorem lines_ofLines (pieces : List (List Char)) :
    lines (ofLines pieces) = pieces.flatMap (List.splitOn '\n') := by
  induction pieces with
  | nil => rfl
  | cons piece rest ih =>
    have hcons : ofLines (piece :: rest) = piece ++ '\n' :: ofLines rest := by
      simp [ofLines]
    rw [hcons, lines_append, ih, List.flatMap_cons]

theorem ofLines_eq_intercalate {pieces : List (List Char)} (hne : pieces ≠ []) :
    ofLines pieces = ['\n'].intercalate pieces ++ ['\n'] := by
  induction pieces with
  | nil => exact absurd rfl hne
  | cons piece rest ih =>
    cases rest with
    | nil => simp [ofLines]
    | cons second others =>
      have hcons : ofLines (piece :: second :: others) =
          piece ++ ['\n'] ++ ofLines (second :: others) := rfl
      rw [hcons, ih (List.cons_ne_nil _ _), List.intercalate_cons_cons]
      simp

/-- A text that ends with a line break is known by its lines. -/
theorem ofLines_lines_ofLines (pieces : List (List Char)) :
    ofLines (lines (ofLines pieces)) = ofLines pieces := by
  have hpiece (piece : List Char) : ofLines (piece.splitOn '\n') = piece ++ ['\n'] := by
    rw [ofLines_eq_intercalate (List.splitOn_ne_nil _ _), List.intercalate_splitOn]
  rw [lines_ofLines, ofLines, List.flatMap_assoc]
  exact List.flatMap_congr fun piece _ ↦ hpiece piece

/-! ### Sections -/

/-- The lines before the first one that is a title. -/
def beforeFirst (title : List Char) (lines : List (List Char)) : List (List Char) :=
  lines.takeWhile (· ≠ title)

/-- The lines after the first one that is a title. -/
def afterFirst (title : List Char) (lines : List (List Char)) : List (List Char) :=
  (lines.dropWhile (· ≠ title)).tail

/-- The lines after the last one that is a title. -/
def afterLast (title : List Char) (lines : List (List Char)) : List (List Char) :=
  lines.rtakeWhile (· ≠ title)

variable {title : List Char} {earlier later : List (List Char)}

theorem forall_ne_title (h : title ∉ earlier) :
    ∀ line ∈ earlier, decide (line ≠ title) = true :=
  fun _ hmem ↦ decide_eq_true fun heq ↦ h (heq ▸ hmem)

theorem beforeFirst_append_cons (h : title ∉ earlier) :
    beforeFirst title (earlier ++ title :: later) = earlier := by
  rw [beforeFirst, List.takeWhile_append_of_pos (forall_ne_title h), List.takeWhile_cons_of_neg,
    List.append_nil]
  simp

theorem afterFirst_append_cons (h : title ∉ earlier) :
    afterFirst title (earlier ++ title :: later) = later := by
  rw [afterFirst, List.dropWhile_append_of_pos (forall_ne_title h), List.dropWhile_cons_of_neg,
    List.tail_cons]
  simp

theorem afterLast_append_cons (h : title ∉ later) :
    afterLast title (earlier ++ title :: later) = later := by
  have hreversed : ∀ line ∈ later.reverse, decide (line ≠ title) = true :=
    forall_ne_title (by simpa using h)
  rw [afterLast, List.rtakeWhile, List.reverse_append, List.reverse_cons, List.append_assoc,
    List.takeWhile_append_of_pos hreversed, List.singleton_append, List.takeWhile_cons_of_neg]
  · simp
  · simp

/-! ### Reading line by line -/

/-- Reading every item succeeds exactly if each is read as the result at its place. -/
theorem mapM_eq_some_iff {α β : Type} {read : α → Option β} {items : List α} {results : List β} :
    items.mapM read = some results ↔
      List.Forall₂ (fun item result ↦ read item = some result) items results := by
  induction items generalizing results with
  | nil => cases results <;> simp
  | cons item rest ih =>
    rw [List.mapM_cons, List.forall₂_cons_left_iff]
    simp only [Option.pure_def, Option.bind_eq_bind, Option.bind_eq_some_iff, Option.some.injEq, ih]
    constructor
    · rintro ⟨result, hresult, others, hothers, rfl⟩
      exact ⟨result, others, hresult, hothers, rfl⟩
    · rintro ⟨result, others, hresult, hothers, rfl⟩
      exact ⟨result, hresult, others, hothers, rfl⟩

/-! ### Words -/

/-- The words of a line, which stand between blanks. -/
def words (line : List Char) : List (List Char) := (line.splitOn ' ').filter (· ≠ [])

theorem words_blank (rest : List Char) : words (' ' :: rest) = words rest := by
  have hsplit := List.splitOn_append_cons_self (a := ' ') [] rest
  rw [List.nil_append] at hsplit
  simp [words, hsplit]

theorem words_replicate (count : Nat) (rest : List Char) :
    words (List.replicate count ' ' ++ rest) = words rest := by
  induction count with
  | zero => rfl
  | succ count ih => rw [List.replicate_succ, List.cons_append, words_blank, ih]

theorem words_word {word : List Char} (hne : word ≠ []) (hword : ' ' ∉ word) (rest : List Char) :
    words (word ++ ' ' :: rest) = word :: words rest := by
  rw [words, List.splitOn_append_cons_self, List.splitOn_eq_singleton hword, List.filter_append]
  simp [words, hne]

end RadioScan.Text
