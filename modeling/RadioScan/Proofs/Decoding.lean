import Mathlib.Algebra.Group.Nat.Defs
import Mathlib.Tactic.SplitIfs
import RadioScan.Text.Utf8

/-!
Two facts about reading bytes as UTF-8. Text that was written as UTF-8 is read back as it was
(`decode?_utf8`). And whatever the bytes are, reading them leniently keeps their line breaks and
makes no others (`count_newline_lossy`): a sequence that is read as one character always stands for
a character beyond the first 128, and one that breaks off swallows nothing.
-/

set_option autoImplicit false
set_option relaxedAutoImplicit false

namespace RadioScan.Text.Utf8

theorem toNat_ofNat (value : Nat) :
    (Char.ofNat value).toNat = if value.isValidChar then value else 0 := by
  by_cases hvalid : value.isValidChar
  · rw [if_pos hvalid, Char.ofNat, dif_pos hvalid]
    rfl
  · rw [if_neg hvalid, Char.ofNat, dif_neg hvalid]
    rfl

/-! ### Line breaks -/

/-- A character is under way that cannot be one of the first 128. -/
structure Pending.Long (pending : Pending) : Prop where
  least_ge : 0x80 ≤ pending.least.toNat
  greatest_le : pending.greatest.toNat ≤ 0xBF
  ends_high : 2 ≤ pending.payload ∨
    2 ≤ pending.owed ∧ (1 ≤ pending.payload ∨ 0x90 ≤ pending.least.toNat)

/-- How many line breaks a byte is. -/
def newlines (byte : UInt8) : Nat := if byte = 0x0A then 1 else 0

/-- A reading has a line break exactly for the byte that is one, and leaves open only what will
become another character. -/
structure Reading.Faithful (reading : Reading) (byte : UInt8) : Prop where
  count_eq : reading.spots.count (some '\n') = newlines byte
  long : ∀ pending ∈ reading.pending, pending.Long

theorem Pending.long_of_ofLead? {byte : UInt8} {pending : Pending}
    (h : ofLead? byte = some pending) : pending.Long := by
  have hne (value : UInt8) (hbyte : ¬ byte = value) : byte.toNat ≠ value.toNat := fun heq ↦
    hbyte (UInt8.toNat_inj.mp heq)
  simp only [ofLead?, UInt8.lt_iff_toNat_lt, UInt8.reduceToNat] at h
  split_ifs at h with _ _ hE0 _ _ hF0 _ _ <;> obtain rfl := Option.some.inj h <;>
    refine ⟨by simp, by simp, ?_⟩
  · exact Or.inl (by simp only; omega)
  · exact Or.inr ⟨by simp, Or.inr (by simp)⟩
  · exact Or.inl (by simp)
  · have := hne _ hE0
    simp only [UInt8.reduceToNat] at this
    exact Or.inr ⟨by simp, Or.inl (by simp only; omega)⟩
  · exact Or.inr ⟨by simp, Or.inr (by simp)⟩
  · have := hne _ hF0
    simp only [UInt8.reduceToNat] at this
    exact Or.inr ⟨by simp, Or.inl (by simp only; omega)⟩
  · exact Or.inl (by simp)

theorem ofNat_ne_newline {value : Nat} (h : value ≠ 0x0A) : Char.ofNat value ≠ '\n' := by
  intro heq
  have hvalue := toNat_ofNat value
  rw [heq] at hvalue
  have hnewline : '\n'.toNat = 0x0A := rfl
  split at hvalue <;> omega

theorem count_newline_singleton (value : Nat) :
    [some (Char.ofNat value)].count (some '\n') = if value = 0x0A then 1 else 0 := by
  by_cases hvalue : value = 0x0A
  · rw [if_pos hvalue, hvalue]
    rfl
  · rw [if_neg hvalue, List.count_singleton, if_neg]
    simpa using ofNat_ne_newline hvalue

theorem newlines_of_ge {byte : UInt8} (h : 0x80 ≤ byte.toNat) : newlines byte = 0 := by
  refine if_neg fun heq ↦ ?_
  rw [heq] at h
  exact absurd h (by decide)

theorem Reading.faithful_afresh (byte : UInt8) : (afresh byte).Faithful byte := by
  unfold afresh
  split
  · refine ⟨?_, by simp⟩
    rw [count_newline_singleton, newlines]
    simp only [← UInt8.toNat_inj, UInt8.reduceToNat]
  · next hhigh =>
    have hother : newlines byte = 0 :=
      newlines_of_ge (by simpa [UInt8.lt_iff_toNat_lt] using hhigh)
    split
    · next pending hlead =>
      refine ⟨hother.symm, fun other heq ↦ ?_⟩
      rw [← Option.some.inj heq]
      exact Pending.long_of_ofLead? hlead
    · exact ⟨hother.symm, by simp⟩

theorem Pending.Long.faithful_feed {pending : Pending} (hlong : pending.Long) (byte : UInt8) :
    (pending.feed byte).Faithful byte := by
  obtain ⟨hleast, hgreatest, hhigh⟩ := hlong
  unfold feed
  split
  · next hrange =>
    rw [UInt8.le_iff_toNat_le, UInt8.le_iff_toNat_le] at hrange
    have hother : newlines byte = 0 := newlines_of_ge (by omega)
    split
    · next howed =>
      refine ⟨(count_newline_singleton _).trans ?_, by simp⟩
      rw [hother, if_neg (by omega)]
    · refine ⟨hother.symm, fun next heq ↦ ?_⟩
      rw [← Option.some.inj heq]
      exact ⟨by simp, by simp, Or.inl (by simp only; omega)⟩
  · obtain ⟨hcount, hnext⟩ := Reading.faithful_afresh byte
    exact ⟨by rwa [List.count_cons_of_ne (by decide)], hnext⟩

theorem spotsFrom_cons (pending : Option Pending) (byte : UInt8) (rest : Bytes) :
    spotsFrom pending (byte :: rest) =
      (pending.elim (Reading.afresh byte) (·.feed byte)).spots ++
        spotsFrom (pending.elim (Reading.afresh byte) (·.feed byte)).pending rest := by
  cases pending <;> rfl

theorem count_newline_spotsFrom {pending : Option Pending} (hlong : ∀ p ∈ pending, p.Long)
    (bytes : Bytes) : (spotsFrom pending bytes).count (some '\n') = bytes.count 0x0A := by
  induction bytes generalizing pending with
  | nil => cases pending <;> rfl
  | cons byte rest ih =>
    have hfaithful : (pending.elim (Reading.afresh byte) (·.feed byte)).Faithful byte := by
      cases pending with
      | none => exact Reading.faithful_afresh byte
      | some pending => exact (hlong pending rfl).faithful_feed byte
    rw [spotsFrom_cons, List.count_append, hfaithful.count_eq, ih hfaithful.long, List.count_cons,
      Nat.add_comm]
    simp [newlines]

/-- Reading bytes leniently keeps their line breaks and makes no others. -/
theorem count_newline_lossy (bytes : Bytes) : (lossy bytes).count '\n' = bytes.count 0x0A := by
  have hspots : (spotsFrom none bytes).count (some '\n') = bytes.count 0x0A :=
    count_newline_spotsFrom (by simp) bytes
  rw [lossy, List.count_eq_countP, List.countP_map, ← hspots, List.count_eq_countP]
  refine List.countP_congr fun spot _ ↦ ?_
  cases spot <;> simp

/-! ### Writing -/

/-- A text as UTF-8. -/
def utf8 (text : List Char) : Bytes := text.flatMap String.utf8EncodeChar

theorem utf8_cons (c : Char) (rest : List Char) :
    utf8 (c :: rest) = String.utf8EncodeChar c ++ utf8 rest := rfl

/-- The bytes after the first one of a character, of which there are this many. -/
def continuation (value : Nat) : Nat → Bytes
  | 0 => []
  | owed + 1 => UInt8.ofNat (value / 64 ^ owed % 64 + 0x80) :: continuation value owed

/-- The sequence is the beginning of the character with this number. -/
structure Pending.Begins (pending : Pending) (value : Nat) : Prop where
  owed_pos : 0 < pending.owed
  payload_eq : pending.payload = value / 64 ^ pending.owed
  least_le : pending.least.toNat ≤ value / 64 ^ (pending.owed - 1) % 64 + 0x80
  le_greatest : value / 64 ^ (pending.owed - 1) % 64 + 0x80 ≤ pending.greatest.toNat

theorem Pending.Begins.spotsFrom_continuation {pending : Pending} {value : Nat}
    (hbegins : pending.Begins value) (rest : Bytes) :
    spotsFrom (some pending) (continuation value pending.owed ++ rest) =
      some (Char.ofNat value) :: spotsFrom none rest := by
  obtain ⟨payload, owed, least, greatest⟩ := pending
  obtain ⟨hpos, hpayload, hleast, hgreatest⟩ := hbegins
  simp only at hpos hpayload hleast hgreatest ⊢
  induction owed generalizing payload least greatest with
  | zero => cases hpos
  | succ owed ih =>
    rw [Nat.add_sub_cancel] at hleast hgreatest
    have hnext : payload * 64 + (UInt8.ofNat (value / 64 ^ owed % 64 + 0x80)).toNat % 64 =
        value / 64 ^ owed := by
      rw [hpayload, Nat.pow_succ, ← Nat.div_div_eq_div_mul, UInt8.toNat_ofNat']
      omega
    have hrange : least ≤ UInt8.ofNat (value / 64 ^ owed % 64 + 0x80) ∧
        UInt8.ofNat (value / 64 ^ owed % 64 + 0x80) ≤ greatest := by
      rw [UInt8.le_iff_toNat_le, UInt8.le_iff_toNat_le, UInt8.toNat_ofNat']
      omega
    rw [continuation, List.cons_append, spotsFrom_cons]
    simp only [Option.elim_some, feed, if_pos hrange, hnext]
    rcases Nat.eq_zero_or_pos owed with rfl | howed
    · simp [continuation]
    · rw [if_neg (by omega), Nat.add_sub_cancel]
      refine (List.nil_append _).trans (ih _ _ _ howed rfl ?_ ?_)
      · simp only [UInt8.reduceToNat]
        omega
      · simp only [UInt8.reduceToNat]
        omega

theorem not_lt_of_ofLead? {byte : UInt8} {pending : Pending}
    (h : Pending.ofLead? byte = some pending) : ¬ byte < 0x80 := by
  intro hlow
  have hearlier : byte < 0xC2 := UInt8.lt_trans hlow (by decide)
  rw [Pending.ofLead?, if_pos hearlier] at h
  cases h

theorem spotsFrom_lead {byte : UInt8} {pending : Pending} (h : Pending.ofLead? byte = some pending)
    (rest : Bytes) : spotsFrom none (byte :: rest) = spotsFrom (some pending) rest := by
  rw [spotsFrom_cons]
  simp only [Option.elim_none, Reading.afresh, if_neg (not_lt_of_ofLead? h), h, List.nil_append]

theorem ofLead?_ofNat {number : Nat} (h : number < 256) :
    Pending.ofLead? (UInt8.ofNat number) =
      if number < 0xC2 then none
      else if number < 0xE0 then some ⟨number % 32, 1, 0x80, 0xBF⟩
      else if number = 0xE0 then some ⟨0, 2, 0xA0, 0xBF⟩
      else if number = 0xED then some ⟨13, 2, 0x80, 0x9F⟩
      else if number < 0xF0 then some ⟨number % 16, 2, 0x80, 0xBF⟩
      else if number = 0xF0 then some ⟨0, 3, 0x90, 0xBF⟩
      else if number < 0xF4 then some ⟨number % 8, 3, 0x80, 0xBF⟩
      else if number = 0xF4 then some ⟨4, 3, 0x80, 0x8F⟩
      else none := by
  have hnumber : (UInt8.ofNat number).toNat = number := by
    rw [UInt8.toNat_ofNat']
    omega
  simp only [Pending.ofLead?, UInt8.lt_iff_toNat_lt, ← UInt8.toNat_inj, hnumber, UInt8.reduceToNat]

/-- The lead byte begins a character with this number, and so many bytes follow it. -/
def Leads (lead value owed : Nat) : Prop :=
  ∃ pending, Pending.ofLead? (UInt8.ofNat lead) = some pending ∧ pending.Begins value ∧
    pending.owed = owed

theorem leads_two {value : Nat} (hlong : 0x80 ≤ value) (hshort : value ≤ 0x7FF) :
    Leads (value / 64 % 32 + 192) value 1 := by
  refine ⟨⟨value / 64, 1, 0x80, 0xBF⟩, ?_, ⟨by simp, by simp, by simp, ?_⟩, rfl⟩
  · rw [ofLead?_ofNat (by omega), if_neg (by omega), if_pos (by omega)]
    congr 2
    omega
  · simp only [UInt8.reduceToNat]
    omega

theorem leads_three {value : Nat} (hlong : 0x7FF < value) (hshort : value ≤ 0xFFFF)
    (hvalid : value < 0xD800 ∨ 0xDFFF < value) : Leads (value / 4096 % 16 + 224) value 2 := by
  have hlead := ofLead?_ofNat (show value / 4096 % 16 + 224 < 256 by omega)
  rw [if_neg (by omega), if_neg (by omega)] at hlead
  simp only [show value / 4096 % 16 + 224 < 0xF0 by omega, if_true] at hlead
  split_ifs at hlead
  all_goals refine ⟨_, hlead, ⟨by simp, ?_, ?_, ?_⟩, rfl⟩ <;>
    simp only [UInt8.reduceToNat, Nat.reducePow, Nat.reduceSub] <;> omega

theorem leads_four {value : Nat} (hlong : 0xFFFF < value) (hshort : value < 0x110000) :
    Leads (value / 262144 % 8 + 240) value 3 := by
  have hlead := ofLead?_ofNat (show value / 262144 % 8 + 240 < 256 by omega)
  rw [if_neg (by omega), if_neg (by omega), if_neg (by omega), if_neg (by omega),
    if_neg (by omega)] at hlead
  split_ifs at hlead
  case neg => omega
  all_goals refine ⟨_, hlead, ⟨by simp, ?_, ?_, ?_⟩, rfl⟩ <;>
    simp only [UInt8.reduceToNat, Nat.reducePow, Nat.reduceSub] <;> omega

/-- A character of more than one byte begins with a byte that tells how many follow. -/
theorem exists_leads (c : Char) (hlong : 0x80 ≤ c.toNat) :
    ∃ lead owed, Leads lead c.toNat owed ∧
      String.utf8EncodeChar c = UInt8.ofNat lead :: continuation c.toNat owed := by
  have hvalid : c.toNat < 0xD800 ∨ 0xDFFF < c.toNat ∧ c.toNat < 0x110000 := c.valid
  have hencode := String.utf8EncodeChar.eq_def c
  simp only [show c.val.toNat = c.toNat from rfl] at hencode
  generalize c.toNat = value at hlong hvalid hencode
  rw [if_neg (by omega)] at hencode
  split_ifs at hencode
  · exact ⟨_, 1, leads_two (by omega) (by omega), hencode.trans (by simp [continuation])⟩
  · exact ⟨_, 2, leads_three (by omega) (by omega) (by omega),
      hencode.trans (by simp [continuation])⟩
  · exact ⟨_, 3, leads_four (by omega) (by omega), hencode.trans (by simp [continuation])⟩

theorem utf8EncodeChar_of_lt {c : Char} (h : c.toNat < 0x80) :
    String.utf8EncodeChar c = [UInt8.ofNat c.toNat] := by
  have hle : c.val.toNat ≤ 127 := Nat.le_of_lt_succ h
  simp only [String.utf8EncodeChar, if_pos hle]
  rfl

/-- The bytes of a character that takes more than one are all beyond ASCII. -/
theorem le_of_mem_utf8EncodeChar {c : Char} (hlong : 0x80 ≤ c.toNat) {byte : UInt8}
    (hmem : byte ∈ String.utf8EncodeChar c) : 0x80 ≤ byte := by
  have hcontinuation (value owed : Nat) : ∀ byte ∈ continuation value owed, 0x80 ≤ byte := by
    induction owed with
    | zero => exact List.forall_mem_nil _
    | succ owed ih =>
      refine List.forall_mem_cons.mpr ⟨?_, ih⟩
      rw [UInt8.le_iff_toNat_le, UInt8.toNat_ofNat']
      simp only [UInt8.reduceToNat]
      omega
  obtain ⟨lead, owed, ⟨pending, hlead, _⟩, hencode⟩ := exists_leads c hlong
  rw [hencode] at hmem
  rcases List.mem_cons.mp hmem with rfl | hmem
  · exact UInt8.not_lt.mp (not_lt_of_ofLead? hlead)
  · exact hcontinuation _ _ _ hmem

theorem spotsFrom_utf8EncodeChar (c : Char) (rest : Bytes) :
    spotsFrom none (String.utf8EncodeChar c ++ rest) = some c :: spotsFrom none rest := by
  by_cases hshort : c.toNat < 0x80
  · have hbyte : (UInt8.ofNat c.toNat).toNat = c.toNat := by
      rw [UInt8.toNat_ofNat']
      omega
    have hlow : UInt8.ofNat c.toNat < 0x80 := by
      rw [UInt8.lt_iff_toNat_lt, hbyte]
      exact hshort
    rw [utf8EncodeChar_of_lt hshort, List.singleton_append, spotsFrom_cons]
    simp only [Option.elim_none, Reading.afresh, if_pos hlow, hbyte, Char.ofNat_toNat,
      List.singleton_append]
  · obtain ⟨lead, _, ⟨pending, hlead, hbegins, rfl⟩, hencode⟩ :=
      exists_leads c (Nat.le_of_not_lt hshort)
    rw [hencode, List.cons_append, spotsFrom_lead hlead, hbegins.spotsFrom_continuation,
      Char.ofNat_toNat]

theorem mapM_id_map_some {α : Type} (values : List α) :
    (values.map some).mapM id = some values := by
  induction values with
  | nil => rfl
  | cons value rest ih => simp [ih]

/-- What was written is read back. -/
theorem decode?_utf8 (text : List Char) : decode? (utf8 text) = some text := by
  have hspots : spots (utf8 text) = text.map some := by
    unfold spots
    induction text with
    | nil => rfl
    | cons c rest ih =>
      rw [utf8, List.flatMap_cons, spotsFrom_utf8EncodeChar, List.map_cons]
      exact congrArg _ ih
  rw [decode?, hspots, mapM_id_map_some]

end RadioScan.Text.Utf8
