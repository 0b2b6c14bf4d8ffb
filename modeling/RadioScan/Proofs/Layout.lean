import RadioScan.Config.Reader
import RadioScan.Proofs.Declared
import RadioScan.Proofs.Skipping

/-!
The library that runs, and how configurations may be laid out. The reader takes a text apart into
the members of its object, whatever blanks, escapes and values of any nesting stand in it
(`Config.parse_object`), so it keeps to what libraries are documented to do
(`Config.documented_library`). With any library that does, a text whose members come from a
configuration is read as what they tell, and what is written is read back
(`Config.layout_independent`).
-/

set_option autoImplicit false
set_option relaxedAutoImplicit false

namespace RadioScan.Config

open Json
open Text.Utf8 (utf8)

/-! ### Values -/

theorem flag?_flagText (value : Bool) : flag? (flagText value) = some value := by
  cases value <;> rfl

theorem eq_flagText_of_flag? {text : List Char} {value : Bool} (h : flag? text = some value) :
    text = flagText value := by
  unfold flag? at h
  split at h
  · next htext =>
    obtain rfl := Option.some.inj h
    exact htext
  · split at h
    · next htext =>
      obtain rfl := Option.some.inj h
      exact htext
    · cases h

theorem count?_toDigits (value : UInt64) : count? (Nat.toDigits 10 value.toNat) = some value := by
  have hvalue : Nat.ofDigitChars 10 (Nat.toDigits 10 value.toNat) 0 = value.toNat :=
    Nat.ofDigitChars_toDigits (by decide) (by decide)
  simp [count?, hvalue]

theorem eq_toDigits_of_count? {text : List Char} {value : UInt64} (h : count? text = some value) :
    text = Nat.toDigits 10 value.toNat := by
  dsimp only [count?] at h
  split at h
  · next htext =>
    obtain rfl := Option.some.inj h
    exact htext
  · cases h

variable {found next : Members} {name before rest : List Char}

theorem readFlag_append (hbefore : Blank before) (value : Bool) (rest : List Char) :
    readFlag (utf8 (before ++ (flagText value ++ rest))) = .ok (value, utf8 rest) := by
  rw [readFlag, readLead_append hbefore, readLead_flag]

theorem readCount_append (hbefore : Blank before) (value : UInt64)
    (hrest : Followed afterNumber rest) :
    readCount (utf8 (before ++ (Nat.toDigits 10 value.toNat ++ rest))) =
      .ok (value, utf8 rest) := by
  have hnumber := readNumber_toDigits value hrest
  obtain ⟨c, tail, hcons, hc⟩ := (digits_toDigits value.toNat).exists_cons
  rw [hcons] at hnumber ⊢
  rw [readCount, readLead_append hbefore, List.cons_append, readLead_digit hc, ← List.cons_append,
    hnumber]

/-! ### Members -/

/-- What taking in a member can come to. -/
inductive Members.Added (found : Members) : Member → Members → Prop
  | background (value : Bool) (hfound : found.background = none) :
      Added found ⟨backgroundName, flagText value⟩ { found with background := some value }
  | hidden (value : UInt64) (hfound : found.hidden = none) :
      Added found ⟨hiddenName, Nat.toDigits 10 value.toNat⟩ { found with hidden := some value }
  | other {member : Member} (hbackground : member.name ≠ backgroundName)
      (hhidden : member.name ≠ hiddenName) : Added found member found

theorem Members.added_of_add {member : Member} (h : found.add member = .ok next) :
    found.Added member next := by
  obtain ⟨name, value⟩ := member
  unfold Members.add at h
  split at h
  · next hname =>
    obtain rfl : name = backgroundName := hname
    split at h
    · next hfound hvalue =>
      obtain rfl : value = _ := eq_flagText_of_flag? hvalue
      obtain rfl := Except.ok.inj h
      exact .background _ hfound
    · cases h
  · next hbackground =>
    split at h
    · next hname =>
      obtain rfl : name = hiddenName := hname
      split at h
      · next hfound hvalue =>
        obtain rfl : value = _ := eq_toDigits_of_count? hvalue
        obtain rfl := Except.ok.inj h
        exact .hidden _ hfound
      · cases h
    · next hhidden =>
      obtain rfl := Except.ok.inj h
      exact .other hbackground hhidden

theorem readFresh_append {α : Type} (read : Bytes → Except Fault (α × Bytes))
    (hbefore : Blank before) (rest : List Char) :
    readFresh none read (utf8 (before ++ ':' :: rest)) = read (utf8 rest) := by
  simp only [readFresh, Option.isSome_none, readColon_append hbefore]
  rfl

/-- A member is read as it is taken in. -/
theorem readMember_append {afterName beforeValue value : List Char}
    (hadded : found.Added ⟨name, value⟩ next) (hvalue : Derives .value value)
    (hafterName : Blank afterName) (hbeforeValue : Blank beforeValue)
    (hrest : Followed afterNumber rest) :
    readMember found name (utf8 (afterName ++ ':' :: (beforeValue ++ (value ++ rest)))) =
      .ok (next, utf8 rest) := by
  cases hadded with
  | background value hfound =>
    rw [readMember, if_pos rfl, hfound, readFresh_append _ hafterName,
      readFlag_append hbeforeValue]
    rfl
  | hidden value hfound =>
    rw [readMember, if_neg hiddenName_ne_backgroundName, if_pos rfl, hfound,
      readFresh_append _ hafterName, readCount_append hbeforeValue _ hrest]
    rfl
  | other hbackground hhidden =>
    rw [readMember, if_neg hbackground, if_neg hhidden, readColon_append hafterName]
    simp only [skipValue_append hvalue hbeforeValue hrest]
    rfl

/-! ### Objects -/

/-- What stands before a member apart from blanks. -/
def separator (first : Bool) : List Char := if first then [] else [',']

theorem readQuoted_append {spelling : List Char} (hbefore : Blank before)
    (hspelling : Spells spelling name) (rest : List Char) :
    readQuoted (utf8 (before ++ '"' :: (spelling ++ '"' :: rest))) = .ok (name, utf8 rest) := by
  rw [readQuoted, next?_append hbefore, next?_cons (by decide)]
  exact readString_append hspelling rest

theorem readName_append {gap spelling : List Char} (first : Bool) (hgap : Blank gap)
    (hbefore : Blank before) (hspelling : Spells spelling name) (rest : List Char) :
    readName first
        (utf8 (gap ++ (separator first ++ (before ++ '"' :: (spelling ++ '"' :: rest))))) =
      .ok (some name, utf8 rest) := by
  have hquoted (before : List Char) (hbefore : Blank before) :=
    readQuoted_append hbefore hspelling rest
  cases first
  · rw [readName, next?_append hgap, separator, if_neg (by decide), List.cons_append,
      next?_cons (by decide), List.nil_append]
    simp only [hquoted before hbefore]
    rfl
  · have hjoined : Blank (gap ++ before) := List.forall_mem_append.mpr ⟨hgap, hbefore⟩
    rw [readName, next?_append hgap, separator, if_pos rfl, List.nil_append, ← List.append_assoc,
      next?_append hbefore, next?_cons (by decide)]
    simp only [hquoted _ hjoined]
    rfl

theorem readName_end {gap : List Char} (first : Bool) (hgap : Blank gap) (rest : List Char) :
    readName first (utf8 (gap ++ '\x7d' :: rest)) = .ok (none, utf8 rest) := by
  rw [readName, next?_append hgap, next?_cons (by decide)]
  rfl

/-- What reading an object does, one member at a time. The definition also keeps why it ends. -/
theorem readMembers_eq (found : Members) (first : Bool) (input : Bytes) :
    readMembers found first input =
      match readName first input with
      | .error fault => .error fault
      | .ok (none, rest) => .ok (found, rest)
      | .ok (some name, rest) =>
        match readMember found name rest with
        | .error fault => .error fault
        | .ok (found, rest) => readMembers found false rest := by
  rw [readMembers.eq_def]
  rcases readName first input with fault | ⟨_ | name, rest⟩
  · rfl
  · rfl
  · simp only
    cases readMember found name rest <;> rfl

theorem readMembers_of_none {first : Bool} {input rest : Bytes}
    (hname : readName first input = .ok (none, rest)) :
    readMembers found first input = .ok (found, rest) := by
  rw [readMembers_eq, hname]

theorem readMembers_of_some {first : Bool} {input rest left : Bytes} {next : Members}
    (hname : readName first input = .ok (some name, rest))
    (hmember : readMember found name rest = .ok (next, left)) :
    readMembers found first input = readMembers next false left := by
  rw [readMembers_eq, hname]
  simp only [hmember]

/-- Reading a member stops before the blanks after it. -/
theorem readMembers_member {member : Member} {gap text : List Char} (first : Bool)
    (hadd : found.add member = .ok next) (hmember : member.Spelled text) (hgap : Blank gap)
    {c : Char} (hc : c ∈ afterNumber) (rest : List Char) :
    ∃ after, Blank after ∧
      readMembers found first (utf8 (gap ++ (separator first ++ (text ++ c :: rest)))) =
        readMembers next false (utf8 (after ++ c :: rest)) := by
  cases hmember with
  | @parts name before spelling afterName beforeValue value after hbefore hspelling hafterName
      hbeforeValue hvalue hafter =>
    have hname := readName_append first hgap hbefore hspelling
      (afterName ++ ':' :: (beforeValue ++ (value ++ (after ++ c :: rest))))
    have hread := readMember_append (Members.added_of_add hadd) hvalue hafterName hbeforeValue
      (hafter.followed hc rest)
    refine ⟨after, hafter, readMembers_of_some ?_ hread⟩
    simpa only [List.append_assoc, List.cons_append] using hname

theorem foldlM_cons_eq_ok {member : Member} {members : List Member} {final : Members}
    (h : (member :: members).foldlM Members.add found = .ok final) :
    ∃ next, found.add member = .ok next ∧ members.foldlM Members.add next = .ok final := by
  rw [List.foldlM_cons] at h
  cases hadd : found.add member with
  | error fault =>
    rw [hadd] at h
    cases h
  | ok next =>
    rw [hadd] at h
    exact ⟨next, rfl, h⟩

/-- The members of an object are read as they are taken in one after the other. -/
theorem readMembers_append {members : List Member} {text : List Char}
    (htext : MemberList members text) (rest : List Char) :
    ∀ {found final : Members} {gap : List Char} (first : Bool),
      members.foldlM Members.add found = .ok final → Blank gap →
      readMembers found first (utf8 (gap ++ (separator first ++ (text ++ '\x7d' :: rest)))) =
        .ok (final, utf8 rest) := by
  induction htext with
  | last hmember =>
    intro found final gap first hfold hgap
    obtain ⟨next, hadd, hnil⟩ := foldlM_cons_eq_ok hfold
    obtain rfl := Except.ok.inj hnil
    obtain ⟨after, hafter, hread⟩ :=
      readMembers_member first hadd hmember hgap (show '\x7d' ∈ afterNumber by decide) rest
    rw [hread]
    exact readMembers_of_none (readName_end false hafter rest)
  | @more member text others members hmember _ ih =>
    intro found final gap first hfold hgap
    obtain ⟨next, hadd, hothers⟩ := foldlM_cons_eq_ok hfold
    obtain ⟨after, hafter, hread⟩ := readMembers_member first hadd hmember hgap
      (show ',' ∈ afterNumber by decide) (others ++ '\x7d' :: rest)
    rw [List.append_assoc, List.cons_append, hread]
    exact ih false hothers hafter

theorem skipBlanks_of_blank {text : List Char} (h : Blank text) : skipBlanks (utf8 text) = [] := by
  have hskip := skipBlanks_append h []
  rwa [List.append_nil] at hskip

theorem read_object {inner after : List Char} (hbefore : Blank before) (hafter : Blank after)
    (hmembers : readMembers .empty true (utf8 (inner ++ '\x7d' :: after)) =
      .ok (found, utf8 after)) :
    read (utf8 (before ++ '\x7b' :: (inner ++ '\x7d' :: after))) = .ok found.config := by
  have hlead : readLead false (utf8 (before ++ '\x7b' :: (inner ++ '\x7d' :: after))) =
      .ok (.object, utf8 (inner ++ '\x7d' :: after)) :=
    (readLead_append hbefore _).trans (readLead_opening .object _)
  simp only [read, readAny, hlead, hmembers, skipBlanks_of_blank hafter, if_true]

theorem exists_foldlM_of_ofMembers {members : List Member} {config : Config}
    (h : ofMembers members = .ok config) :
    ∃ final, members.foldlM Members.add .empty = .ok final ∧ final.config = config :=
  eq_ok_of_map h

/-- A text that is an object is read as its members make up a configuration. -/
theorem parse_object {members : List Member} {text : String} {config : Config}
    (htext : Object members text.toList) (hmembers : ofMembers members = .ok config) :
    parse text = .ok config := by
  obtain ⟨final, hfold, rfl⟩ := exists_foldlM_of_ofMembers hmembers
  show read (utf8 text.toList) = .ok final.config
  generalize text.toList = chars at htext
  cases htext with
  | empty hbefore hwithin hafter =>
    obtain rfl := Except.ok.inj hfold
    exact read_object hbefore hafter (readMembers_of_none (readName_end true hwithin _))
  | filled hbefore hlist hafter =>
    exact read_object hbefore hafter (readMembers_append hlist _ true hfold blank_nil)

/-! ### The library that runs -/

/-- Whether the one member was found already makes no difference to members of other names. -/
theorem foldlM_add_background {members : List Member} {final : Members}
    (hfresh : backgroundName ∉ members.map Member.name)
    (hfold : members.foldlM Members.add found = .ok final) (value : Option Bool) :
    members.foldlM Members.add { found with background := value } =
      .ok { final with background := value } := by
  induction members generalizing found with
  | nil =>
    obtain rfl := Except.ok.inj hfold
    rfl
  | cons member members ih =>
    obtain ⟨next, hadd, hmembers⟩ := foldlM_cons_eq_ok hfold
    rw [List.map_cons, List.mem_cons, not_or] at hfresh
    have hnext : ({ found with background := value } : Members).add member =
        .ok { next with background := value } := by
      cases Members.added_of_add hadd with
      | background _ _ => exact absurd rfl hfresh.1
      | hidden value hfound =>
        simp [Members.add, hiddenName_ne_backgroundName, hfound, count?_toDigits]
      | other hbackground hhidden => simp [Members.add, hbackground, hhidden]
    rw [List.foldlM_cons, hnext]
    exact ih hfresh.2 hmembers

theorem foldlM_add_hidden {members : List Member} {final : Members}
    (hfresh : hiddenName ∉ members.map Member.name)
    (hfold : members.foldlM Members.add found = .ok final) (value : Option UInt64) :
    members.foldlM Members.add { found with hidden := value } =
      .ok { final with hidden := value } := by
  induction members generalizing found with
  | nil =>
    obtain rfl := Except.ok.inj hfold
    rfl
  | cons member members ih =>
    obtain ⟨next, hadd, hmembers⟩ := foldlM_cons_eq_ok hfold
    rw [List.map_cons, List.mem_cons, not_or] at hfresh
    have hnext : ({ found with hidden := value } : Members).add member =
        .ok { next with hidden := value } := by
      cases Members.added_of_add hadd with
      | background value hfound => simp [Members.add, hfound, flag?_flagText]
      | hidden _ _ => exact absurd rfl hfresh.1
      | other hbackground hhidden => simp [Members.add, hbackground, hhidden]
    rw [List.foldlM_cons, hnext]
    exact ih hfresh.2 hmembers

theorem ofMembers_of_background {members : List Member} {config : Config}
    (hfresh : backgroundName ∉ members.map Member.name) (hmembers : ofMembers members = .ok config)
    (value : Bool) : ofMembers (⟨backgroundName, flagText value⟩ :: members) =
      .ok { config with backgroundScanning := value } := by
  obtain ⟨final, hfold, rfl⟩ := exists_foldlM_of_ofMembers hmembers
  have hadd : Members.empty.add ⟨backgroundName, flagText value⟩ =
      .ok { Members.empty with background := some value } := by
    simp [Members.add, Members.empty, flag?_flagText]
  have hnext := foldlM_add_background hfresh hfold (some value)
  rw [ofMembers, List.foldlM_cons, hadd]
  exact congrArg (Except.map Members.config) hnext

theorem ofMembers_of_hidden {members : List Member} {config : Config}
    (hfresh : hiddenName ∉ members.map Member.name) (hmembers : ofMembers members = .ok config)
    (value : UInt64) : ofMembers (⟨hiddenName, Nat.toDigits 10 value.toNat⟩ :: members) =
      .ok { config with hiddenPerScan := value } := by
  obtain ⟨final, hfold, rfl⟩ := exists_foldlM_of_ofMembers hmembers
  have hadd : Members.empty.add ⟨hiddenName, Nat.toDigits 10 value.toNat⟩ =
      .ok { Members.empty with hidden := some value } := by
    simp [Members.add, Members.empty, hiddenName_ne_backgroundName, count?_toDigits]
  have hnext := foldlM_add_hidden hfresh hfold (some value)
  rw [ofMembers, List.foldlM_cons, hadd]
  exact congrArg (Except.map Members.config) hnext

theorem ofMembers_of_unknown {members : List Member} {value : List Char} {config : Config}
    (hname : name ∉ declaration.names) (hmembers : ofMembers members = .ok config) :
    ofMembers (⟨name, value⟩ :: members) = .ok config := by
  have hbackground : name ≠ backgroundName := List.ne_of_not_mem_cons hname
  have hhidden : name ≠ hiddenName :=
    List.ne_of_not_mem_cons (List.not_mem_of_not_mem_cons hname)
  have hadd : Members.empty.add ⟨name, value⟩ = .ok .empty := by
    rw [Members.add, if_neg hbackground, if_neg hhidden]
  rw [ofMembers, List.foldlM_cons, hadd]
  exact hmembers

theorem plain_of_mem_backgroundName : ∀ c ∈ backgroundName, Plain c :=
  forall_mem_of_all (by decide)

theorem plain_of_mem_hiddenName : ∀ c ∈ hiddenName, Plain c := forall_mem_of_all (by decide)

/-- What is rendered is the object of the two fields. -/
theorem object_render (config : Config) :
    Object (declaration.fields.map (Field.member config)) config.render := by
  have hbackground : Member.Spelled ⟨backgroundName, flagText config.backgroundScanning⟩ _ :=
    .parts blank_nil (.of_forall_plain plain_of_mem_backgroundName) blank_nil blank_nil (.flag _)
      blank_nil
  have hhidden : Member.Spelled ⟨hiddenName, Nat.toDigits 10 config.hiddenPerScan.toNat⟩ _ :=
    .parts blank_nil (.of_forall_plain plain_of_mem_hiddenName) blank_nil blank_nil
      (.toDigits _) blank_nil
  have hobject := Object.filled blank_nil (.more hbackground (.last hhidden)) blank_nil
  simp only [render, label, flagText, List.append_assoc, List.cons_append, List.nil_append,
    List.append_nil] at hobject ⊢
  exact hobject

/-- The library that runs does what libraries are documented to do. -/
theorem documented_library : library.Documented declaration where
  object := parse_object
  missing := rfl
  unknown := fun hname _ hmembers ↦ ofMembers_of_unknown hname hmembers
  known := by
    intro field value rest record next hfield hfresh hsets hmembers
    rcases List.mem_cons.mp hfield with rfl | hfield
    · cases hsets with
      | flag value => exact ofMembers_of_background hfresh hmembers value
    · obtain rfl := List.mem_singleton.mp hfield
      cases hsets with
      | count value => exact ofMembers_of_hidden hfresh hmembers value
  written := by
    intro config
    show Object _ (String.ofList config.render).toList
    rw [String.toList_ofList]
    exact object_render config

/-! ### Configurations -/

/-- Whatever library reads it, a text whose members come from a configuration is read as it was
meant: what has a member has its value, what has none the standard. What the library writes of a
configuration is read back. -/
theorem layout_independent {ε : Type} {library : Library Config ε}
    (documented : library.Documented declaration) (config : Config) :
    (∀ (members : List Member) (text : String), Object members text.toList →
      config.Tell members →
        fromJson library text = .ok (config.restricted (members.map Member.name))) ∧
    fromJson library (library.toText config) = .ok config := by
  have hread {members : List Member} {text : String} (htext : Object members text.toList)
      (htell : config.Tell members) :
      fromJson library text = .ok (config.restricted (members.map Member.name)) :=
    documented.object htext (ofMembers_of_tell documented htell)
  exact ⟨fun _ _ ↦ hread, hread (documented.written config) config.tell_fields⟩

/-- An object with only one of the two members, of which the name is spelled with an escape, after
a member of another name. -/
def scattered : String :=
  " \x7b\n\"\\ud83d\\ude00\" : [ \x7b\x7d , -0.5e+3,\"\\ud800é\" ] ," ++
    "\"\\u0064efault_hidden_networks_per_scan\"\t:18446744073709551615\x7d "

/-- What the list in it holds. -/
def scatteredItems : List Char := "[ \x7b\x7d , -0.5e+3,\"\\ud800é\" ]".toList

theorem derives_scatteredItems : Derives .value scatteredItems := by
  have hspace : Blank [' '] := by simp [Blank, blanks]
  have hdigits (c : Char) (hc : c.isDigit = true) : Digits [c] :=
    ⟨List.cons_ne_nil _ _, by simpa using hc⟩
  have hnumber : Derives .value ['-', '0', '.', '5', 'e', '+', '3'] :=
    .negative (.parts .zero (.digits (hdigits '5' (by decide)))
      (.digits (by decide) (show ['+'] ∈ [[], ['+'], ['-']] by decide) (hdigits '3' (by decide))))
  have hstring : Derives .value ['"', '\\', 'u', 'd', '8', '0', '0', 'é', '"'] :=
    .string (.unit (.digits rfl rfl rfl rfl) (.plain (by decide) .nil))
  exact @Derives.filled .list _ (.more .item hspace (@Derives.empty .object _ blank_nil) hspace
    (.more .item hspace hnumber blank_nil (.last .item blank_nil hstring hspace)))

def scatteredMembers : List Member :=
  [⟨['😀'], scatteredItems⟩, ⟨hiddenName, Nat.toDigits 10 18446744073709551615⟩]

theorem object_scattered : Object scatteredMembers scattered.toList := by
  have hblank (c : Char) (hc : c ∈ blanks) : Blank [c] := by simpa [Blank] using hc
  have hspace := hblank ' ' (by decide)
  have hhigh : FourDigits ['d', '8', '3', 'd'] 0xD83D :=
    @FourDigits.digits _ _ _ _ 13 8 3 13 rfl rfl rfl rfl
  have hlow : FourDigits ['d', 'e', '0', '0'] 0xDE00 :=
    @FourDigits.digits _ _ _ _ 13 14 0 0 rfl rfl rfl rfl
  have hsmile : Spells "\\ud83d\\ude00".toList ['😀'] :=
    .pair hhigh hlow (by decide) (by decide) .nil
  have hother : Member.Spelled ⟨['😀'], scatteredItems⟩ _ :=
    .parts (hblank '\n' (by decide)) hsmile hspace hspace derives_scatteredItems hspace
  have hescape : FourDigits ['0', '0', '6', '4'] 0x64 :=
    @FourDigits.digits _ _ _ _ 0 0 6 4 rfl rfl rfl rfl
  have htail : Spells hiddenName.tail hiddenName.tail :=
    .of_forall_plain fun c hmem ↦ plain_of_mem_hiddenName c (List.mem_of_mem_tail hmem)
  have hspelling : Spells ('\\' :: 'u' :: (['0', '0', '6', '4'] ++ hiddenName.tail)) hiddenName :=
    .unit hescape (by decide) htail
  have hhidden : Member.Spelled ⟨hiddenName, Nat.toDigits 10 18446744073709551615⟩ _ :=
    .parts blank_nil hspelling (hblank '\t' (by decide)) blank_nil (.toDigits _) blank_nil
  have hobject := Object.filled hspace (.more hother (.last hhidden)) hspace
  refine Eq.mp (congrArg (Object scatteredMembers) ?_) hobject
  decide +kernel

theorem tell_scattered : Tell ⟨true, 18446744073709551615⟩ scatteredMembers where
  tells := by
    intro member hmember
    rcases List.mem_cons.mp hmember with rfl | hmember
    · exact .other (by decide) (by decide) derives_scatteredItems
    · rw [List.mem_singleton.mp hmember]
      exact .hidden
  background_once := by decide
  hidden_once := by decide

theorem layout_independent_scattered :
    library.Documented declaration ∧ Object scatteredMembers scattered.toList ∧
      Tell ⟨true, 18446744073709551615⟩ scatteredMembers ∧
      fromJson library scattered = .ok ⟨false, 18446744073709551615⟩ :=
  have hread := (layout_independent documented_library ⟨true, 18446744073709551615⟩).1
  ⟨documented_library, object_scattered, tell_scattered,
    hread _ _ object_scattered tell_scattered⟩

end RadioScan.Config
