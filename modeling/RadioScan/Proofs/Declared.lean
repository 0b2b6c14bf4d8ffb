import RadioScan.Config.Basic
import RadioScan.Proofs.Grammar

/-!
What libraries do with declared records. `Json.Library.Documented` is what can be relied on of a
library: a text that is an object is read as its members are, a member of a field sets the field, a
member of another name changes nothing, a field without a member keeps its standard value, and a
record is written as the object of its fields. Nothing is said of texts that are refused. For
configurations it follows that the order of the members does not matter, and neither does what
stands between them (`Config.ofMembers_of_tells`).
-/

set_option autoImplicit false
set_option relaxedAutoImplicit false

namespace RadioScan

namespace Json

variable {ρ ε : Type}

/-- The member that a field of the record is written as. -/
def Field.member (record : ρ) : Field ρ → Member
  | flag name get _ => ⟨name, flagText (get record)⟩
  | count name get _ => ⟨name, Nat.toDigits 10 (get record).toNat⟩

/-- Setting the field of a record to the value that the text stands for gives the other record. -/
inductive Field.Sets : Field ρ → List Char → ρ → ρ → Prop
  | flag {name : List Char} {get : ρ → Bool} {set : ρ → Bool → ρ} (value : Bool) (record : ρ) :
      Sets (.flag name get set) (flagText value) record (set record value)
  | count {name : List Char} {get : ρ → UInt64} {set : ρ → UInt64 → ρ} (value : UInt64)
      (record : ρ) :
      Sets (.count name get set) (Nat.toDigits 10 value.toNat) record (set record value)

/-- What a library is documented to do with the records of a declaration. -/
structure Library.Documented (declaration : Declaration ρ) (library : Library ρ ε) : Prop where
  /-- Blanks and escapes do not matter, only the members do. -/
  object : ∀ {members : List Member} {text : String} {record : ρ}, Object members text.toList →
    library.ofMembers members = .ok record → library.ofText text = .ok record
  missing : library.ofMembers [] = .ok declaration.standard
  unknown : ∀ {name value : List Char} {rest : List Member} {record : ρ},
    name ∉ declaration.names → Derives .value value → library.ofMembers rest = .ok record →
      library.ofMembers (⟨name, value⟩ :: rest) = .ok record
  known : ∀ {field : Field ρ} {value : List Char} {rest : List Member} {record next : ρ},
    field ∈ declaration.fields → field.name ∉ rest.map Member.name →
      field.Sets value record next → library.ofMembers rest = .ok record →
        library.ofMembers (⟨field.name, value⟩ :: rest) = .ok next
  written : ∀ record, Object (declaration.fields.map (Field.member record))
    (library.toText record).toList

end Json

namespace Config

open Json

variable {ε : Type} {library : Library Config ε} {config : Config}

/-- A member that tells the value of the configuration, or one of another name, with any value. -/
inductive Tells (config : Config) : Member → Prop
  | background : Tells config ⟨backgroundName, flagText config.backgroundScanning⟩
  | hidden : Tells config ⟨hiddenName, Nat.toDigits 10 config.hiddenPerScan.toNat⟩
  | other {name value : List Char} (hbackground : name ≠ backgroundName)
      (hhidden : name ≠ hiddenName) (hvalue : Derives .value value) : Tells config ⟨name, value⟩

/-- The members come from the configuration: each tells its value or has another name, and neither
of the two fields comes twice. -/
structure Tell (config : Config) (members : List Member) : Prop where
  tells : ∀ member ∈ members, config.Tells member
  background_once : (members.map Member.name).count backgroundName ≤ 1
  hidden_once : (members.map Member.name).count hiddenName ≤ 1

/-- The configuration in which what has no member has its standard value. -/
def restricted (config : Config) (names : List (List Char)) : Config where
  backgroundScanning :=
    if backgroundName ∈ names then config.backgroundScanning else standard.backgroundScanning
  hiddenPerScan := if hiddenName ∈ names then config.hiddenPerScan else standard.hiddenPerScan

theorem hiddenName_ne_backgroundName : hiddenName ≠ backgroundName := by decide

/-- A name that comes once does not come again. -/
theorem not_mem_of_count_cons {name : List Char} {names : List (List Char)}
    (h : (name :: names).count name ≤ 1) : name ∉ names := by
  rw [List.count_cons_self] at h
  exact List.count_eq_zero.mp (by omega)

theorem Tell.of_cons {member : Member} {rest : List Member} (h : config.Tell (member :: rest)) :
    config.Tell rest where
  tells := fun other hother ↦ h.tells other (List.mem_cons_of_mem _ hother)
  background_once := Nat.le_trans List.count_le_count_cons h.background_once
  hidden_once := Nat.le_trans List.count_le_count_cons h.hidden_once

/-- The members of a configuration are read as what they tell, and the standard for the rest. -/
theorem ofMembers_of_tell (documented : library.Documented declaration) {members : List Member}
    (h : config.Tell members) :
    library.ofMembers members = .ok (config.restricted (members.map Member.name)) := by
  induction members with
  | nil => exact documented.missing
  | cons member rest ih =>
    have hrest := ih h.of_cons
    cases h.tells member List.mem_cons_self with
    | background =>
      have hfresh := not_mem_of_count_cons h.background_once
      have hnext := documented.known List.mem_cons_self hfresh
        (.flag config.backgroundScanning _) hrest
      simpa [restricted, Field.name, hiddenName_ne_backgroundName] using hnext
    | hidden =>
      have hfresh := not_mem_of_count_cons h.hidden_once
      have hnext := documented.known (List.mem_cons_of_mem _ List.mem_cons_self) hfresh
        (.count config.hiddenPerScan _) hrest
      simpa [restricted, Field.name, hiddenName_ne_backgroundName.symm] using hnext
    | other hbackground hhidden hvalue =>
      have hunknown := List.not_mem_cons_of_ne_of_not_mem hbackground
        (List.not_mem_cons_of_ne_of_not_mem hhidden List.not_mem_nil)
      have hnext := documented.unknown hunknown hvalue hrest
      simpa [restricted, Ne.symm hbackground, Ne.symm hhidden] using hnext

theorem tell_fields (config : Config) :
    config.Tell (declaration.fields.map (Field.member config)) where
  tells := by
    intro member hmember
    rcases List.mem_cons.mp hmember with rfl | hmember
    · exact .background
    · rw [List.mem_singleton.mp hmember]
      exact .hidden
  background_once := by
    show [backgroundName, hiddenName].count backgroundName ≤ 1
    decide
  hidden_once := by
    show [backgroundName, hiddenName].count hiddenName ≤ 1
    decide

end Config

end RadioScan
