/-!
Records that are stored as JSON texts. A `Declaration` says which members a record has and what
stands in for those that are missing. Reading and writing are left to a `Library`, of which nothing
is said here.
-/

set_option autoImplicit false
set_option relaxedAutoImplicit false

namespace RadioScan.Json

/-- A member of an object: its name, and the text of its value. -/
structure Member where
  name : List Char
  value : List Char
  deriving DecidableEq, Repr

/-- A field of a record, which is stored as a member: a truth value, or a number of 64 bits. -/
inductive Field (ρ : Type)
  | flag (name : List Char) (get : ρ → Bool) (set : ρ → Bool → ρ)
  | count (name : List Char) (get : ρ → UInt64) (set : ρ → UInt64 → ρ)

def Field.name {ρ : Type} : Field ρ → List Char
  | flag name _ _ => name
  | count name _ _ => name

/-- The fields of a record in order, and the record from which those that are missing are taken. -/
structure Declaration (ρ : Type) where
  fields : List (Field ρ)
  standard : ρ

def Declaration.names {ρ : Type} (declaration : Declaration ρ) : List (List Char) :=
  declaration.fields.map Field.name

/-- Reads a record from a text, or from the members of an object, and writes one. What goes wrong is
told by an `ε`. -/
structure Library (ρ ε : Type) where
  ofText : String → Except ε ρ
  ofMembers : List Member → Except ε ρ
  toText : ρ → String

end RadioScan.Json
