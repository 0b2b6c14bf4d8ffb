/-!
Rotation of hidden networks. A hidden network answers only probes that name it, and a driver takes
a limited number of names per scan. When the caller's list is longer than that, successive scans
walk through it in a cycle; `Rotation` is the place reached and the limit learned so far.
-/

set_option autoImplicit false
set_option relaxedAutoImplicit false

namespace RadioScan

/-- Where the walk stands. `learned` is the number of names per scan as last learned from the
driver, and `fallbackBatch` the number to use as long as the driver has not told. -/
structure Rotation where
  fallbackBatch : Nat
  learned : Option Nat
  cursor : Nat
  deriving DecidableEq, Repr

namespace Rotation

variable {α : Type}

/-- A rotation that has learned nothing. -/
def fresh (fallbackBatch : Nat) : Rotation := ⟨fallbackBatch, none, 0⟩

/-- The driver counts the broadcast probe that every scan sends, so one name fewer than its answer
fits. An answer that leaves no room for a name teaches nothing. -/
def usable (answer : Int32) : Option Nat :=
  let names := if answer = Int32.minValue then answer else answer - 1
  if 0 < names then some names.toNatClampNeg else none

/-- The entries at `count` successive positions from `start` on, going round at the end. -/
def window (networks : List α) (start count : Nat) : List α :=
  (List.range' start count).filterMap fun position ↦ networks[position % networks.length]?

/-- What one selection gives: the networks to probe, whether the driver was asked for its limit,
and the rotation afterwards. -/
structure Pick (α : Type) where
  chosen : List α
  asked : Bool
  next : Rotation
  deriving DecidableEq, Repr

/-- Chooses the networks to probe next. `answer` is what the driver replies if it is asked, which
happens only while nothing has been learned. Without a learned limit, when everything fits, and
when the list has become too short for the cursor, the choice starts at the head of the list. -/
def select (rotation : Rotation) (networks : List α) (answer : Int32) : Pick α :=
  let learned := rotation.learned.or (usable answer)
  let batch := min networks.length (learned.getD rotation.fallbackBatch)
  let start :=
    if batch = networks.length ∨ networks.length ≤ rotation.cursor ∨ learned = none then 0
    else rotation.cursor
  { chosen := window networks start batch
    asked := rotation.learned.isNone
    next := { rotation with
      learned
      cursor := if networks.isEmpty then 0 else (start + batch) % networks.length } }

/-- Forgets the driver's limit and returns to the head of the list. -/
def reset (rotation : Rotation) : Rotation := fresh rotation.fallbackBatch

/-- One use of a rotation. -/
inductive Use (α : Type)
  | pick (networks : List α) (answer : Int32)
  | reset
  deriving DecidableEq, Repr

def apply (rotation : Rotation) : Use α → Pick α
  | .pick networks answer => rotation.select networks answer
  | .reset => ⟨[], false, rotation.reset⟩

/-- What each of several uses gives, one after the other. -/
def trace (rotation : Rotation) : List (Use α) → List (Pick α)
  | [] => []
  | use :: rest =>
    let pick := rotation.apply use
    pick :: pick.next.trace rest

end Rotation

end RadioScan
