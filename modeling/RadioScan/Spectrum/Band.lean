/-!
Radio bands and band masks. A mask is a 32-bit word in which each of the five known bands owns one
bit; the remaining bits name no band. `Band.ofMask` reads the bands off a mask in bit order, and
`Band.only?` recognises the masks that are exactly one band.
-/

set_option autoImplicit false
set_option relaxedAutoImplicit false

namespace RadioScan

/-- A channel is named by its centre frequency in MHz. -/
abbrev Frequency := Nat

/-- Bit `i` stands for the band at position `i`, when there is one. -/
abbrev BandMask := BitVec 32

/-- The bands that have a channel table. `ghz5Dfs` holds the channels on which radar has to be
avoided; they are scanned separately from the rest of the 5 GHz band. -/
inductive Band
  | ghz2
  | ghz5
  | ghz5Dfs
  | ghz6
  | ghz60
  deriving DecidableEq, Repr

namespace Band

/-- Every band, in the order of the mask bits. -/
def all : List Band := [ghz2, ghz5, ghz5Dfs, ghz6, ghz60]

/-- The mask bit of a band. -/
def position : Band → Nat
  | ghz2 => 0
  | ghz5 => 1
  | ghz5Dfs => 2
  | ghz6 => 3
  | ghz60 => 4

/-- The mask in which only this band's bit is set. -/
def mask (band : Band) : BandMask := BitVec.twoPow 32 band.position

/-- The known bands whose bit is set in a mask, in bit order. -/
def ofMask (mask : BandMask) : List Band := all.filter fun band ↦ mask.getLsbD band.position

/-- The band that a mask consists of, when it consists of exactly one known band. -/
def only? (mask : BandMask) : Option Band := all.find? fun band ↦ mask = band.mask

theorem mem_all (band : Band) : band ∈ all := by cases band <;> decide

theorem mem_ofMask {mask : BandMask} {band : Band} :
    band ∈ ofMask mask ↔ mask.getLsbD band.position = true := by
  simp [ofMask, mem_all]

end Band

/-- The mask that names no band. -/
def BandMask.unspecified : BandMask := 0#32

/-- Both parts of the 5 GHz band. -/
def BandMask.ghz5WithDfs : BandMask := Band.ghz5.mask ||| Band.ghz5Dfs.mask

/-- The frequencies of the 6 GHz band, whether or not a channel table lists them. -/
def inSixGhz (frequency : Frequency) : Bool :=
  5925 ≤ frequency ∧ frequency ≤ 7125

end RadioScan
