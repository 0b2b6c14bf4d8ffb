import RadioScan.Json.Library

/-!
The configuration of a scanner, and how it is stored. Any library that reads and writes records of
this declaration will do; `Config.render` is how the one that runs writes them.
-/

set_option autoImplicit false
set_option relaxedAutoImplicit false

namespace RadioScan

/-- Whether the platform scans in the background, and how many hidden networks to probe in one scan
as long as the driver has not told its limit. -/
structure Config where
  backgroundScanning : Bool
  hiddenPerScan : UInt64
  deriving DecidableEq, Repr

namespace Config

def standard : Config := ⟨false, 16⟩

/-- The names of the two members. -/
def backgroundName : List Char := "background_scan_supported".toList

def hiddenName : List Char := "default_hidden_networks_per_scan".toList

/-- Both fields may be missing. -/
def declaration : Json.Declaration Config where
  fields :=
    [.flag backgroundName backgroundScanning fun config value ↦
        { config with backgroundScanning := value },
      .count hiddenName hiddenPerScan fun config value ↦ { config with hiddenPerScan := value }]
  standard := standard

/-- Reads a configuration from a text, as the library does. -/
def fromJson {ε : Type} (library : Json.Library Config ε) (text : String) : Except ε Config :=
  library.ofText text

/-- The text of a member without its value. -/
def label (name : List Char) : List Char := ['"'] ++ name ++ ['"', ':']

/-- The configuration as an object of two members, without blanks. -/
def render (config : Config) : List Char :=
  ['\x7b'] ++ label backgroundName
    ++ (if config.backgroundScanning then "true".toList else "false".toList)
    ++ [','] ++ label hiddenName ++ Nat.toDigits 10 config.hiddenPerScan.toNat ++ ['\x7d']

end Config

end RadioScan
