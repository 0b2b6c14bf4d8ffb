import RadioScan.Config.Reader

/-!
Loading a configuration from a file.
-/

set_option autoImplicit false
set_option relaxedAutoImplicit false

namespace RadioScan.Config

/-- What there is at a path. -/
inductive Found
  | nothing
  | directory
  | file (content : Bytes)
  deriving DecidableEq, Repr

/-- Why a file gave no configuration. -/
inductive LoadFault
  | notFound
  | isDirectory
  | invalidData
  | unexpectedEnd
  deriving DecidableEq, Repr

/-- A text that ends too soon is told apart from one that is no good otherwise. -/
def LoadFault.ofFault : Json.Fault → LoadFault
  | .malformed => invalidData
  | .mismatched => invalidData
  | .truncated => unexpectedEnd

def load : Found → Except LoadFault Config
  | .nothing => .error .notFound
  | .directory => .error .isDirectory
  | .file content => (read content).mapError LoadFault.ofFault

end RadioScan.Config
