/-!
Strings of bytes.
-/

set_option autoImplicit false
set_option relaxedAutoImplicit false

namespace RadioScan

abbrev Bytes := List UInt8

end RadioScan
