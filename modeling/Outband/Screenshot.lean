import Outband.World
/-! Names of stored screenshots. -/

namespace Outband.Screenshot

/-- Host, type of hardware and the second of the capture, then the extension. -/
def fileName (host hardware extension : String) (seconds : Int) : String :=
  host ++ "-" ++ hardware ++ "-" ++ toString seconds ++ "." ++ extension

end Outband.Screenshot
