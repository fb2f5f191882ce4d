/-! The kinds of device that a plan can drive. -/

namespace Outband

inductive Kind where
  | host
  | chassis
  | bladeByPosition
  | bladeBySerial
  /-- No device. Such a plan only waits. -/
  | sleep
  deriving DecidableEq, Repr

namespace Kind

def all : List Kind := [.host, .chassis, .bladeByPosition, .bladeBySerial, .sleep]

def name : Kind → String
  | .host => "host"
  | .chassis => "chassis"
  | .bladeByPosition => "blade-by-position"
  | .bladeBySerial => "blade-by-serial"
  | .sleep => "sleep"

def ofName? (name : String) : Option Kind := all.find? (·.name == name)

/-- The kind as the description of a plan shows it. -/
def label : Kind → String
  | .host => "Host"
  | .chassis => "Chassis"
  | .bladeByPosition => "BladeByPosition"
  | .bladeBySerial => "BladeBySerial"
  | .sleep => "Sleep"

end Kind

end Outband
