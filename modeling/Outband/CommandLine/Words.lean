/-! The words of a command line: commands, options with and without a value, and operands. -/

namespace Outband.CommandLine

/-- The commands. All but the leaves have commands below them. -/
inductive Command where
  | top
  | serve
  | exec
  | host
  | chassis
  | bladePosition
  | bladeSerial
  deriving DecidableEq, Repr

inductive Switch where
  | verbose
  | help
  | version
  deriving DecidableEq, Repr

/-- Options with a value. -/
inductive Setting where
  | config
  | bind
  deriving DecidableEq, Repr

inductive Choice where
  | switch (switch : Switch)
  | setting (setting : Setting)
  deriving DecidableEq, Repr

/-- Why the words are not run. Asking for help or the version is among the reasons. -/
inductive UsageFault where
  | invalidValue
  | tooManyValues
  | conflict
  | unknownArgument
  | invalidSubcommand
  | missingSubcommand
  | missingArgument
  /-- Nothing was given where a command below this one is needed. -/
  | nothingGiven (command : Command)
  | help
  | version (command : Command)
  deriving DecidableEq, Repr

namespace Command

def programName : String := "bmc-actor"

/-- The name that a command gives its version under. -/
def displayName : Command → String
  | .top => programName
  | .serve => programName ++ "-serve"
  | .exec => programName ++ "-exec"
  | .host => programName ++ "-exec-host"
  | .chassis => programName ++ "-exec-chassis"
  | .bladePosition => programName ++ "-exec-blade-pos"
  | .bladeSerial => programName ++ "-exec-blade-serial"

/-- What a command is for. -/
def purpose : Command → String
  | .top => "Power, boot and console control through management controllers"
  | .serve => "Serve the HTTP API"
  | .exec => "Run an action sequence against one target and print the results"
  | .host => "A standalone server"
  | .chassis => "A blade chassis"
  | .bladePosition => "A blade addressed by slot"
  | .bladeSerial => "A blade addressed by serial number"

def helpName : String := "help"

/-- The commands below a command, by name. -/
def children : Command → List (String × Command)
  | .top => [("serve", .serve), ("exec", .exec)]
  | .exec =>
    [("host", .host), ("chassis", .chassis), ("blade-pos", .bladePosition),
      ("blade-serial", .bladeSerial)]
  | _ => []

/-- How many operands a command needs. More may follow if it takes any. -/
def operands : Command → Nat
  | .host | .chassis => 2
  | .bladePosition | .bladeSerial => 3
  | _ => 0

/-- Only a slot may be a negative number. -/
def takesNegative (c : Command) (index : Nat) : Bool := c == .bladePosition && index == 1

def longOption? (c : Command) (name : String) : Option Choice :=
  match name with
  | "verbose" => some (.switch .verbose)
  | "help" => some (.switch .help)
  | "version" => some (.switch .version)
  | "config" => some (.setting .config)
  | "bind" => if c == .serve then some (.setting .bind) else none
  | _ => none

def shortOption? : Char → Option Choice
  | 'v' => some (.switch .verbose)
  | 'h' => some (.switch .help)
  | 'V' => some (.switch .version)
  | 'c' => some (.setting .config)
  | _ => none

/-- A name that a command below, or the help on those, goes by. -/
def isChildName (c : Command) (word : String) : Bool :=
  !c.children.isEmpty && (word == helpName || (c.children.lookup word).isSome)

/-- The answer to a request for help on the command that the words lead to. -/
def helpOn (c : Command) : List String → UsageFault
  | [] => .help
  | word :: rest =>
    match c.children.lookup word with
    | some child => child.helpOn rest
    | none => if c.isChildName word && rest.isEmpty then .help else .invalidSubcommand

/-- A word that the command has no place for. -/
def strayFault (c : Command) (escaped : Bool) (word : String) : UsageFault :=
  if c.children.isEmpty || (escaped && c.isChildName word) then .unknownArgument
  else .invalidSubcommand

end Command

/-- Digits with at most one point and one exponent, neither in front, the exponent with digits. -/
def isNumber (chars : List Char) : Bool :=
  let whole := chars.takeWhile fun c => c.isDigit || c == '.'
  match chars.drop whole.length with
  | [] => fits whole
  | 'e' :: power => !whole.isEmpty && fits whole && !power.isEmpty && power.all Char.isDigit
  | _ => false
where
  fits (whole : List Char) : Bool := whole.head? != some '.' && whole.count '.' ≤ 1

/-- A word by its form. -/
inductive Form where
  | plain
  /-- The two hyphens after which every word is an operand. -/
  | escape
  | long (name : String) (value : Option String)
  | short (letters : List Char)

def Form.ofWord (word : String) : Form :=
  match word.toList with
  | ['-', '-'] => .escape
  | '-' :: '-' :: rest =>
    let name := rest.takeWhile (· != '=')
    match rest.drop name.length with
    | _ :: value => .long (String.ofList name) (some (String.ofList value))
    | [] => .long (String.ofList name) none
  | '-' :: c :: rest => .short (c :: rest)
  | _ => .plain

end Outband.CommandLine
