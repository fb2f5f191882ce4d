import Outband.CommandLine.Words
import Outband.Target
/-! Command lines as orders. Options stand anywhere between the words of their command, and those
that every command has count at the last command that they are given to. -/

namespace Outband

namespace CommandLine

/-- The device that an order is for, as given. -/
inductive Selection where
  | host (address : String)
  | chassis (address : String)
  | bladePosition (address position : String)
  | bladeSerial (address serial : String)
  deriving DecidableEq, Repr

namespace Selection

def kind : Selection → Kind
  | .host _ => .host
  | .chassis _ => .chassis
  | .bladePosition .. => .bladeByPosition
  | .bladeSerial .. => .bladeBySerial

/-- The parameters of the device. A slot stays text, so that a bad one is reported like any other
bad parameter. -/
def params : Selection → Params
  | .host address => (Target.host address).toParams
  | .chassis address => (Target.chassis address).toParams
  | .bladePosition address position =>
    (Target.positionParam, .text position) :: (Target.chassis address).toParams
  | .bladeSerial address serial => (Target.bladeBySerial address serial).toParams

end Selection

inductive Order where
  | serve (bind : Option String)
  | exec (selection : Selection) (actions : List String)
  deriving DecidableEq, Repr

/-- What one command was given. -/
structure Given where
  verbose : Nat := 0
  config : Option String := none
  bind : Option String := none
  /-- An option that is not settled yet, and its value if that has come. -/
  waiting : Option (Setting × Option String) := none
  operands : List String := []
  deriving DecidableEq, Repr

def maxVerbose : Nat := 255

namespace Given

/-- An option is given once, and the path of a file is not empty. -/
def set (g : Given) (setting : Setting) (value : String) : Except UsageFault Given :=
  match setting with
  | .config =>
    if g.config.isSome then .error .conflict
    else if value.isEmpty then .error .invalidValue
    else .ok { g with config := some value }
  | .bind => if g.bind.isSome then .error .conflict else .ok { g with bind := some value }

/-- Settles the option that waits. -/
def settle (g : Given) : Except UsageFault Given :=
  match g.waiting with
  | none => .ok g
  | some (_, none) => .error .invalidValue
  | some (setting, some value) => { g with waiting := none }.set setting value

/-- Takes an option of the command, with the value that is attached to it. -/
def choose (g : Given) (c : Command) (choice : Choice) (value : Option String) :
    Except UsageFault Given :=
  match choice, value with
  | .switch _, some _ => .error .tooManyValues
  | .switch .verbose, none => do
    let g ← g.settle
    return { g with verbose := min (g.verbose + 1) maxVerbose }
  | .switch .help, none => do
    let _ ← g.settle
    throw .help
  | .switch .version, none => do
    let _ ← g.settle
    throw (.version c)
  | .setting setting, some value => do (← g.settle).set setting value
  | .setting setting, none => do return { ← g.settle with waiting := some (setting, none) }

/-- Options given by one hyphen and a letter each. The first with a value takes what is left. -/
def chooseLetters (g : Given) (c : Command) : List Char → Except UsageFault Given
  | [] => .ok g
  | letter :: rest =>
    match Command.shortOption? letter, rest with
    | none, _ => .error .unknownArgument
    | some (.switch switch), rest => do (← g.choose c (.switch switch) none).chooseLetters c rest
    | some choice, [] => g.choose c choice none
    | some choice, '=' :: value | some choice, value =>
      g.choose c choice (some (String.ofList value))

/-- The next word belongs to an option. -/
def awaitsValue (g : Given) : Bool := g.waiting.any (·.2.isNone)

def takeValue (g : Given) (word : String) : Given :=
  { g with waiting := g.waiting.map fun (setting, _) => (setting, some word) }

/-- Nothing was given, not even through the variable that names a settings file. -/
def isBare (g : Given) (inherited : Option String) : Bool :=
  g.verbose == 0 && g.config.isNone && g.bind.isNone && inherited.isNone

end Given

/-- What is still missing when the words are at their end. -/
def Command.incomplete? (c : Command) (inherited : Option String) (g : Given) :
    Option UsageFault :=
  if !c.children.isEmpty then
    some (if g.isBare inherited then .nothingGiven c else .missingSubcommand)
  else if g.operands.length < c.operands then some .missingArgument
  else none

/-- The commands that were named and what each was given, from the top. -/
abbrev Trail := List (Command × Given)

/-- Ends a command that the trail lies below. -/
def finish (inherited : Option String) (c : Command) (g : Given) (below : Trail) :
    Except UsageFault Trail := do
  let g ← g.settle
  if g.config.isNone && inherited == some "" then throw .invalidValue
  match if below.isEmpty then c.incomplete? inherited g else none with
  | some fault => throw fault
  | none => return (c, g) :: below

/-- Reads the words that follow the name of a command. -/
def read (inherited : Option String) (c : Command) (escaped : Bool) (g : Given) :
    List String → Except UsageFault Trail
  | [] => finish inherited c g []
  | word :: rest =>
    let operand : Except UsageFault Trail :=
      if c.operands = 0 then .error (c.strayFault escaped word)
      else do
        let g ← g.settle
        read inherited c escaped { g with operands := g.operands ++ [word] } rest
    let taken : Except UsageFault Trail :=
      if g.awaitsValue then read inherited c escaped (g.takeValue word) rest else operand
    if escaped then operand
    else if !g.awaitsValue && c.isChildName word then
      match c.children.lookup word with
      | some child => do finish inherited c g (← read inherited child false {} rest)
      | none => .error (c.helpOn rest)
    else
      match Form.ofWord word with
      | .plain => taken
      | .escape => read inherited c true g rest
      | .long name value =>
        match c.longOption? name with
        | some choice => do read inherited c false (← g.choose c choice value) rest
        | none => .error .unknownArgument
      | .short letters =>
        if c.takesNegative g.operands.length && isNumber letters then taken
        else do read inherited c false (← g.chooseLetters c letters) rest

def orderOf? (c : Command) (g : Given) : Option Order :=
  match c, g.operands with
  | .serve, _ => some (.serve g.bind)
  | .host, address :: actions => some (.exec (.host address) actions)
  | .chassis, address :: actions => some (.exec (.chassis address) actions)
  | .bladePosition, address :: position :: actions =>
    some (.exec (.bladePosition address position) actions)
  | .bladeSerial, address :: serial :: actions => some (.exec (.bladeSerial address serial) actions)
  | _, _ => none

end CommandLine

/-- A command line that can be run. -/
structure CommandLine where
  order : CommandLine.Order
  verbosity : Nat
  /-- The settings file to use. -/
  config : Option String
  deriving DecidableEq, Repr

namespace CommandLine

/-- An option that every command has counts where it is given last. -/
def ofTrail? (inherited : Option String) (trail : Trail) : Option CommandLine := do
  let (c, g) ← trail.getLast?
  let verbosity := (trail.map (·.2.verbose)).foldl (fun n m => if m = 0 then n else m) 0
  let config := (trail.map (·.2.config)).foldl (fun a b => b.orElse fun _ => a) none
  return ⟨← orderOf? c g, verbosity, config.orElse fun _ => inherited⟩

/-- The words after the name of the program. `inherited` names a settings file that is used when
none is given. -/
def parse (inherited : Option String) (words : List String) : Except UsageFault CommandLine := do
  match ofTrail? inherited (← read inherited .top false {} words) with
  | some line => return line
  | none => throw .missingArgument

end CommandLine

end Outband
