import Outband.Ipmi.Tool
/-! A tool that follows a script, to rehearse what depends on it without one. -/

namespace Outband.Ipmi

/-- The replies to each command line, in order. The last one stays. -/
abbrev ToolScript := List (String × List Execution)

namespace ToolScript

/-- The number of arguments before the command. -/
def leading : Nat := 7

/-- A command that the script does not know is refused. -/
def refusal (command : String) : Execution :=
  ⟨.exited 1, [], Text.bytesOf ("Invalid command: " ++ command ++ "\n")⟩

/-- The reply to a command, and the script after it. -/
def reply (command : String) : ToolScript → Execution × ToolScript
  | [] => (refusal command, [])
  | (c, replies) :: rest =>
    if c = command then
      match replies with
      | [] => (refusal command, (c, []) :: rest)
      | [last] => (last, (c, [last]) :: rest)
      | next :: more => (next, (c, more) :: rest)
    else
      let (execution, rest) := reply command rest
      (execution, (c, replies) :: rest)

def tool : Tool ToolScript := fun invocation script =>
  let (execution, script) := script.reply (" ".intercalate (invocation.arguments.drop leading))
  (.ok execution, script)

end ToolScript

end Outband.Ipmi
