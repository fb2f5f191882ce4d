import Outband.Action
import Outband.Duration
/-! What a token of an action sequence is: a hardware action, a sleep, or neither. -/

namespace Outband

/-- Every token that starts with this word and has the keyword in it is a sleep. -/
def sleepWord : List Char := ['s', 'l', 'e', 'e', 'p']

def sleepKeyword : List Char := ['s', 'l', 'e', 'e', 'p', ' ']

def contains (piece : List Char) : List Char → Bool
  | [] => piece.isEmpty
  | c :: rest => piece.isPrefixOf (c :: rest) || contains piece rest

/-- The text without the first occurrence of the piece. -/
def removeFirst (piece : List Char) : List Char → List Char
  | [] => []
  | c :: rest =>
    if piece.isPrefixOf (c :: rest) then (c :: rest).drop piece.length
    else c :: removeFirst piece rest

def isSleep (token : String) : Bool :=
  sleepWord.isPrefixOf token.toList && contains sleepKeyword token.toList

/-- The duration that is left of a token without its first keyword. -/
def sleepDuration (token : String) : Except DurationError Nat :=
  Duration.parse (String.ofList (removeFirst sleepKeyword token.toList))

inductive Classification where
  | known (action : Action)
  | sleep (duration : Except DurationError Nat)
  | unknown

def classify (token : String) : Classification :=
  match Action.ofToken? token with
  | some action => .known action
  | none => if isSleep token then .sleep (sleepDuration token) else .unknown

end Outband
