import Outband.Http.MediaType
import Outband.Json.Reader
/-! The body of a request for actions. It is taken in first, which a long one is too long for, then
read token by token, and the first fault counts. -/

namespace Outband.Http

structure ActionRequest where
  /-- The tokens to run, in order. -/
  actions : List String := []
  /-- Accepted, but never called: results are always given in the response. -/
  callback : Option String := none
  deriving DecidableEq, Repr

inductive BodyFault where
  /-- The request does not say that its body is JSON. -/
  | notJson
  | tooLong
  /-- The body is no JSON text as far as it had to be read. -/
  | malformed
  /-- A value has the wrong type, or a member is given twice. -/
  | mismatched
  deriving DecidableEq, Repr

def BodyFault.message : BodyFault → String
  | .notJson => "Expected request with `Content-Type: application/json`"
  | .tooLong => "Failed to buffer the request body: length limit exceeded"
  | .malformed => "Failed to parse the request body as JSON"
  | .mismatched => "Failed to deserialize the JSON body into the target type"

namespace ActionRequest

open Json (Token)

/-- A value that starts with the token stands where another type belongs. -/
def misfit : Token → BodyFault
  | .null | .bool _ | .number (some _) | .text (some _) | .openArray | .openObject => .mismatched
  | _ => .malformed

/-- The texts of an array that is not empty, from the first on, and the tokens after it. -/
def textItems : List Token → Except BodyFault (List String × List Token)
  | .text (some s) :: .comma :: rest => do
    let (more, rest) ← textItems rest
    return (s :: more, rest)
  | .text (some s) :: .closeArray :: rest => .ok ([s], rest)
  | .text (some _) :: _ => .error .malformed
  | token :: _ => .error (misfit token)
  | [] => .error .malformed

def textArray : List Token → Except BodyFault (List String × List Token)
  | .openArray :: .closeArray :: rest => .ok ([], rest)
  | .openArray :: rest => textItems rest
  | token :: _ => .error (misfit token)
  | [] => .error .malformed

def optionalText : List Token → Except BodyFault (Option String × List Token)
  | .null :: rest => .ok (none, rest)
  | .text (some s) :: rest => .ok (some s, rest)
  | token :: _ => .error (misfit token)
  | [] => .error .malformed

/-! Every reader uses up tokens, so a body is read to its end. -/

theorem length_textItems {tokens rest : List Token} {items : List String}
    (h : textItems tokens = .ok (items, rest)) : rest.length < tokens.length := by
  fun_induction textItems tokens generalizing items rest with
  | case1 s tail ih =>
    cases hr : textItems tail with
    | error fault => simp [hr, bind, Except.bind] at h
    | ok pair =>
      obtain ⟨more, left⟩ := pair
      simp [hr, bind, Except.bind, pure, Except.pure] at h
      have := ih hr
      simp [← h.2]
      omega
  | case2 s tail => simp at h; simp only [← h.2, List.length_cons]; omega
  | case3 | case4 | case5 => simp at h

theorem length_textArray {tokens rest : List Token} {items : List String}
    (h : textArray tokens = .ok (items, rest)) : rest.length < tokens.length := by
  fun_cases textArray tokens with
  | case1 tail => simp [textArray] at h; simp only [← h.2, List.length_cons]; omega
  | case2 tail hne =>
    rw [textArray] at h
    · have := length_textItems h
      simp
      omega
    · exact hne
  | case3 token tail h₁ h₂ => simp_all [textArray]
  | case4 => simp [textArray] at h

theorem length_optionalText {tokens rest : List Token} {value : Option String}
    (h : optionalText tokens = .ok (value, rest)) : rest.length < tokens.length := by
  fun_cases optionalText tokens with
  | case1 tail => simp [optionalText] at h; simp [← h.2]
  | case2 s tail => simp [optionalText] at h; simp [← h.2]
  | case3 token tail h₁ h₂ => simp_all [optionalText]
  | case4 => simp [optionalText] at h

theorem length_skip {keep : Bool} {state : Json.State} {tokens rest : List Token} {value : Json}
    (h : Json.read? keep state tokens = some (value, rest)) : rest.length < tokens.length := by
  induction tokens generalizing state with
  | nil => simp [Json.read?] at h
  | cons token tail ih =>
    rw [Json.read?] at h
    split at h
    · simp at h
    · have := ih h
      simp
      omega
    · simp at h
      simp [← h.2]

/-! The two forms of a body. -/

/-- The fields in order, after the opening bracket. Missing ones have their defaults. -/
def ofArray : List Token → Except BodyFault ActionRequest
  | .closeArray :: _ => .ok {}
  | tokens => do
    let (actions, rest) ← textArray tokens
    match rest with
    | .closeArray :: _ => .ok { actions := actions }
    | .comma :: rest =>
      let (callback, rest) ← optionalText rest
      match rest with
      | .closeArray :: _ => .ok ⟨actions, callback⟩
      | _ => .error .malformed
    | _ => .error .malformed

def actionsMember : String := "action-sequence"

def callbackMember : String := "callback-url"

/-- The members given so far. -/
structure Members where
  actions : Option (List String) := none
  callback : Option (Option String) := none

def Members.request (m : Members) : ActionRequest := ⟨m.actions.getD [], m.callback.join⟩

def Members.holds (m : Members) (name : String) : Bool :=
  name == actionsMember && m.actions.isSome || name == callbackMember && m.callback.isSome

/-- The value of a member. Members of other names are skipped: their values have to be JSON, and
no more. -/
def memberValue (given : Members) (name : String) (tokens : List Token) :
    Except BodyFault (Members × List Token) :=
  if name = actionsMember then
    (textArray tokens).map fun (actions, rest) => ({ given with actions := some actions }, rest)
  else if name = callbackMember then
    (optionalText tokens).map fun (url, rest) => ({ given with callback := some url }, rest)
  else
    match Json.read? false .start tokens with
    | some (_, rest) => .ok (given, rest)
    | none => .error .malformed

/-- One member, from the token after its name on. -/
def member (given : Members) (name : String) (tokens : List Token) :
    Except BodyFault (Members × List Token) :=
  if given.holds name then .error .mismatched
  else match tokens with
    | .colon :: rest => memberValue given name rest
    | _ => .error .malformed

theorem length_memberValue {given found : Members} {name : String} {tokens rest : List Token}
    (h : memberValue given name tokens = .ok (found, rest)) : rest.length < tokens.length := by
  rw [memberValue] at h
  split at h
  · cases ha : textArray tokens with
    | error fault => simp [ha, Except.map] at h
    | ok pair =>
      simp [ha, Except.map] at h
      exact h.2 ▸ length_textArray ha
  · split at h
    · cases ho : optionalText tokens with
      | error fault => simp [ho, Except.map] at h
      | ok pair =>
        simp [ho, Except.map] at h
        exact h.2 ▸ length_optionalText ho
    · split at h
      · next hr =>
        simp at h
        exact h.2 ▸ length_skip hr
      · simp at h

theorem length_member {given found : Members} {name : String} {tokens rest : List Token}
    (h : member given name tokens = .ok (found, rest)) : rest.length < tokens.length := by
  unfold member at h
  split at h
  · simp at h
  · split at h
    · have := length_memberValue h
      simp
      omega
    · simp at h

/-- The members from a name on, up to the end of the object. -/
def ofMembers (given : Members) : List Token → Except BodyFault ActionRequest
  | .text (some name) :: tokens =>
    match _h : member given name tokens with
    | .ok (found, .comma :: rest) => ofMembers found rest
    | .ok (found, .closeObject :: _) => .ok found.request
    | .ok _ => .error .malformed
    | .error fault => .error fault
  | _ => .error .malformed
  termination_by tokens => tokens.length
  decreasing_by
    have := length_member (by assumption)
    simp at *
    omega

/-- The request that the body starts with. What follows it is not read. -/
def ofBody (body : Bytes) : Except BodyFault ActionRequest :=
  match Json.tokens body with
  | .openArray :: rest => ofArray rest
  | .openObject :: .closeObject :: _ => .ok {}
  | .openObject :: rest => ofMembers {} rest
  | token :: _ => .error (misfit token)
  | [] => .error .malformed

/-- The bytes that a body may have at most, 2 MiB. -/
def maxBody : Nat := 2097152

def read (contentType : Option String) (body : Bytes) : Except BodyFault ActionRequest :=
  if !contentType.any MediaType.isJson then .error .notJson
  else if maxBody < body.length then .error .tooLong
  else ofBody body

end ActionRequest

end Outband.Http
