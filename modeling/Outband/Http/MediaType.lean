/-! Media types as the headers of a request name them. -/

namespace Outband.Http

/-- The characters of a name in a header. -/
def isTokenChar (c : Char) : Bool :=
  c.isAlphanum || "!#$%&'*+-.^_|~".toList.contains c || c.toNat == 0x60

/-- What a quoted parameter may hold. -/
def isQuotedChar (c : Char) : Bool := 0x20 ≤ c.toNat && c.toNat ≤ 0x7E

namespace MediaType

/-- What follows the value of a quoted parameter: blanks, then the next parameter or the end. -/
def afterQuoted : List Char → Option (List Char)
  | [] => some []
  | ' ' :: rest => afterQuoted rest
  | ';' :: rest => some rest
  | _ => none

/-- Parameters are well formed: each a name, an equals sign and a value that is a name too or
stands in quotes, which hold at least one character of any kind. After the last semicolon there
may be nothing. The fuel is the number of characters. -/
def parametersFit : Nat → List Char → Bool
  | 0, _ => false
  | _, [] => true
  | fuel + 1, ' ' :: rest => parametersFit fuel rest
  | fuel + 1, chars =>
    let name := chars.takeWhile isTokenChar
    match name, chars.drop name.length with
    | _ :: _, '=' :: '"' :: first :: value =>
      match value.dropWhile fun c => c != '"' && isQuotedChar c with
      | '"' :: rest =>
        match afterQuoted rest with
        | some rest => isQuotedChar first && parametersFit fuel rest
        | none => false
      | _ => false
    | _ :: _, '=' :: value =>
      let inner := value.takeWhile isTokenChar
      match inner, value.drop inner.length with
      | _, [] => true
      | _ :: _, ';' :: rest => parametersFit fuel rest
      | _, _ => false
    | _, _ => false

/-- The part before the last plus sign and the part after it, if one stands behind the start. -/
def splitSuffix (subtype : List Char) : List Char × Option (List Char) :=
  let suffix := (subtype.reverse.takeWhile (· != '+')).reverse
  let before := subtype.take (subtype.length - suffix.length - 1)
  if suffix.length < subtype.length && !before.isEmpty then (before, some suffix)
  else (subtype, none)

/-- The type says that JSON follows: `application/json`, or an application type with that suffix. -/
def isJson (text : String) : Bool :=
  let chars := text.toList
  let lower (cs : List Char) : String := String.ofList (cs.map Char.toLower)
  let top := chars.takeWhile isTokenChar
  match chars.drop top.length with
  | '/' :: rest =>
    let subtype := rest.takeWhile isTokenChar
    let wellFormed := match subtype, rest.drop subtype.length with
      | _ :: _, [] => true
      | _ :: _, ';' :: parameters => parametersFit (parameters.length + 1) parameters
      | _, _ => false
    let (main, suffix) := splitSuffix subtype
    wellFormed && lower top == "application" &&
      (lower main == "json" || suffix.map lower == some "json")
  | _ => false

end MediaType

end Outband.Http
