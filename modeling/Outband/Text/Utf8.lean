/-! Bytes and the text they encode. -/

namespace Outband

abbrev Bytes := List UInt8

namespace Text

def bytesOf (s : String) : Bytes := s.toUTF8.toList

private def isContinuation (b : UInt8) : Bool := 0x80 ≤ b && b ≤ 0xBF

/-- Whether the second byte of a sequence is allowed after the first. It rules out overlong forms,
surrogates and code points that do not exist. -/
private def allowsSecond (first second : UInt8) : Bool :=
  isContinuation second &&
    (if first == 0xE0 then 0xA0 ≤ second
    else if first == 0xED then second ≤ 0x9F
    else if first == 0xF0 then 0x90 ≤ second
    else if first == 0xF4 then second ≤ 0x8F
    else true)

private def payload (b : UInt8) : Nat := b.toNat % 64

/-- The character that a sequence starting with `first` stands for, if it is well formed, and how
many of the bytes after `first` belong to it. Of an ill-formed sequence the longest start that
could have become a character belongs together. -/
def scalar (first : UInt8) (rest : Bytes) : Option Char × Nat :=
  if first < 0x80 then (some (Char.ofNat first.toNat), 0)
  else if 0xC2 ≤ first && first ≤ 0xDF then
    match rest with
    | b :: _ =>
      if isContinuation b then (some (Char.ofNat ((first.toNat % 32) * 64 + payload b)), 1)
      else (none, 0)
    | [] => (none, 0)
  else if 0xE0 ≤ first && first ≤ 0xEF then
    match rest with
    | b :: c :: _ =>
      if !allowsSecond first b then (none, 0)
      else if !isContinuation c then (none, 1)
      else (some (Char.ofNat (((first.toNat % 16) * 64 + payload b) * 64 + payload c)), 2)
    | [b] => (none, if allowsSecond first b then 1 else 0)
    | [] => (none, 0)
  else if 0xF0 ≤ first && first ≤ 0xF4 then
    match rest with
    | b :: more =>
      if !allowsSecond first b then (none, 0)
      else match more with
        | c :: more =>
          if !isContinuation c then (none, 1)
          else match more with
            | d :: _ =>
              if !isContinuation d then (none, 2)
              else
                let n := ((first.toNat % 8) * 64 + payload b) * 64 + payload c
                (some (Char.ofNat (n * 64 + payload d)), 3)
            | [] => (none, 2)
        | [] => (none, 1)
    | [] => (none, 0)
  else (none, 0)

/-- The characters of the bytes, `none` for each ill-formed piece. -/
def scalars : Bytes → List (Option Char)
  | [] => []
  | first :: rest =>
    let (c, used) := scalar first rest
    c :: scalars (rest.drop used)
  termination_by bytes => bytes.length
  decreasing_by simp only [List.length_drop, List.length_cons]; omega

/-- Text from any bytes: each ill-formed piece reads as U+FFFD. -/
def decodeLossy (bytes : Bytes) : String :=
  String.ofList ((scalars bytes).map (·.getD '\ufffd'))

/-- Text from well-formed bytes only. -/
def decode? (bytes : Bytes) : Option String :=
  ((scalars bytes).mapM id).map String.ofList

end Text

end Outband
