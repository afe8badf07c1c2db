import ComponentPasses.Text.Hexadecimal

/-!
# Reading bytes as text

Files are bytes and must be well-formed UTF-8.  `decodeUtf8` reads them strictly: overlong forms,
surrogates and code points above U+10FFFF are refused at the first octet that rules them out, and
the refusal says which octets are at fault and why.

`unifyLineEnds` gives the text as its lines are counted: each of CR LF and CR becomes LF.
-/

namespace ComponentPasses.Text

/-! ## 1. Refusals -/

/-- Why octets are no text. -/
inductive DecodingCause
  | startByte
  | continuationByte
  | endOfData
deriving DecidableEq, Repr

/-- The octets from `first` to `last` are no text; `byte` is the first of them. -/
structure DecodingFault where
  first : Nat
  last : Nat
  byte : UInt8
  cause : DecodingCause
deriving DecidableEq, Repr

/-- The cause in words. -/
def DecodingCause.message : DecodingCause → String
  | .startByte => "invalid start byte"
  | .continuationByte => "invalid continuation byte"
  | .endOfData => "unexpected end of data"

/-- One octet is named by its value, several by their positions. -/
def DecodingFault.message (fault : DecodingFault) : String :=
  let place :=
    if fault.first = fault.last then
      "byte 0x" ++ String.ofList (hexDigits 2 fault.byte.toNat) ++ " in position " ++
        toString fault.first
    else
      "bytes in position " ++ toString fault.first ++ "-" ++ toString fault.last
  "'utf-8' codec can't decode " ++ place ++ ": " ++ fault.cause.message

/-! ## 2. One character -/

/-- What the first octet of a longer character promises: its own bits, the number of octets that
follow, and the least and greatest octet that may come next. -/
def leadByte? (b : Nat) : Option (Nat × Nat × Nat × Nat) :=
  if b < 0xc2 then none
  else if b < 0xe0 then some (b - 0xc0, 1, 0x80, 0xbf)
  else if b = 0xe0 then some (0, 2, 0xa0, 0xbf)
  else if b = 0xed then some (0xd, 2, 0x80, 0x9f)
  else if b < 0xf0 then some (b - 0xe0, 2, 0x80, 0xbf)
  else if b = 0xf0 then some (0, 3, 0x90, 0xbf)
  else if b < 0xf4 then some (b - 0xf0, 3, 0x80, 0xbf)
  else if b = 0xf4 then some (4, 3, 0x80, 0x8f)
  else none

/-- What the octets after a first octet come to. -/
inductive Continuation
  | character (code : Nat)
  | cut
  | broken (used : Nat)

/-- Reads `count` more octets, the next of them within `low` and `high`. -/
def continueCharacter : Nat → Nat → Nat → Nat → Nat → List UInt8 → Continuation
  | 0, _, _, code, _, _ => .character code
  | _ + 1, _, _, _, _, [] => .cut
  | count + 1, low, high, code, used, b :: rest =>
    if low ≤ b.toNat ∧ b.toNat ≤ high then
      continueCharacter count 0x80 0xbf (code * 64 + (b.toNat - 0x80)) (used + 1) rest
    else .broken used

/-! ## 3. Text -/

/-- Reads the octets from `position` on; `skip` of them belong to a character already read. -/
def decodeFrom : Nat → Nat → List UInt8 → Except DecodingFault (List Char)
  | _, _, [] => .ok []
  | position, skip + 1, _ :: rest => decodeFrom (position + 1) skip rest
  | position, 0, b :: rest =>
    if b.toNat < 0x80 then do
      let tail ← decodeFrom (position + 1) 0 rest
      pure (Char.ofNat b.toNat :: tail)
    else match leadByte? b.toNat with
      | none => .error ⟨position, position, b, .startByte⟩
      | some (bits, count, low, high) =>
        match continueCharacter count low high bits 1 rest with
        | .cut => .error ⟨position, position + rest.length, b, .endOfData⟩
        | .broken used => .error ⟨position, position + used - 1, b, .continuationByte⟩
        | .character code => do
          let tail ← decodeFrom (position + 1) count rest
          pure (Char.ofNat code :: tail)

/-- The text that the octets write. -/
def decodeUtf8 (bytes : List UInt8) : Except DecodingFault String :=
  (decodeFrom 0 0 bytes).map String.ofList

/-- Every line end as a single line feed. -/
def unifyLineEnds : List Char → List Char
  | [] => []
  | '\r' :: '\n' :: rest => '\n' :: unifyLineEnds rest
  | '\r' :: rest => '\n' :: unifyLineEnds rest
  | c :: rest => c :: unifyLineEnds rest

end ComponentPasses.Text
