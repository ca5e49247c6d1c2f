import VectorTable.Text.Hex

/-!
# Text as bytes

Characters as one to four bytes. Bytes that are no text are read with a replacement character for each run of bytes that begins a character and does not end it, and for each byte that begins none.
-/

namespace VectorTable.Text

/-- What stands for bytes that are no text. -/
def replacement : Char := '\uFFFD'

/-- A character of which some bytes have been read: the bits so far, the bounds of the next byte, and the number of bytes after that. -/
structure Partial where
  bits : Nat
  low : Nat
  high : Nat
  more : Nat
deriving DecidableEq, Repr

/-- What a byte begins if it begins a character of several bytes. The bounds of the second byte leave out the longer forms of shorter characters, the surrogates, and what lies beyond the last character. -/
def Partial.begin? (byte : Nat) : Option Partial :=
  if 0xC2 ≤ byte ∧ byte ≤ 0xDF then some ⟨byte - 0xC0, 0x80, 0xBF, 0⟩
  else if 0xE0 ≤ byte ∧ byte ≤ 0xEF then
    some ⟨byte - 0xE0, if byte = 0xE0 then 0xA0 else 0x80, if byte = 0xED then 0x9F else 0xBF, 1⟩
  else if 0xF0 ≤ byte ∧ byte ≤ 0xF4 then
    some ⟨byte - 0xF0, if byte = 0xF0 then 0x90 else 0x80, if byte = 0xF4 then 0x8F else 0xBF, 2⟩
  else none

/-- The characters of bytes, of which some may begin a character already. -/
def decodeFrom (pending : Option Partial) : List UInt8 → List Char
  | [] => if pending.isSome then [replacement] else []
  | b :: bytes =>
    let byte := b.toNat
    let start (before : List Char) : List Char :=
      if byte < 0x80 then before ++ Char.ofNat byte :: decodeFrom none bytes
      else match Partial.begin? byte with
        | some begun => before ++ decodeFrom (some begun) bytes
        | none => before ++ replacement :: decodeFrom none bytes
    match pending with
    | none => start []
    | some p =>
      if p.low ≤ byte ∧ byte ≤ p.high then
        let bits := 64 * p.bits + (byte - 0x80)
        if p.more = 0 then Char.ofNat bits :: decodeFrom none bytes
        else decodeFrom (some ⟨bits, 0x80, 0xBF, p.more - 1⟩) bytes
      else start [replacement]

/-- Bytes as text, with replacements for what is none. -/
def decode (bytes : List UInt8) : String := String.ofList (decodeFrom none bytes)

def percentEscape (c : Char) : List Char :=
  (String.utf8EncodeChar c).flatMap fun byte => '%' :: (hex 2 byte.toNat).map Char.toUpper

/-- Text with percent escapes for controls, for everything outside ASCII and for the given marks. -/
def percentEncode (marks : String) (cs : List Char) : List Char :=
  cs.flatMap fun c =>
    if c.toNat < 32 || 127 ≤ c.toNat || marks.toList.contains c then percentEscape c else [c]

end VectorTable.Text
