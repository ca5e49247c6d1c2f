import VectorTable.Text.Hex
import VectorTable.Text.Printable

/-!
# Quoted text

Text and byte strings as messages show them: between quotes, with the quote in use, the backslash and whatever cannot be printed escaped. Single quotes are used unless the text has one and has no double quote.
-/

namespace VectorTable.Text

def quoteFor (cs : List Char) : Char :=
  if cs.contains '\'' && !cs.contains '"' then '"' else '\''

/-- The escape by number: two, four or eight hexadecimal digits, as many as the code point needs. -/
def codeEscape (n : Nat) : List Char :=
  if n < 0x100 then '\\' :: 'x' :: hex 2 n
  else if n < 0x10000 then '\\' :: 'u' :: hex 4 n
  else '\\' :: 'U' :: hex 8 n

def quotedChar (quote c : Char) : List Char :=
  if c = quote ∨ c = '\\' then ['\\', c]
  else if c = '\n' then ['\\', 'n']
  else if c = '\r' then ['\\', 'r']
  else if c = '\t' then ['\\', 't']
  else if isPrintable c then [c]
  else codeEscape c.toNat

def quoted (s : String) : String :=
  let cs := s.toList
  let quote := quoteFor cs
  String.ofList (quote :: cs.flatMap (quotedChar quote) ++ [quote])

/-- A byte string between quotes, marked by a `b`. Bytes outside printable ASCII are escaped by number. -/
def quotedBytes (data : List UInt8) : String :=
  let cs := data.map fun byte => Char.ofNat byte.toNat
  let quote := quoteFor cs
  let shown (c : Char) : List Char :=
    if c.toNat < 127 then quotedChar quote c else codeEscape c.toNat
  String.ofList ('b' :: quote :: cs.flatMap shown ++ [quote])

end VectorTable.Text
