/-!
# Statements in pieces

A statement is built from pieces: fixed text, quoted names, and slots for the values bound to it. Names are quoted and values are never written into the text, so what a caller passes cannot change the shape of a statement. The text of a statement is the text of its pieces in order.
-/

namespace VectorTable.Sql

def quoteChar (c : Char) : List Char := if c = '"' then ['"', '"'] else [c]

def quoteName (name : String) : String :=
  String.ofList ('"' :: name.toList.flatMap quoteChar ++ ['"'])

inductive Piece
  | raw (text : String)
  | name (identifier : String)
  | slot (index : Int)
deriving DecidableEq, Repr

/-- The text of a piece. The index of a slot is written in full, however many digits it has: it is a position, and the limit for numbers that are written as values is not one for positions. -/
def Piece.text : Piece → String
  | raw text => text
  | name identifier => quoteName identifier
  | slot index => "$" ++ toString index

def render (pieces : List Piece) : String := String.join (pieces.map Piece.text)

def separated (separator : String) (groups : List (List Piece)) : List Piece :=
  [Piece.raw separator].intercalate groups

end VectorTable.Sql
