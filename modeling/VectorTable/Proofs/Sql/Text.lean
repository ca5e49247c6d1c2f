import VectorTable.Proofs.Sql.Lexing

/-!
# The text of pieces in a row

The text of a statement is put together from the texts of its parts, and of parts with a separator between them.
-/

namespace VectorTable.Sql

def slotText (index : Int) : String := "$" ++ toString index

@[simp] theorem Piece.text_raw (text : String) : (raw text).text = text := rfl

@[simp] theorem Piece.text_name (identifier : String) :
    (name identifier).text = quoteName identifier := rfl

@[simp] theorem Piece.text_slot (index : Int) : (slot index).text = slotText index := rfl

@[simp] theorem render_nil : render [] = "" := rfl

@[simp] theorem render_cons (p : Piece) (pieces : List Piece) :
    render (p :: pieces) = p.text ++ render pieces := by
  rw [render, List.map_cons, String.join_cons, render]

@[simp] theorem render_append (pieces more : List Piece) :
    render (pieces ++ more) = render pieces ++ render more := by
  rw [render, List.map_append, String.join_append, render, render]

theorem render_separated (separator : String) (groups : List (List Piece)) :
    render (separated separator groups) = String.intercalate separator (groups.map render) := by
  induction groups with
  | nil => rfl
  | cons group groups ih =>
    cases groups with
    | nil => rw [separated_singleton, List.map_singleton, String.intercalate_singleton]
    | cons next groups =>
      rw [separated_cons_cons, render_append, render_cons, ih, Piece.text_raw]
      simp only [List.map_cons, String.intercalate_cons_cons, String.append_assoc]

end VectorTable.Sql
