import VectorTable.Program.Basic

/-!
# Blocks

Work that holds something while it lasts: a connection, or a transaction on it. A block gives back what it holds on every way out. A transaction is completed if the work in it succeeds and undone if it fails; a fault while giving back takes the place of the result.
-/

namespace VectorTable.Program

variable {α : Type}

/-- Work followed by a contact that is made whether the work succeeds or fails. -/
def closedBy (work : Program α) (contact : Contact) : Program α :=
  work.settle fun result =>
    ask contact fun
      | .ok _ => done result
      | .error fault => fail (.fault fault)

def withConnection (work : Program α) : Program α :=
  look fun memory =>
    if memory.connected then
      (contact .acquire).bind fun _ => work.closedBy .release
    else fail .notConnected

def inScope (scope : Scope) (work : Program α) : Program α :=
  (contact (.enter scope)).bind fun _ =>
    work.settle fun
      | .ok a => (contact (.complete scope)).bind fun _ => pure a
      | .error failure => closedBy (fail failure) (.undo scope)

def inTransaction (work : Program α) : Program α :=
  withConnection (inScope .transaction work)

def statement (kind : StatementKind) (sql : String) (args : List Value)
    (timeout : Option (Option Float)) : Program Value :=
  contact (.statement ⟨kind, sql, [args], timeout⟩)

/-- Running a statement once for each of several rows of arguments. -/
def executeMany (sql : String) (rows : List (List Value)) (timeout : Option (Option Float)) :
    Program Value :=
  contact (.statement ⟨.executeMany, sql, rows, timeout⟩)

end VectorTable.Program
