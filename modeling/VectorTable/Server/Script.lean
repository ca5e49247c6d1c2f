import VectorTable.Program.Basic

/-!
# Scripted servers

A server that follows a script: it answers statements with the replies of the script in order, and when these are used up as a server with nothing in it would. Contacts of some names fail the first time they are made; a statement that fails in this way uses up no reply. Scripts serve to rehearse programs.
-/

namespace VectorTable

def StatementKind.name : StatementKind → String
  | execute => "execute"
  | executeMany => "executemany"
  | fetch => "fetch"
  | fetchValue => "fetchval"

def Contact.name : Contact → String
  | createPool _ => "create_pool"
  | closePool => "close_pool"
  | acquire => "acquire"
  | release => "release"
  | enter .transaction => "begin"
  | enter .savepoint => "savepoint"
  | complete .transaction => "commit"
  | complete .savepoint => "release_savepoint"
  | undo .transaction => "rollback"
  | undo .savepoint => "rollback_savepoint"
  | statement s => s.kind.name

/-- What a script prescribes: the replies to statements, and the contacts that fail once. -/
structure Script where
  replies : List Reply
  failing : List (String × Fault)

namespace Script

def empty : Script := ⟨[], []⟩

/-- The script of a server that cannot be reached. -/
def unreachable : Script :=
  ⟨[], [((Contact.createPool ⟨"", .null, .null, .null⟩).name,
    ⟨.connectionRefused, some "the server cannot be reached", none, none, by decide⟩)]⟩

def idleReply : StatementKind → Value
  | .execute => .text "OK"
  | .fetch => .list []
  | .executeMany | .fetchValue => .null

/-- The reply to a contact that does not fail. -/
def reply (script : Script) : Contact → Reply × Script
  | .statement s =>
    match script.replies with
    | [] => (.ok (idleReply s.kind), script)
    | next :: rest => (next, { script with replies := rest })
  | _ => (.ok .null, script)

def answer : Server Script := fun script contact =>
  match lookupName script.failing contact.name with
  | some fault =>
    (.error fault, { script with failing := script.failing.filter (·.1 != contact.name) })
  | none => script.reply contact

end Script

end VectorTable
