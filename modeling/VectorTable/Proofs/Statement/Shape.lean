import VectorTable.Proofs.Filter.Composition
import VectorTable.Query
import VectorTable.Store.Index

/-!
# The shapes of statements

What a statement is made from has names and values in it. Its shape is what is left when these are taken away: the kind of statement, the number of metadata columns, whether there is a JSON column, the distance, and for a filter its tree with the operators and the numbers of members. A mold is a statement with roles in the place of names; it is known from the shape alone, and the names of the roles make it the statement.
-/

namespace VectorTable

open Sql

/-! ### Molds -/

/-- What a name stands for in a statement. Metadata columns and keys of a filter are counted from left to right. -/
inductive Role
  | schema
  | table
  | id
  | content
  | embedding
  | metadata (position : Nat)
  | json
  | index
  | key (position : Nat)
deriving DecidableEq, Repr

inductive Mold
  | raw (text : String)
  | name (role : Role)
  | slot (index : Int)
deriving DecidableEq, Repr

def Mold.fill (names : Role → String) : Mold → Piece
  | raw text => .raw text
  | name role => .name (names role)
  | slot index => .slot index

def separatedMolds (separator : String) (groups : List (List Mold)) : List Mold :=
  [Mold.raw separator].intercalate groups

/-- The slots between two indexes, the first included. -/
def slotMolds (start : Nat) (count : Nat) : List Mold :=
  (List.range' start count).map fun index : Nat => .slot index

/-! ### Filters -/

/-- The shape of a leaf. A look-up has one member and perhaps more. -/
inductive LeafShape
  | compare (operator : Comparison)
  | member (operator : Membership) (more : Nat)
deriving DecidableEq, Repr

/-- The shape of a filter. Nodes that no statement can express have none of their own. -/
inductive FilterShape
  | leaf (condition : LeafShape)
  | and (left right : FilterShape)
  | or (left right : FilterShape)
  | not (inner : FilterShape)
  | nothing
deriving DecidableEq, Repr

def Leaf.shape : Leaf → LeafShape
  | compare operator _ _ => .compare operator
  | member operator _ _ rest => .member operator rest.length

def Filter.shape : Filter → FilterShape
  | leaf condition => .leaf condition.shape
  | and left right => .and left.shape right.shape
  | or left right => .or left.shape right.shape
  | not inner => .not inner.shape
  | custom .. | plain _ => .nothing

/-- The keys of the leaves of a filter, from left to right. -/
def Filter.keys : Filter → List String
  | leaf condition => [condition.key.text]
  | and left right | or left right => left.keys ++ right.keys
  | not inner => inner.keys
  | custom .. | plain _ => []

def LeafShape.size : LeafShape → Nat
  | compare _ => 1
  | member _ more => more + 1

/-- The mold of a leaf whose first slot has the index `start`. -/
def LeafShape.molds (start : Nat) (role : Role) : LeafShape → List Mold
  | compare .equal =>
    [.name role, .raw " IS NOT NULL AND ", .name role, .raw " = ", .slot start]
  | compare .notEqual =>
    [.raw "(", .name role, .raw " IS NULL OR ", .name role, .raw " != ", .slot start, .raw ")"]
  | compare ordering => [.name role, .raw (" " ++ ordering.sign ++ " "), .slot start]
  | member .among more =>
    [.name role, .raw " IN ("]
      ++ separatedMolds ", " ((slotMolds start (more + 1)).map fun slot => [slot]) ++ [.raw ")"]
  | member .notAmong more =>
    [.raw "(", .name role, .raw " IS NULL OR ", .name role, .raw " NOT IN ("]
      ++ separatedMolds ", " ((slotMolds start (more + 1)).map fun slot => [slot]) ++ [.raw "))"]

namespace FilterShape

def size : FilterShape → Nat
  | leaf condition => condition.size
  | and left right | or left right => left.size + right.size
  | not inner => inner.size
  | nothing => 0

def leaves : FilterShape → Nat
  | leaf _ => 1
  | and left right | or left right => left.leaves + right.leaves
  | not inner => inner.leaves
  | nothing => 0

/-- The mold of a filter whose first slot has the index `start` and whose first key is the one at `position`. -/
def molds : FilterShape → Nat → Nat → List Mold
  | leaf condition, start, position => condition.molds start (.key position)
  | and left right, start, position =>
    left.molds start position
      ++ .raw " AND " :: right.molds (start + left.size) (position + left.leaves)
  | or left right, start, position =>
    .raw "(" :: left.molds start position
      ++ .raw " OR " :: right.molds (start + left.size) (position + left.leaves) ++ [.raw ")"]
  | not inner, start, position => .raw "NOT(" :: inner.molds start position ++ [.raw ")"]
  | nothing, _, _ => []

end FilterShape

/-! ### Statements -/

inductive StatementShape
  | insert (metadata : Nat) (json : Bool)
  | search (metadata : Nat) (json : Bool) (distance : Distance) (filter : Option FilterShape)
  | predicate (filter : FilterShape) (start : Nat)
  | delete
  | getByIds (metadata : Nat) (json : Bool)
  | dropIndex
  | reindex
deriving DecidableEq, Repr

namespace StatementShape

def insertRoles (metadata : Nat) (json : Bool) : List Role :=
  [.id, .embedding, .content] ++ (List.range metadata).map .metadata
    ++ if json then [.json] else []

def selectRoles (metadata : Nat) (json : Bool) : List Role :=
  (List.range metadata).map .metadata ++ [.id, .content, .embedding]
    ++ if json then [.json] else []

def roleMolds (roles : List Role) : List Mold :=
  separatedMolds ", " (roles.map fun role => [.name role])

def tableMolds : List Mold := [.name .schema, .raw ".", .name .table]

def identifierMolds : List Mold := [.raw " WHERE ", .name .id, .raw " = ANY(", .slot 1, .raw ")"]

/-- The mold of a statement. Of the slots of an insertion the second is the vector, and of those of a search the first is the vector and the last the limit. -/
def molds : StatementShape → List Mold
  | insert metadata json =>
    [.raw "INSERT INTO "] ++ tableMolds ++ [.raw " ("] ++ roleMolds (insertRoles metadata json)
      ++ [.raw ") VALUES ("]
      ++ separatedMolds ", " ([[.slot 1], [.slot 2, .raw "::vector"], [.slot 3]]
        ++ (slotMolds 4 (metadata + json.toNat)).map fun slot => [slot])
      ++ [.raw ")"]
  | search metadata json distance filter =>
    [.raw "SELECT "] ++ roleMolds (selectRoles metadata json)
      ++ [.raw (", " ++ distance.searchFunction ++ "("), .name .embedding, .raw ", ", .slot 1,
        .raw "::vector) AS distance FROM "]
      ++ tableMolds
      ++ (match filter with
        | none => []
        | some filter => .raw " WHERE " :: filter.molds 2 0)
      ++ [.raw " ORDER BY ", .name .embedding, .raw (" " ++ distance.operator ++ " "), .slot 1,
        .raw "::vector LIMIT ", .slot ((filter.elim 0 FilterShape.size + 2 : Nat) : Int)]
  | predicate filter start => filter.molds start 0
  | delete => [.raw "DELETE FROM "] ++ tableMolds ++ identifierMolds
  | getByIds metadata json =>
    [.raw "SELECT "] ++ roleMolds (selectRoles metadata json) ++ [.raw " FROM "] ++ tableMolds
      ++ identifierMolds
  | dropIndex => [.raw "DROP INDEX IF EXISTS ", .name .schema, .raw ".", .name .index]
  | reindex => [.raw "REINDEX INDEX ", .name .schema, .raw ".", .name .index]

end StatementShape

/-! ### What statements are made from -/

inductive Origin
  | insert (schema : Schema) (records : List Record)
  | search (schema : Schema) (distance : Distance) (request : SearchRequest)
  | predicate (filter : Filter) (start : Nat)
  | delete (schema : Schema) (ids : Value)
  | getByIds (schema : Schema) (ids : Value)
  | dropIndex (store : Store) (name : Option String)
  | reindex (store : Store) (name : Option String)

def Schema.roleName (s : Schema) (keys : List String) : Role → String
  | .schema => s.schema
  | .table => s.table
  | .id => s.idColumn
  | .content => s.contentColumn
  | .embedding => s.embeddingColumn
  | .metadata position => s.metadataNames[position]?.getD ""
  | .json => s.jsonColumn.getD ""
  | .index => ""
  | .key position => keys[position]?.getD ""

namespace Origin

def sql? : Origin → Except Failure String
  | insert schema records => Batch.sql <$> schema.insert records
  | search schema distance request => Query.sql <$> schema.search distance request
  | predicate filter start => Predicate.sql <$> filter.predicate start
  | delete schema ids => Query.sql <$> schema.delete ids
  | getByIds schema ids => Query.sql <$> schema.getByIds ids
  | dropIndex store name => .ok (render (store.dropIndexPieces (store.indexName name)))
  | reindex store name => .ok (render (store.reindexPieces (store.indexName name)))

def filter? : Origin → Option Filter
  | search _ _ request => request.filter
  | predicate filter _ => some filter
  | insert .. | delete .. | getByIds .. | dropIndex .. | reindex .. => none

/-- The pieces of the statement. The ids, records, vectors and limits that it is made from have no part in them. -/
def pieces : Origin → List Piece
  | insert schema _ => schema.insertPieces
  | search schema distance request =>
    schema.searchPieces distance
      (request.filter.elim [] fun filter => .raw " WHERE " :: filter.pieces 2)
      ((request.filter.elim [] Filter.values).length + 2 : Nat)
  | predicate filter start => filter.pieces start
  | delete schema _ => [.raw "DELETE FROM "] ++ schema.tablePieces ++ schema.identifierClause
  | getByIds schema _ =>
    [.raw "SELECT "] ++ Schema.nameList schema.selectColumns ++ [.raw " FROM "]
      ++ schema.tablePieces ++ schema.identifierClause
  | dropIndex store name => store.dropIndexPieces (store.indexName name)
  | reindex store name => store.reindexPieces (store.indexName name)

def shape : Origin → StatementShape
  | insert schema _ => .insert schema.metadataNames.length schema.jsonColumn.isSome
  | search schema distance request =>
    .search schema.metadataNames.length schema.jsonColumn.isSome distance
      (request.filter.map Filter.shape)
  | predicate filter start => .predicate filter.shape start
  | delete .. => .delete
  | getByIds schema _ => .getByIds schema.metadataNames.length schema.jsonColumn.isSome
  | dropIndex .. => .dropIndex
  | reindex .. => .reindex

def roleName : Origin → Role → String
  | insert schema _ | delete schema _ | getByIds schema _ => schema.roleName []
  | search schema _ request => schema.roleName (request.filter.elim [] Filter.keys)
  | predicate filter _ => fun
    | .key position => filter.keys[position]?.getD ""
    | _ => ""
  | dropIndex store name | reindex store name => fun
    | .index => store.indexName name
    | role => store.schema.roleName [] role

end Origin

end VectorTable
