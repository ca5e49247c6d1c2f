import VectorTable.Filter.Basic

/-!
# Search requests

What to search for: a query vector, how many matches at most, perhaps the least score and perhaps a filter. The query vector is not empty and the limit is not zero or less; a limit that is no number at all is refused for its kind.
-/

namespace VectorTable

structure SearchRequest where
  embedding : Value
  limit : Value
  minScore : Value
  filter : Option Filter
  embeddingNotEmpty : embedding.truthy = true
  limitPositive : limit.atMost "<=" (.int 0) = .ok false

/-- The filter that a request is given. A plain nothing in the place of a filter is none. -/
def SearchRequest.given? : Option Filter → Option Filter
  | some (.plain .null) => none
  | filter => filter

/-- The request with the given parts, checked in order. -/
def SearchRequest.make (embedding limit minScore : Value) (filter : Option Filter) :
    Except Failure SearchRequest :=
  if hEmbedding : embedding.truthy = true then
    match hLimit : limit.atMost "<=" (.int 0) with
    | .ok false => .ok ⟨embedding, limit, minScore, given? filter, hEmbedding, hLimit⟩
    | .ok true => .error (.refused (.limitNotPositive limit))
    | .error failure => .error failure
  else .error (.refused .emptyQuery)

/-- The limit of a request that does not give one. -/
def SearchRequest.defaultLimit : Int := 4

end VectorTable
