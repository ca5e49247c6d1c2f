import VectorTable.Value.Number

/-!
# Equality of values

Numbers are equal when they are worth the same, whatever their kinds. All other values equal only values of their own kind: text by its characters, lists in order, dictionaries whatever the order of their entries. An identifier never equals a text.
-/

namespace VectorTable.Value

mutual

def same : Value → Value → Bool
  | null, null => true
  | text s, text t => s == t
  | uuid s, uuid t => s == t
  | bytes s, bytes t => s == t
  | list items, list others => sameItems items others
  | dictionary entries, dictionary others =>
    entries.length == others.length && sameEntries entries others
  | v, w =>
    match v.magnitude?, w.magnitude? with
    | some a, some b => a.equal b
    | _, _ => false

def sameItems : List Value → List Value → Bool
  | [], [] => true
  | v :: vs, w :: ws => same v w && sameItems vs ws
  | _, _ => false

def sameEntries : List (Value × Value) → List (Value × Value) → Bool
  | [], _ => true
  | (key, value) :: entries, others =>
    (others.any fun other => same key other.1 && same value other.2) && sameEntries entries others

end

end VectorTable.Value
