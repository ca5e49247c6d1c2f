/-!
# Similar names

How much two texts have in common: the longest run of characters that both have, and what the parts before it and the parts after it have in common in the same way. Two texts are close if the shared characters are at least three fifths of all characters. A name that nobody knows can thus be answered with the known names close to it.
-/

namespace VectorTable.Text

def sharedStart : List Char → List Char → Nat
  | a :: as, b :: bs => if a = b then sharedStart as bs + 1 else 0
  | _, _ => 0

/-- A run that two texts share: where it begins in each, and its length. -/
structure SharedRun where
  first : Nat
  second : Nat
  length : Nat

/-- The longest run that two texts share, the first one if there are several. -/
def longestRun (a b : List Char) : SharedRun :=
  let runs := (List.range a.length).flatMap fun i => (List.range b.length).map fun j =>
    SharedRun.mk i j (sharedStart (a.drop i) (b.drop j))
  runs.foldl (fun best run => if best.length < run.length then run else best) ⟨0, 0, 0⟩

/-- The number of characters that two texts have in common. Each run uses up characters of the first text, so its length is fuel enough. -/
def sharedFrom : Nat → List Char → List Char → Nat
  | 0, _, _ => 0
  | fuel + 1, a, b =>
    let run := longestRun a b
    if run.length = 0 then 0
    else run.length + sharedFrom fuel (a.take run.first) (b.take run.second)
      + sharedFrom fuel (a.drop (run.first + run.length)) (b.drop (run.second + run.length))

def shared (a b : String) : Nat := sharedFrom a.length a.toList b.toList

/-- The likeness of two texts: the characters they share, out of all characters of both. -/
structure Likeness where
  name : String
  shared : Nat
  total : Nat

def likeness (word name : String) : Likeness :=
  ⟨name, shared name word, name.length + word.length⟩

def Likeness.isClose (l : Likeness) : Bool := 3 * l.total ≤ 10 * l.shared

/-- The order of likenesses, closest first; equal ones with the later name first. -/
def Likeness.before (a b : Likeness) : Bool :=
  if a.shared * b.total = b.shared * a.total then decide (b.name ≤ a.name)
  else b.shared * a.total < a.shared * b.total

/-- The names closest to a word, at most three of them, in alphabetical order. -/
def closeNames (word : String) (names : List String) : List String :=
  let found := ((names.map (likeness word)).filter Likeness.isClose).mergeSort Likeness.before
  ((found.take 3).map Likeness.name).mergeSort

end VectorTable.Text
