import VectorTable.Text.Hex
import VectorTable.VectorText

/-!
# Numeric hosts

A numeric host in brackets is eight groups of up to four hexadecimal digits with colons between them. Two colons in one place stand for as many groups of zero as are missing, one at least. The last two groups may be written as four decimal numbers with points between them. The shortest form is written: no zeros in front, and two colons for the longest run of zeros, the first of several.
-/

namespace VectorTable.Setting

open Text

/-- The number of a decimal part, from 0 to 255 and with no zero in front. -/
def decimalPart? (cs : List Char) : Option Nat :=
  let n := Decimal.ofDigits (cs.map fun c => c.toNat - 48)
  if cs.isEmpty || !cs.all Char.isDigit || 3 < cs.length || 255 < n then none
  else if cs.head? = some '0' && 1 < cs.length then none
  else some n

def hexGroup? (cs : List Char) : Option Nat :=
  if cs.isEmpty || 4 < cs.length then none
  else (cs.mapM hexValue?).map fun digits => digits.foldl (fun n d => 16 * n + d) 0

/-- The groups that the last part of an address stands for: one, or two if it is decimal. -/
def lastGroups? (cs : List Char) : Option (List Nat) :=
  if cs.contains '.' then
    match (splitAt '.' cs).mapM decimalPart? with
    | some [a, b, c, d] => some [256 * a + b, 256 * c + d]
    | _ => none
  else (hexGroup? cs).map fun group => [group]

/-- The groups of a part of an address without double colons. Only the last part may be decimal. -/
def groups? : List (List Char) → Option (List Nat)
  | [] => some []
  | [last] => lastGroups? last
  | group :: rest => do return (← hexGroup? group) :: (← groups? rest)

/-- The groups of one side of an address, which may be empty. -/
def side? (cs : List Char) : Option (List Nat) :=
  if cs.isEmpty then some [] else groups? (splitAt ':' cs)

/-- The text before the first two colons, and what follows them. -/
def splitDouble : List Char → Option (List Char × List Char)
  | ':' :: ':' :: rest => some ([], rest)
  | c :: cs => (splitDouble cs).map fun (before, after) => (c :: before, after)
  | [] => none

def readAddress? (cs : List Char) : Option (List Nat) :=
  match splitDouble cs with
  | none =>
    (side? cs).bind fun groups => if groups.length = 8 then some groups else none
  | some (before, after) => do
    let first ← if before.contains '.' then none else side? before
    let last ← side? after
    let missing := 8 - (first.length + last.length)
    if missing = 0 then none else some (first ++ List.replicate missing 0 ++ last)

def zeroRuns : List Nat → List Nat
  | [] => []
  | group :: rest =>
    let runs := zeroRuns rest
    (if group = 0 then runs.headD 0 + 1 else 0) :: runs

def writeGroups (groups : List Nat) : List Char :=
  (String.intercalate ":" (groups.map fun group => String.ofList (Nat.toDigits 16 group))).toList

def writeAddress (groups : List Nat) : List Char :=
  let runs := zeroRuns groups
  let longest := runs.foldl max 0
  if longest < 2 then writeGroups groups
  else
    let start := runs.idxOf longest
    writeGroups (groups.take start) ++ [':', ':'] ++ writeGroups (groups.drop (start + longest))

end VectorTable.Setting
