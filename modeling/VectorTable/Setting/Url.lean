import VectorTable.Setting.Complaint
import VectorTable.Setting.HostAddress
import VectorTable.Text.Case
import VectorTable.Text.Utf8

/-!
# Database addresses

An address is a scheme, a colon, two slashes and one or several hosts with commas between them, each perhaps after a user with a password and before a port; then perhaps a path, a query and a fragment. It is kept in a normal form: the scheme in lower case, percent escapes for what may not stand for itself, no empty password, ports without zeros in front, and a path without steps to the same or the upper level.

The form is judged before the scheme, and the scheme before the presence of a host.
-/

namespace VectorTable.Setting

open Text

def fragmentMarks : String := " \"<>`"

def pathMarks : String := fragmentMarks ++ "#?\x7b\x7d"

def userMarks : String := pathMarks ++ "/:;=@[\\]^|"

def queryMarks : String := " \"#<>"

/-- What may not stand in the name of a host. -/
def isHostBreaker (c : Char) : Bool := "\x00\t\n\r #/:<>?@[\\]^|".toList.contains c

/-- The text before the last of a character, and what follows it. -/
def splitLast (separator : Char) (cs : List Char) : Option (List Char × List Char) :=
  match (splitAt separator cs).reverse with
  | last :: part :: parts => some ([separator].intercalate (parts.reverse ++ [part]), last)
  | _ => none

/-- A user with a password in normal form, with the sign that ends it. A password that is empty falls away, and so does a user without name and password. -/
def writeUser (cs : List Char) : List Char :=
  let name := percentEncode userMarks (cs.takeWhile (· != ':'))
  let password := percentEncode userMarks ((cs.dropWhile (· != ':')).drop 1)
  let user := name ++ if password.isEmpty then [] else ':' :: password
  if user.isEmpty then [] else user ++ ['@']

/-- The user in normal form at the start of a member of an authority, and what follows it. `ended` says whether nothing follows the authority. -/
def splitUser (ended : Bool) (member : List Char) : Except UrlFlaw (List Char × List Char) :=
  match splitLast '@' member with
  | none => .ok ([], member)
  | some ([], rest) => if rest.isEmpty && !ended then .error .emptyHost else .ok ([], rest)
  | some (user, rest) => .ok (writeUser user, rest)

/-- The host at the start of a text, and what follows it. Colons between brackets are part of a host. -/
def splitHost (inBrackets : Bool) : List Char → List Char × List Char
  | [] => ([], [])
  | c :: cs =>
    if c = ':' ∧ !inBrackets then ([], c :: cs)
    else
      let inBrackets := if c = '[' then true else if c = ']' then false else inBrackets
      let (host, rest) := splitHost inBrackets cs
      (c :: host, rest)

/-- A host in normal form: an address in brackets, or a name. -/
def readHost (cs : List Char) : Except UrlFlaw (List Char) :=
  match cs with
  | '[' :: inside =>
    match splitLast ']' inside with
    | some (text, []) =>
      match readAddress? text with
      | some groups => .ok ('[' :: writeAddress groups ++ [']'])
      | none => .error .badAddress
    | _ => .error .badAddress
  | cs => if cs.any isHostBreaker then .error .badHost else .ok (percentEncode "" cs)

/-- The port after a host in normal form with its colon, and what follows it. A port without digits falls away. -/
def readPort (cs : List Char) : Except UrlFlaw (List Char × List Char) :=
  let digits := (cs.drop 1).takeWhile Char.isDigit
  let rest := (cs.drop 1).dropWhile Char.isDigit
  let port := Decimal.ofDigits (digits.map fun c => c.toNat - 48)
  if 65535 < port || (rest.head?.map (· != '\\')).getD false then .error .badPort
  else .ok (if digits.isEmpty then [] else ':' :: Nat.toDigits 10 port, rest)

structure Member where
  user : List Char
  host : List Char
  port : List Char
  rest : List Char

def Member.text (m : Member) : List Char := m.user ++ m.host ++ m.port

/-- The member of an authority that a text is. `ended` says whether nothing follows the authority. -/
def Member.read (ended : Bool) (cs : List Char) : Except UrlFlaw Member := do
  let (user, hostPort) ← splitUser ended cs
  let (hostText, rest) := splitHost false hostPort
  let host ← readHost hostText
  if host.isEmpty && !rest.isEmpty then throw .emptyHost
  let (port, rest) ← readPort rest
  if host.isEmpty && !user.isEmpty then throw .emptyHost
  return { user, host, port, rest }

/-- The steps of a path without those that lead to the same or the upper level. `done` holds the steps before, last first. -/
def walk (done : List (List Char)) : List (List Char) → List (List Char)
  | [] => done.reverse
  | step :: steps =>
    let plain := (String.ofList step).replace "%2e" "." |>.replace "%2E" "."
    let kept := if plain = ".." then done.drop 1 else if plain = "." then done else step :: done
    if steps.isEmpty && (plain = "." || plain = "..") then ([] :: kept).reverse
    else walk kept steps

/-- A path in normal form. One that does not begin with a slash gets one. -/
def writePath (cs : List Char) : List Char :=
  match cs with
  | [] => []
  | '/' :: rest | rest =>
    (walk [] ((splitAt '/' rest).map (percentEncode pathMarks))).flatMap ('/' :: ·)

/-- What follows an authority in normal form: path, query and fragment. -/
def writeTail (cs : List Char) : List Char :=
  let beforeFragment := cs.takeWhile (· != '#')
  let query := match beforeFragment.dropWhile (· != '?') with
    | [] => []
    | _ :: query => '?' :: percentEncode queryMarks query
  let fragment := match cs.dropWhile (· != '#') with
    | [] => []
    | _ :: fragment => '#' :: percentEncode fragmentMarks fragment
  writePath (beforeFragment.takeWhile (· != '?')) ++ query ++ fragment

def endsAuthority (c : Char) : Bool := c == '/' || c == '?' || c == '#'

/-- The normal form of an address after its scheme, and its last host. The last member is judged first. -/
def readHosted (cs : List Char) : Except UrlFlaw (List Char × List Char) := do
  let authority := cs.takeWhile fun c => !endsAuthority c
  let tail := cs.dropWhile fun c => !endsAuthority c
  let members := splitAt ',' authority
  if 1 < members.length && members.any List.isEmpty then throw .emptyHost
  let last ← Member.read tail.isEmpty (members.getLastD [])
  let others ← members.dropLast.mapM (Member.read true)
  return ([','].intercalate (others.map Member.text ++ [last.text])
    ++ writeTail (last.rest ++ tail), last.host)

/-- The schemes whose addresses have no form without a host. -/
def hostedSchemes : List String := ["http", "https", "ws", "wss", "ftp"]

/-- The flaw in the form of an address whose scheme needs a host. Any number of slashes in either direction may stand before it. -/
def neededHostFlaw? (cs : List Char) : Option UrlFlaw :=
  let isSlash (c : Char) : Bool := c == '/' || c == '\\'
  let authority := (cs.dropWhile isSlash).takeWhile fun c => !(endsAuthority c || c == '\\')
  (splitAt ',' authority).findSome? fun member =>
    match Member.read true member with
    | .error flaw => some flaw
    | .ok m => if m.host.isEmpty then some .emptyHost else none

/-- Whether a character may stand in a scheme after its first letter. -/
def isSchemeChar (c : Char) : Bool :=
  c.isAlphanum || c == '+' || c == '-' || c == '.'

/-- The scheme at the start of an address, in lower case, and what follows its colon. -/
def splitScheme (cs : List Char) : Option (String × List Char) :=
  let scheme := cs.takeWhile isSchemeChar
  match cs.dropWhile isSchemeChar with
  | ':' :: rest =>
    if (scheme.head?.map Char.isAlpha).getD false then
      some (String.ofList (scheme.map Char.toLower), rest)
    else none
  | _ => none

def isUrlBlank (c : Char) : Bool := c.toNat ≤ 32

def isLineMark (c : Char) : Bool := c == '\t' || c == '\n' || c == '\r'

/-- The normal form of an address after its scheme, and its last host. Without two slashes there is no host. -/
def readAfterScheme (scheme : String) (cs : List Char) :
    Except UrlFlaw (List Char × List Char) :=
  if hostedSchemes.contains scheme then (neededHostFlaw? cs).elim (.ok (cs, [])) .error
  else match cs with
    | '/' :: '/' :: rest => readHosted rest
    | cs => .ok (cs, [])

def readUrl (s : String) : Except Complaint String :=
  if s.isEmpty then .error (.badUrl .empty)
  else match splitScheme (trimBy isUrlBlank s.toList) with
    | none => .error (.badUrl .noScheme)
    | some (scheme, rest) =>
      match readAfterScheme scheme (rest.filter fun c => !isLineMark c) with
      | .error flaw => .error (.badUrl flaw)
      | .ok (text, host) =>
        if !databaseSchemes.contains scheme then .error .wrongScheme
        else if host.isEmpty then .error (.badUrl .emptyHost)
        else .ok (scheme ++ "://" ++ String.ofList text)

end VectorTable.Setting
