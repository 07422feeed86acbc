import ScanService.Text.Percent

/-!
# Addresses on the web

An `Address` is where a request goes: the authority that is asked, the path and the query.  It is read
from the text of a URL as browsers read it: blank ends and line breaks are dropped, a backslash counts
as a slash, steps to the same or the parent folder are taken, and whatever may not stand in a path or
a query is written with percent signs.

* `Address.parse?` reads a URL; `none` if it is no URL of the web.
* `Address.target` is what a request names: the path, and the query behind it.
-/

namespace ScanService
namespace Http

/-- Where a request goes. -/
structure Address where
  /-- The host, and the port behind it if one is named. -/
  authority : List Char
  /-- The parts of the path between its slashes. -/
  path : List (List Char)
  /-- What stands behind the question mark, if there is one. -/
  query : Option (List Char)
  deriving DecidableEq, Repr

namespace Address

/-- Characters that neither a path nor a query holds. -/
def isForbidden (c : Char) : Bool :=
  c.toNat ≤ 32 || 127 ≤ c.toNat || c == '"' || c == '#' || c == '<' || c == '>'

/-- Characters that a path holds as they are. -/
def isPathChar (c : Char) : Bool :=
  !(isForbidden c || c == '?' || c == '\x60' || c == '\x7b' || c == '\x7d')

/-- Characters that a query holds as they are. -/
def isQueryChar (c : Char) : Bool := !(isForbidden c || c == '\'')

/-- Both kinds of slashes. -/
def isSlash (c : Char) : Bool := c == '/' || c == '\\'

/-- The parts of a path between its slashes; `part` is the part at hand, latest first. -/
def partsFrom (part : List Char) : List Char → List (List Char)
  | [] => [part.reverse]
  | c :: rest => if isSlash c then part.reverse :: partsFrom [] rest else partsFrom (c :: part) rest

/-- A step to the same folder. -/
def isSameFolder (part : List Char) : Bool :=
  let p := part.map Char.toLower
  p == ['.'] || p == "%2e".toList

/-- A step to the parent folder. -/
def isParentFolder (part : List Char) : Bool :=
  let p := part.map Char.toLower
  p == "..".toList || p == ".%2e".toList || p == "%2e.".toList || p == "%2e%2e".toList

/-- Takes the steps among the parts of a path; `done` are the parts so far, latest first. -/
def walk (done : List (List Char)) : List (List Char) → List (List Char)
  | [] => done.reverse
  | part :: rest =>
    if isParentFolder part then walk (if rest = [] then [] :: done.tail else done.tail) rest
    else if isSameFolder part then walk (if rest = [] then [] :: done else done) rest
    else walk (Text.percentEncode isPathChar part :: done) rest

/-- Characters that do not count at the ends of a URL. -/
def isEnd (c : Char) : Bool := c.toNat ≤ 32

/-- Drops a blank end, and line breaks and tabs everywhere. -/
def cleanEnd (s : List Char) : List Char :=
  (s.reverse.dropWhile isEnd).reverse.filter fun c => c != '\t' && c != '\n' && c != '\r'

/-- Drops both blank ends, and line breaks and tabs everywhere. -/
def clean (s : List Char) : List Char := cleanEnd (s.dropWhile isEnd)

/-- What follows the scheme of a URL of the web. -/
def afterScheme? (s : List Char) : Option (List Char) :=
  match s.takeWhile (· != ':'), s.dropWhile (· != ':') with
  | scheme, ':' :: rest =>
    let scheme := scheme.map Char.toLower
    if scheme = "http".toList ∨ scheme = "https".toList then some rest else none
  | _, _ => none

/-- Splits a text in front of the first character with a property. -/
def splitBefore (p : Char → Bool) (s : List Char) : List Char × List Char :=
  (s.takeWhile fun c => !p c, s.dropWhile fun c => !p c)

/-- Whether an authority names a host, and a port that exists if it names one. -/
def isAuthority (s : List Char) : Bool :=
  match splitBefore (· == ':') s with
  | ([], _) => false
  | (_, ':' :: port) => port.isEmpty || (Text.readDecimal port).any (· < 65536)
  | _ => true

/-- Reads what follows the authority of a URL. -/
def atHost (authority s : List Char) : Address :=
  let (s, _) := splitBefore (· == '#') s
  let (path, query) := splitBefore (· == '?') s
  let path := match path with
    | [] => []
    | _ :: path => path
  ⟨authority, walk [] (partsFrom [] path),
    match query with
    | [] => none
    | _ :: query => some (Text.percentEncode isQueryChar query)⟩

/-- Reads a URL. -/
def parse? (s : List Char) : Option Address := do
  let rest ← afterScheme? (clean s)
  let (authority, rest) :=
    splitBefore (fun c => isSlash c || c == '?' || c == '#') (rest.dropWhile isSlash)
  if !isAuthority authority then none
  return atHost authority rest

/-- What a request names: the path, and the query behind it. -/
def target (a : Address) : List Char :=
  a.path.flatMap (fun part => '/' :: part)
    ++ match a.query with
      | none => []
      | some query => '?' :: query

end Address
end Http
end ScanService
