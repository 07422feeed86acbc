import ScanService.Text.Numeral

/-!
# Addresses of sockets

A `Socket` is where the service listens: the number of a host, of four bytes or of eight groups of
sixteen bits, and a port.  Groups are written between brackets, and one run of zero groups may be left
out of them; a host of eight groups may belong to a zone.

* `Socket.parse?` reads the text of an address.
* `Socket.text` writes it: the longest run of zero groups is the one left out.
-/

namespace ScanService
namespace Http

/-- The address of a socket. -/
inductive Socket where
  /-- A host of four bytes. -/
  | v4 (bytes : List Nat) (port : Nat)
  /-- A host of eight groups, in a zone. -/
  | v6 (groups : List Nat) (zone port : Nat)
  deriving DecidableEq, Repr

namespace Socket

/-! ## Reading -/

/-- The parts of a text between the places of a character; `part` is the part at hand, latest
first. -/
def partsBetween (c : Char) (part : List Char) : List Char → List (List Char)
  | [] => [part.reverse]
  | d :: rest =>
    if d = c then part.reverse :: partsBetween c [] rest else partsBetween c (d :: part) rest

/-- Reads a number of at most `max`. -/
def numberUpTo? (max : Nat) (s : List Char) : Option Nat :=
  (Text.readDecimal s).bind fun n => if n ≤ max then some n else none

/-- Reads a byte, which has no leading zero. -/
def byte? (s : List Char) : Option Nat :=
  if s.head? = some '0' ∧ s ≠ ['0'] then none else numberUpTo? 255 s

/-- Reads four bytes with points between them. -/
def bytes? (s : List Char) : Option (List Nat) :=
  match (partsBetween '.' [] s).mapM byte? with
  | some bytes => if bytes.length = 4 then some bytes else none
  | none => none

/-- Reads a group of up to four hexadecimal digits. -/
def group? (s : List Char) : Option Nat :=
  if s ≠ [] ∧ s.length ≤ 4 then (s.mapM Text.hexValue).map (Text.ofDigits 16) else none

/-- Reads groups; the last two may be written as four bytes. -/
def groupsOf? : List (List Char) → Option (List Nat)
  | [] => some []
  | [part] =>
    match bytes? part with
    | some [a, b, c, d] => some [256 * a + b, 256 * c + d]
    | _ => (group? part).map ([·])
  | part :: rest => do return (← group? part) :: (← groupsOf? rest)

/-- Reads groups with colons between them, or nothing. -/
def groups? (s : List Char) : Option (List Nat) :=
  if s = [] then some [] else groupsOf? (partsBetween ':' [] s)

/-- Splits a text at the first two colons that follow each other. -/
def splitAtGap : List Char → Option (List Char × List Char)
  | ':' :: ':' :: rest => some ([], rest)
  | c :: rest => (splitAtGap rest).map fun (front, back) => (c :: front, back)
  | [] => none

/-- Reads a host of eight groups.  Where groups are left out, those in front are no bytes. -/
def host6? (s : List Char) : Option (List Nat) :=
  match splitAtGap s with
  | none => (groups? s).filter fun groups => groups.length = 8
  | some (front, back) => do
    if '.' ∈ front then none
    let front ← groups? front
    let back ← groups? back
    if front.length + back.length ≤ 7 then
      some (front ++ List.replicate (8 - front.length - back.length) 0 ++ back)
    else none

/-- Reads a host of eight groups and its zone. -/
def zoned? (s : List Char) : Option (List Nat × Nat) := do
  let groups ← host6? (s.takeWhile (· != '%'))
  match s.dropWhile (· != '%') with
  | [] => return (groups, 0)
  | _ :: zone => return (groups, ← numberUpTo? (UInt32.size - 1) zone)

/-- Reads an address. -/
def parse? (s : List Char) : Option Socket :=
  match s with
  | '[' :: rest => do
    let (groups, zone) ← zoned? (rest.takeWhile (· != ']'))
    match rest.dropWhile (· != ']') with
    | ']' :: ':' :: port => return v6 groups zone (← numberUpTo? 65535 port)
    | _ => none
  | _ => do
    let bytes ← bytes? (s.takeWhile (· != ':'))
    match s.dropWhile (· != ':') with
    | _ :: port => return v4 bytes (← numberUpTo? 65535 port)
    | [] => none

/-! ## Writing -/

/-- Texts with a text between them. -/
def joined (between : List Char) (parts : List (List Char)) : List Char :=
  between.intercalate parts

/-- Four bytes with points between them. -/
def bytesChars (bytes : List Nat) : List Char := joined ['.'] (bytes.map Text.decimal)

/-- Groups with colons between them. -/
def groupsChars (groups : List Nat) : List Char := joined [':'] (groups.map Text.hexadecimal)

/-- The number of zeros at the front. -/
def zerosAtFront (groups : List Nat) : Nat := (groups.takeWhile (· == 0)).length

/-- The place and the length of the first longest run of zeros. -/
def longestGap : List Nat → Nat × Nat
  | [] => (0, 0)
  | g :: rest =>
    let (place, length) := longestGap rest
    let here := zerosAtFront (g :: rest)
    if length ≤ here then (0, here) else (place + 1, length)

/-- A host of eight groups. -/
def hostChars (groups : List Nat) : List Char :=
  match groups with
  | [0, 0, 0, 0, 0, 65535, a, b] =>
    "::ffff:".toList ++ bytesChars [a / 256, a % 256, b / 256, b % 256]
  | _ =>
    let (place, length) := longestGap groups
    if length ≤ 1 then groupsChars groups
    else groupsChars (groups.take place) ++ "::".toList ++ groupsChars (groups.drop (place + length))

/-- The characters of an address. -/
def chars : Socket → List Char
  | v4 bytes port => bytesChars bytes ++ ':' :: Text.decimal port
  | v6 groups zone port =>
    '[' :: hostChars groups ++ (if zone = 0 then [] else '%' :: Text.decimal zone)
      ++ "]:".toList ++ Text.decimal port

/-- The text of an address. -/
def text (s : Socket) : String := String.ofList s.chars

end Socket
end Http
end ScanService
