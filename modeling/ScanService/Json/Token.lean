import ScanService.Json.Basic

/-!
# The tokens of a JSON text

`Token.ofChars?` splits a text into tokens, one character at a time.  Two tokens may lack a value:
a text with half a surrogate pair in it, and a number beyond the doubles.  They are tokens all the
same, and only reading their value fails.

Every run of characters that can stand in a number is taken as one numeral, and every run of
letters as one word: in a JSON text neither can follow its like without something in between.
-/

namespace ScanService
namespace Json

/-- A token of a JSON text. -/
inductive Token where
  | openArray
  | closeArray
  | openObject
  | closeObject
  | comma
  | colon
  | null
  | bool (b : Bool)
  /-- A number; `none` if it is too large for a double. -/
  | number (n : Option Number)
  /-- A text; `none` if it has a surrogate without its partner. -/
  | text (s : Option String)
  deriving DecidableEq, Repr

/-! ## Numerals -/

/-- The parts of a numeral, as values of its digits. -/
structure Numeral where
  /-- Whether it begins with a minus sign. -/
  negative : Bool
  /-- The digits before the point. -/
  integer : List Nat
  /-- The digits after the point, if there is one. -/
  fraction : Option (List Nat)
  /-- Whether the power of ten is negative, and its digits. -/
  exponent : Option (Bool × List Nat)
  deriving DecidableEq, Repr

namespace Numeral

/-- Splits off a fraction; `none` if no digit follows the point. -/
def takeFraction : List Char → Option (Option (List Nat) × List Char)
  | '.' :: s =>
    match Text.takeDigits s with
    | ([], _) => none
    | (ds, rest) => some (some ds, rest)
  | s => some (none, s)

/-- The digits of a power of ten. -/
def exponentDigits (negative : Bool) (s : List Char) :
    Option (Option (Bool × List Nat) × List Char) :=
  match Text.takeDigits s with
  | ([], _) => none
  | (ds, rest) => some (some (negative, ds), rest)

/-- Splits off a power of ten; `none` if it has no digit. -/
def takeExponent : List Char → Option (Option (Bool × List Nat) × List Char)
  | 'e' :: s | 'E' :: s =>
    match s with
    | '-' :: s => exponentDigits true s
    | '+' :: s => exponentDigits false s
    | s => exponentDigits false s
  | s => some (none, s)

/-- Splits off a numeral: no leading zero, a digit on both sides of a point, a digit in a power of
ten. -/
def take? (s : List Char) : Option (Numeral × List Char) := do
  let (negative, s) := match s with
    | '-' :: s => (true, s)
    | s => (false, s)
  let (integer, s) := Text.takeDigits s
  match integer with
  | [] => none
  | 0 :: _ :: _ => none
  | _ =>
    let (fraction, s) ← takeFraction s
    let (exponent, s) ← takeExponent s
    return (⟨negative, integer, fraction, exponent⟩, s)

/-- The numeral that a run of characters is. -/
def ofChars? (s : List Char) : Option Numeral :=
  match take? s with
  | some (n, []) => some n
  | _ => none

/-- Appends digits to a significand while it fits sixty-four bits, and returns the digits left. -/
def extend (significand : Nat) : List Nat → Nat × List Nat
  | [] => (significand, [])
  | d :: ds =>
    if significand * 10 + d < UInt64.size then extend (significand * 10 + d) ds
    else (significand, d :: ds)

/-- The number that a numeral denotes.

A numeral without fraction and power of ten is whole if it fits sixty-four bits (a minus sign
leaving sixty-three, and minus zero being no whole number).  Any other is a double, of which as many
digits count as fit sixty-four bits. -/
def value? (n : Numeral) : Option Number :=
  let (significand, left) := extend 0 n.integer
  let whole : Option Int :=
    if n.fraction.isSome || n.exponent.isSome || !left.isEmpty then none
    else if n.negative then
      if significand = 0 ∨ UInt64.size < 2 * significand then none else some (-(significand : Int))
    else some significand
  match whole with
  | some k => some (.whole k)
  | none =>
    let fraction := n.fraction.getD []
    let (significand, rest) := extend significand fraction
    let scale : Int := (left.length : Int) - ((fraction.length : Int) - rest.length)
    let power : Int := match n.exponent with
      | some (true, ds) => scale - Text.ofDigits 10 ds
      | some (false, ds) => scale + Text.ofDigits 10 ds
      | none => scale
    (Binary64.ofDecimal? n.negative significand power).map .double

end Numeral

/-! ## Texts -/

/-- A piece of a text between quotes: a character, or a UTF-16 unit given by its number. -/
inductive Piece where
  | char (c : Char)
  | unit (n : Nat)
  deriving DecidableEq, Repr

/-- Puts the pieces together; a leading surrogate needs its trailing one right behind it. -/
def joinPieces : List Piece → Option (List Char)
  | [] => some []
  | .char c :: rest => (joinPieces rest).map (c :: ·)
  | .unit n :: rest =>
    if n < 0xD800 ∨ 0xDFFF < n then (joinPieces rest).map (Char.ofNat n :: ·)
    else if n < 0xDC00 then
      match rest with
      | .unit m :: rest =>
        if 0xDC00 ≤ m ∧ m ≤ 0xDFFF then
          (joinPieces rest).map (Char.ofNat (0x10000 + (n - 0xD800) * 0x400 + (m - 0xDC00)) :: ·)
        else none
      | _ => none
    else none

/-- The character that a backslash and a letter stand for. -/
def shortEscape : Char → Option Char
  | '"' => some '"'
  | '\\' => some '\\'
  | '/' => some '/'
  | 'b' => some (Char.ofNat 8)
  | 'f' => some (Char.ofNat 12)
  | 'n' => some '\n'
  | 'r' => some '\r'
  | 't' => some '\t'
  | _ => none

/-! ## Splitting -/

/-- Where the scan of a text stands. -/
inductive Scan where
  /-- Between tokens. -/
  | between
  /-- Inside a numeral, its characters latest first. -/
  | numeral (seen : List Char)
  /-- Inside a word, its characters latest first. -/
  | word (seen : List Char)
  /-- Inside a text, its pieces latest first. -/
  | text (seen : List Piece)
  /-- Behind a backslash in a text. -/
  | escape (seen : List Piece)
  /-- Inside the four digits of a unit, so many of which are due. -/
  | unit (seen : List Piece) (due : Nat) (value : Nat)
  deriving DecidableEq, Repr

/-- Characters that can stand in a numeral. -/
def isNumeralChar (c : Char) : Bool :=
  ('0' ≤ c && c ≤ '9') || c == '+' || c == '-' || c == '.' || c == 'e' || c == 'E'

/-- Small letters, of which all words consist. -/
def isWordChar (c : Char) : Bool := 'a' ≤ c && c ≤ 'z'

/-- The token for a word. -/
def wordToken (seen : List Char) : Option Token :=
  let w := seen.reverse
  if w = "null".toList then some .null
  else if w = "true".toList then some (.bool true)
  else if w = "false".toList then some (.bool false)
  else none

/-- The token for a numeral. -/
def numeralToken (seen : List Char) : Option Token :=
  (Numeral.ofChars? seen.reverse).map fun n => .number n.value?

/-- A character between tokens: the next state, and the token it is if it is one. -/
def scanBetween (c : Char) : Option (Scan × List Token) :=
  match c with
  | ' ' | '\n' | '\t' | '\r' => some (.between, [])
  | '[' => some (.between, [.openArray])
  | ']' => some (.between, [.closeArray])
  | '\x7b' => some (.between, [.openObject])
  | '\x7d' => some (.between, [.closeObject])
  | ',' => some (.between, [.comma])
  | ':' => some (.between, [.colon])
  | '"' => some (.text [], [])
  | c =>
    if c = '-' ∨ ('0' ≤ c ∧ c ≤ '9') then some (.numeral [c], [])
    else if isWordChar c then some (.word [c], [])
    else none

/-- One character: the next state and the tokens that it ends. -/
def scanChar (state : Scan) (c : Char) : Option (Scan × List Token) :=
  match state with
  | .between => scanBetween c
  | .numeral seen =>
    if isNumeralChar c then some (.numeral (c :: seen), [])
    else do
      let token ← numeralToken seen
      let (next, tokens) ← scanBetween c
      return (next, token :: tokens)
  | .word seen =>
    if isWordChar c then some (.word (c :: seen), [])
    else do
      let token ← wordToken seen
      let (next, tokens) ← scanBetween c
      return (next, token :: tokens)
  | .text seen =>
    if c = '"' then
      some (.between, [.text ((joinPieces seen.reverse).map String.ofList)])
    else if c = '\\' then some (.escape seen, [])
    else if c.toNat < 32 then none
    else some (.text (.char c :: seen), [])
  | .escape seen =>
    if c = 'u' then some (.unit seen 4 0, [])
    else (shortEscape c).map fun d => (.text (.char d :: seen), [])
  | .unit seen due value =>
    (Text.hexValue c).map fun v =>
      if due ≤ 1 then (.text (.unit (16 * value + v) :: seen), [])
      else (.unit seen (due - 1) (16 * value + v), [])

/-- The tokens that the end of the text ends. -/
def scanEnd : Scan → Option (List Token)
  | .between => some []
  | .numeral seen => (numeralToken seen).map ([·])
  | .word seen => (wordToken seen).map ([·])
  | _ => none

namespace Token

/-- The tokens of a text, read on from a state. -/
def scanFrom (state : Scan) : List Char → Option (List Token)
  | [] => scanEnd state
  | c :: rest =>
    match scanChar state c with
    | none => none
    | some (next, tokens) => (scanFrom next rest).map (tokens ++ ·)

/-- The tokens of a text. -/
def ofChars? (s : List Char) : Option (List Token) := scanFrom .between s

/-! ## Texts that break off

Of a text that does not split into tokens, those in front of the break can still be told; a numeral or
a word counts as such when a part in front of it is one. -/

/-- The numeral or word in front of a break. -/
def ofBreak : Scan → List Token
  | .numeral seen => ((Numeral.take? seen.reverse).map fun n => number n.1.value?).toList
  | .word seen =>
    let w := seen.reverse
    if "null".toList.isPrefixOf w then [null]
    else if "true".toList.isPrefixOf w then [bool true]
    else if "false".toList.isPrefixOf w then [bool false]
    else []
  | _ => []

/-- The tokens in front of the break of a text, or all of them if there is none. -/
def salvageFrom (state : Scan) : List Char → List Token
  | [] => (scanEnd state).getD (ofBreak state)
  | c :: rest =>
    match scanChar state c with
    | none => ofBreak state
    | some (next, tokens) => tokens ++ salvageFrom next rest

/-- The tokens in front of the break of a text. -/
def salvage (s : List Char) : List Token := salvageFrom .between s

end Token
end Json
end ScanService
