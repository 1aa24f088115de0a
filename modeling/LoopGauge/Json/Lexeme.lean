import LoopGauge.Number.Arithmetic
import LoopGauge.Number.Basic
import LoopGauge.Number.Numeral

/-!
# The words of a JSON text

A text is cut into lexemes: brackets, separators, words, numerals and string literals. A lexeme
that is spelled wrongly is kept with what is wrong about it, because whether that matters, and how,
depends on whether anybody reads it.

## Main definitions

* `Breach`: the three ways in which a text fails to be the wanted document.
* `Numeral`, `Literal`: numbers and strings as they are written.
* `Lexeme.scan`: the lexemes of a text, up to the first one that is cut short.
-/

namespace LoopGauge.Json

open Number

/-- How a text fails: it breaks the grammar, it ends early, or it holds something else. -/
inductive Breach where
  | malformed
  | unfinished
  | mismatched
deriving DecidableEq, Repr

/-- A number as it is written. -/
structure Numeral where
  negative : Bool
  whole : List Char
  fraction : Option (List Char) := none
  /-- Whether the exponent is negative, and its digits. -/
  exponent : Option (Bool × List Char) := none
  /-- What is wrong with the spelling. -/
  breach : Option Breach := none
deriving DecidableEq, Repr

/-- A piece of a string literal: a character, or a code unit given by its number. -/
inductive Piece where
  | char (c : Char)
  | unit (n : Nat)
deriving DecidableEq, Repr

/-- A string as it is written, up to the closing quote or to what is wrong with it. -/
structure Literal where
  pieces : List Piece
  breach : Option Breach := none
deriving DecidableEq, Repr

/-- The three words of the language. -/
inductive Word where
  | null
  | yes
  | no
deriving DecidableEq, Repr

/-- A lexeme. -/
inductive Lexeme where
  | openArray
  | closeArray
  | openObject
  | closeObject
  | comma
  | colon
  | word (w : Word) (breach : Option Breach)
  | number (n : Numeral)
  | string (l : Literal)
  /-- A character that starts no lexeme. -/
  | stray
deriving DecidableEq, Repr

def isDigit (c : Char) : Bool := '0' ≤ c && c ≤ '9'

/-- A blank between lexemes. -/
def isSpace (c : Char) : Bool := c == ' ' || c == '\n' || c == '\t' || c == '\r'

/-- What a missing character is: an early end, or a wrong one in its place. -/
def absent (rest : List Char) : Breach := if rest.isEmpty then .unfinished else .malformed

/-- Reads the exponent of a numeral, if there is one. -/
def Numeral.scanExponent (n : Numeral) : List Char → Numeral × List Char
  | c :: rest =>
    if c == 'e' || c == 'E' then
      let (minus, rest) :=
        match rest with
        | '-' :: r => (true, r)
        | '+' :: r => (false, r)
        | r => (false, r)
      let ds := rest.takeWhile isDigit
      if ds.isEmpty then ({ n with breach := some (absent rest) }, rest)
      else ({ n with exponent := some (minus, ds) }, rest.drop ds.length)
    else (n, c :: rest)
  | [] => (n, [])

/-- Reads the decimals of a numeral, if there are any, and its exponent. -/
def Numeral.scanFraction (n : Numeral) : List Char → Numeral × List Char
  | '.' :: rest =>
    let ds := rest.takeWhile isDigit
    if ds.isEmpty then ({ n with breach := some (absent rest) }, rest)
    else Numeral.scanExponent { n with fraction := some ds } (rest.drop ds.length)
  | rest => n.scanExponent rest

/-- Reads a numeral. A zero is not followed by another digit. -/
def Numeral.scan (cs : List Char) : Numeral × List Char :=
  let (minus, rest) :=
    match cs with
    | '-' :: r => (true, r)
    | r => (false, r)
  let ds := rest.takeWhile isDigit
  let after := rest.drop ds.length
  match ds with
  | [] => ({ negative := minus, whole := [], breach := some (absent rest) }, rest)
  | '0' :: _ :: _ => ({ negative := minus, whole := ['0'], breach := some .malformed }, after)
  | ds => Numeral.scanFraction { negative := minus, whole := ds } after

/-- The code unit of four hexadecimal digits. -/
def hexUnit? (a b c d : Char) : Option Nat := do
  let a ← hexValue? a
  let b ← hexValue? b
  let c ← hexValue? c
  let d ← hexValue? d
  return ((a * 16 + b) * 16 + c) * 16 + d

/-- The character of a one-letter escape. -/
def escaped? (c : Char) : Option Char :=
  match c with
  | '"' => some '"'
  | '\\' => some '\\'
  | '/' => some '/'
  | 'b' => some '\x08'
  | 'f' => some '\x0c'
  | 'n' => some '\n'
  | 'r' => some '\r'
  | 't' => some '\t'
  | _ => none

namespace Literal

/-- A literal that goes wrong at once. -/
def broken (b : Breach) : Literal := ⟨[], some b⟩

/-- A literal with one more piece in front. -/
def prepend (p : Piece) (l : Literal) : Literal := { l with pieces := p :: l.pieces }

/-- Fewer than four bytes are left for four digits, or they are wrong. -/
def missingDigits (rest : List Char) : Breach :=
  if total (rest.map Char.utf8Size) < 4 then .unfinished else .malformed

/-- Reads a literal after its opening quote. -/
def scan : List Char → Literal × List Char
  | [] => (broken .unfinished, [])
  | '"' :: rest => (⟨[], none⟩, rest)
  | ['\\'] => (broken .unfinished, [])
  | '\\' :: 'u' :: a :: b :: c :: d :: rest =>
    match hexUnit? a b c d with
    | some n =>
      let (l, rest) := scan rest
      (l.prepend (.unit n), rest)
    | none => (broken .malformed, rest)
  | '\\' :: 'u' :: rest => (broken (missingDigits rest), rest)
  | '\\' :: e :: rest =>
    match escaped? e with
    | some c =>
      let (l, rest) := scan rest
      (l.prepend (.char c), rest)
    | none => (broken .malformed, rest)
  | c :: rest =>
    if c.toNat < 0x20 then (broken .malformed, rest)
    else
      let (l, rest) := scan rest
      (l.prepend (.char c), rest)

end Literal

/-- Reads the rest of a word: the letters that must follow its first one. -/
def scanWord : (letters : List Char) → List Char → Option Breach × List Char
  | [], rest => (none, rest)
  | _ :: _, [] => (some .unfinished, [])
  | l :: ls, c :: rest => if c = l then scanWord ls rest else (some .malformed, rest)

namespace Lexeme

/-- Whether nothing can be read after this lexeme. -/
def breach? : Lexeme → Option Breach
  | word _ b => b
  | number n => n.breach
  | string l => l.breach
  | stray => some .malformed
  | _ => none

/-- The first lexeme of a text that starts with the given character. -/
def next (c : Char) (rest : List Char) : Lexeme × List Char :=
  if c == '[' then (openArray, rest)
  else if c == ']' then (closeArray, rest)
  else if c == '\x7b' then (openObject, rest)
  else if c == '\x7d' then (closeObject, rest)
  else if c == ',' then (comma, rest)
  else if c == ':' then (colon, rest)
  else if c == '"' then
    let (l, rest) := Literal.scan rest
    (string l, rest)
  else if c == 'n' then
    let (b, rest) := scanWord ['u', 'l', 'l'] rest
    (word .null b, rest)
  else if c == 't' then
    let (b, rest) := scanWord ['r', 'u', 'e'] rest
    (word .yes b, rest)
  else if c == 'f' then
    let (b, rest) := scanWord ['a', 'l', 's', 'e'] rest
    (word .no b, rest)
  else if c == '-' || isDigit c then
    let (n, rest) := Numeral.scan (c :: rest)
    (number n, rest)
  else (stray, rest)

/-- Reads at most `count` lexemes. -/
def scanUpTo : (count : Nat) → List Char → List Lexeme
  | 0, _ => []
  | count + 1, cs =>
    match cs.dropWhile isSpace with
    | [] => []
    | c :: rest =>
      let (lexeme, rest) := next c rest
      if lexeme.breach?.isSome then [lexeme] else lexeme :: scanUpTo count rest

/-- The lexemes of a text, up to and with the first one that is cut short. -/
def scan (cs : List Char) : List Lexeme := scanUpTo cs.length cs

end Lexeme

namespace Numeral

/-- The digits of a significand that fit a 64-bit word, and the digits left over. -/
def takeWord (acc : Nat) : List Char → Nat × List Char
  | [] => (acc, [])
  | c :: cs =>
    let next := acc * 10 + (c.toNat - 48)
    if wordLimit < next then (acc, c :: cs) else takeWord next cs

/-- A number as the reader takes it. -/
inductive Reading where
  | whole (n : Int)
  | real (x : Binary64)

/-- The greatest power of ten among the doubles. -/
def greatestPower : Nat := 308

/-- Divides by ten to the power `tens`, in steps that a double can hold. -/
def scaleDown (x : Binary64) : (steps tens : Nat) → Binary64
  | 0, _ => .zero
  | steps + 1, tens =>
    if tens ≤ greatestPower then x / Binary64.ofNat (tenTo tens)
    else if x.units = 0 then x
    else scaleDown (x / Binary64.ofNat (tenTo greatestPower)) steps (tens - greatestPower)

/-- The double of a word times a power of ten: one rounding for each of the two. -/
def scaled (significand : Nat) (exponent : Int) : Except Breach Binary64 :=
  let x := Binary64.ofNat significand
  if exponent < 0 then .ok (scaleDown x 8 exponent.natAbs)
  else if exponent.natAbs ≤ greatestPower then
    let product := x * Binary64.ofNat (tenTo exponent.natAbs)
    if product.isInfinite then .error .malformed else .ok product
  else if significand = 0 then .ok x
  else .error .malformed

/-- The largest exponent that is counted. -/
def exponentLimit : Nat := 2147483647

/-- The exponent written in a numeral; `none` if it is too large to be counted. -/
def writtenExponent (n : Numeral) : Option Int :=
  match n.exponent with
  | none => some 0
  | some (minus, ds) =>
    let value := Nat.ofDigitChars 10 ds 0
    if exponentLimit < value then none else some (if minus then -(value : Int) else value)

/-- The number of a numeral with decimals, with an exponent, or with too many digits. -/
def realValue (n : Numeral) : Except Breach Binary64 := do
  let (whole, dropped) := takeWord 0 n.whole
  let decimals := n.fraction.getD []
  let (significand, unused) := takeWord whole decimals
  let shift : Int := dropped.length - (decimals.length - unused.length : Nat)
  let magnitude ←
    match n.writtenExponent with
    | some e => scaled significand (shift + e)
    | none =>
      if significand != 0 && !((n.exponent.map (·.1)).getD false) then .error .malformed
      else .ok .zero
  return if n.negative then magnitude.neg else magnitude

/--
The number that a numeral stands for. Without decimals and exponent it is whole if a 64-bit word,
signed for negative numbers, holds it. A negative zero is real.
-/
def value (n : Numeral) : Except Breach Reading :=
  match n.breach with
  | some b => .error b
  | none =>
    let (whole, dropped) := takeWord 0 n.whole
    if n.fraction.isSome || n.exponent.isSome || !dropped.isEmpty then
      n.realValue.map Reading.real
    else if !n.negative then .ok (.whole whole)
    else if whole = 0 || twoTo 63 < whole then .ok (.real (Binary64.ofNat whole).neg)
    else .ok (.whole (-(whole : Int)))

end Numeral

namespace Literal

/-- What follows a leading surrogate that has no partner. -/
def unpaired (rest : List Piece) (breach : Option Breach) : Breach :=
  match rest, breach with
  | [], some b => b
  | _, _ => .malformed

def isLeading (n : Nat) : Bool := 0xD800 ≤ n && n ≤ 0xDBFF

def isTrailing (n : Nat) : Bool := 0xDC00 ≤ n && n ≤ 0xDFFF

/-- The characters of the pieces; surrogates must come in pairs. -/
def chars (breach : Option Breach) : List Piece → Except Breach (List Char)
  | [] =>
    match breach with
    | some b => .error b
    | none => .ok []
  | .char c :: rest => (chars breach rest).map (c :: ·)
  | .unit n :: rest =>
    if isTrailing n then .error .malformed
    else if isLeading n then
      match rest with
      | .unit m :: rest' =>
        if isTrailing m then
          (chars breach rest').map
            (Char.ofNat (0x10000 + (n - 0xD800) * 0x400 + (m - 0xDC00)) :: ·)
        else .error .malformed
      | other => .error (unpaired other breach)
    else (chars breach rest).map (Char.ofNat n :: ·)

/-- The string that a literal stands for. -/
def value (l : Literal) : Except Breach String := (chars l.breach l.pieces).map String.ofList

end Literal

end LoopGauge.Json
