import LoopGauge.Text.Pieces

/-!
# Text that may not be readable

Environment values, file contents and command line words are bytes. Most are well-formed UTF-8
and stand for a string; the others can only be passed on and shown with replacement characters.

## Main definitions

* `RawText`: a string, or bytes that are no UTF-8.
* `RawText.text?`: the string, if there is one.
* `RawText.display`: what is shown; every malformed part becomes one `U+FFFD`.
-/

namespace LoopGauge.Text

namespace Utf8

/-- What a first byte announces: how many bytes follow, and the range of the first of them. -/
structure Lead where
  count : Nat
  low : UInt8
  high : UInt8
  bits : Nat

/-- The announcement of a first byte above the ASCII range. -/
def Lead.of? (b : UInt8) : Option Lead :=
  let n := b.toNat
  if 0xC2 ≤ n && n ≤ 0xDF then some ⟨1, 0x80, 0xBF, n - 0xC0⟩
  else if n == 0xE0 then some ⟨2, 0xA0, 0xBF, 0⟩
  else if n == 0xED then some ⟨2, 0x80, 0x9F, 0xD⟩
  else if 0xE1 ≤ n && n ≤ 0xEF then some ⟨2, 0x80, 0xBF, n - 0xE0⟩
  else if n == 0xF0 then some ⟨3, 0x90, 0xBF, 0⟩
  else if n == 0xF4 then some ⟨3, 0x80, 0x8F, 4⟩
  else if 0xF1 ≤ n && n ≤ 0xF3 then some ⟨3, 0x80, 0xBF, n - 0xF0⟩
  else none

/-- The bytes that continue a sequence, as many as are in place. -/
def continuation : (count : Nat) → (low high : UInt8) → List UInt8 → List UInt8
  | 0, _, _, _ => []
  | _ + 1, _, _, [] => []
  | count + 1, low, high, b :: rest =>
    if low ≤ b && b ≤ high then b :: continuation count 0x80 0xBF rest else []

/-- The characters of a byte sequence; `none` stands for a malformed part. -/
def scan : List UInt8 → List (Option Char)
  | [] => []
  | b :: rest =>
    if b < 0x80 then some (Char.ofNat b.toNat) :: scan rest
    else
      match Lead.of? b with
      | none => none :: scan rest
      | some lead =>
        let taken := continuation lead.count lead.low lead.high rest
        let char :=
          if taken.length = lead.count then
            some (Char.ofNat (taken.foldl (fun n t => n * 64 + t.toNat % 64) lead.bits))
          else none
        char :: scan (rest.drop taken.length)
termination_by bytes => bytes.length
decreasing_by all_goals simp only [List.length_cons, List.length_drop]; omega

/-- The string that the bytes encode. -/
def decode? (bytes : List UInt8) : Option String := ((scan bytes).mapM id).map String.ofList

/-- The text of the bytes with `U+FFFD` for every malformed part. -/
def decodeLossy (bytes : List UInt8) : String :=
  String.ofList ((scan bytes).map (·.getD (Char.ofNat 0xFFFD)))

end Utf8

/-- A string, or bytes that encode none. -/
inductive RawText where
  | text (s : String)
  | bytes (b : List UInt8)
deriving DecidableEq, Repr, Inhabited

namespace RawText

/-- The string that bytes encode, or the bytes. -/
def ofBytes (b : List UInt8) : RawText :=
  match Utf8.decode? b with
  | some s => text s
  | none => bytes b

/-- The bytes of either kind. -/
def toBytes : RawText → List UInt8
  | text s => s.toUTF8.toList
  | bytes b => b

/-- The string, if there is one. -/
def text? : RawText → Option String
  | text s => some s
  | bytes _ => none

/-- What is shown to a reader. -/
def display : RawText → String
  | text s => s
  | bytes b => Utf8.decodeLossy b

def isEmpty : RawText → Bool
  | text s => s.isEmpty
  | bytes b => b.isEmpty

/-- The lines, each readable or not by itself. -/
def lines : RawText → List RawText
  | text s => (Text.lines s.toList).map fun l => text (String.ofList l)
  | bytes b => (linesBy (· == 10) (· == 13) b).map ofBytes

end RawText

end LoopGauge.Text
