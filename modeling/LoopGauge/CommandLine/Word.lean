import LoopGauge.Text.Raw

/-!
# Words of a command line

A word of a command line is an option with a long name, a group of options with short names, the
mark that ends the options, or anything else. Words need not be readable text.

## Main definitions

* `Word.ofRaw`: what a word is.
-/

namespace LoopGauge.CommandLine

open Text

/-- A word, by its form. -/
inductive Word where
  /-- Two hyphens alone. -/
  | mark
  /-- Two hyphens and a name, perhaps with a value after an equals sign. -/
  | long (name : RawText) (value : Option RawText)
  /-- One hyphen and at least one byte more. -/
  | short (bytes : List UInt8)
  | other
deriving DecidableEq, Repr

def hyphen : UInt8 := 45
def equalsSign : UInt8 := 61

/-- What stands before and after the first equals sign. -/
def splitAtEquals (bytes : List UInt8) : List UInt8 × Option (List UInt8) :=
  let name := bytes.takeWhile (· != equalsSign)
  match bytes.drop name.length with
  | [] => (name, none)
  | _ :: value => (name, some value)

/-- The form of a word. -/
def Word.ofBytes : List UInt8 → Word
  | a :: b :: rest =>
    if a = hyphen then
      if b = hyphen then
        if rest.isEmpty then mark
        else
          let (name, value) := splitAtEquals rest
          long (.ofBytes name) (value.map .ofBytes)
      else short (b :: rest)
    else other
  | _ => other

/-- The form of a word. -/
def Word.ofRaw (w : RawText) : Word := ofBytes w.toBytes

end LoopGauge.CommandLine
