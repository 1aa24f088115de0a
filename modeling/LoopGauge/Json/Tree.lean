import LoopGauge.Json.Lexeme

/-!
# Documents as trees

The lexemes of a text are put together into a tree. Where the text stops making sense the tree is
cut, with the reason, and everything around the cut is closed off; what stands before the cut is
whole. A reader that walks a tree in the order of the text therefore meets faults in that order.

## Main definitions

* `Tree`: values, possibly cut.
* `Document.ofLexemes`, `Document.read`: the tree of a text.

## Design notes

Reading is one pass over the lexemes with a stack of the lists and objects that are open. A fault
ends it, so no item is ever read after a cut.
-/

namespace LoopGauge.Json

/-- How a list or an object ends. -/
inductive Ending where
  | closed
  | cut (breach : Breach)
deriving DecidableEq, Repr

/-- A value as it is written, up to the first fault. -/
inductive Tree where
  | word (w : Word) (breach : Option Breach)
  | number (n : Numeral)
  | text (l : Literal)
  | array (items : List Tree) (ending : Ending)
  | object (entries : List (Literal × Tree)) (ending : Ending)
  /-- No value where one must be. -/
  | cut (breach : Breach)

/-- A text as a tree, and whether something follows the value. -/
structure Document where
  root : Tree
  trailing : Bool := false

/-- A list or an object that is open; what it holds stands in reverse. -/
inductive Frame where
  | array (items : List Tree)
  /-- An object in which a value is being read for `key`. -/
  | object (entries : List (Literal × Tree)) (key : Literal)

/-- What the next lexeme must be. -/
inductive Place where
  | value
  | itemOrEnd
  | commaInArray (items : List Tree)
  | keyOrEnd
  | key (entries : List (Literal × Tree))
  | colon (entries : List (Literal × Tree)) (key : Literal)
  | commaInObject (entries : List (Literal × Tree))
  | done (root : Tree)

/-- One lexeme further, or the end of reading. -/
inductive Step where
  | go (place : Place) (outer : List Frame)
  | stop (document : Document)

/-- Closes off the open lists and objects around a cut. -/
def enclose (breach : Breach) (t : Tree) : List Frame → Tree
  | [] => t
  | .array items :: outer =>
    enclose breach (.array (t :: items).reverse (.cut breach)) outer
  | .object entries key :: outer =>
    enclose breach (.object ((key, t) :: entries).reverse (.cut breach)) outer

namespace Document

/-- The text goes wrong inside the given tree. -/
def broken (breach : Breach) (t : Tree) (outer : List Frame) : Document :=
  ⟨enclose breach t outer, false⟩

/-- A list without its end. -/
def arrayCut (b : Breach) (items : List Tree) (outer : List Frame) : Document :=
  broken b (.array items.reverse (.cut b)) outer

/-- An object without its end. -/
def objectCut (b : Breach) (entries : List (Literal × Tree)) (outer : List Frame) : Document :=
  broken b (.object entries.reverse (.cut b)) outer

/-- An object that ends in a key whose value cannot be read. -/
def keyCut (b : Breach) (entries : List (Literal × Tree)) (key : Literal)
    (outer : List Frame) : Document :=
  objectCut b ((key, .cut b) :: entries) outer

end Document

namespace Step

/-- A value is complete and belongs to the innermost open list or object. -/
def complete (t : Tree) : List Frame → Step
  | [] => go (.done t) []
  | .array items :: outer => go (.commaInArray (t :: items)) outer
  | .object entries key :: outer => go (.commaInObject ((key, t) :: entries)) outer

/-- A value without parts, which may be spelled wrongly. -/
def leaf (t : Tree) (breach : Option Breach) (outer : List Frame) : Step :=
  match breach with
  | none => complete t outer
  | some b => stop (.broken b t outer)

/-- A value starts here. -/
def value (outer : List Frame) : Lexeme → Step
  | .openArray => go .itemOrEnd outer
  | .openObject => go .keyOrEnd outer
  | .word w b => leaf (.word w b) b outer
  | .number n => leaf (.number n) n.breach outer
  | .string l => leaf (.text l) l.breach outer
  | .closeArray | .closeObject | .comma | .colon | .stray =>
    stop (.broken .malformed (.cut .malformed) outer)

/-- A key stands here. -/
def ofKey (entries : List (Literal × Tree)) (key : Literal) (outer : List Frame) : Step :=
  match key.breach with
  | none => go (.colon entries key) outer
  | some b => stop (.keyCut b entries key outer)

end Step

namespace Place

/-- What a lexeme means at a place. -/
def step (outer : List Frame) : Place → Lexeme → Step
  | value, l => Step.value outer l
  | itemOrEnd, .closeArray => Step.complete (.array [] .closed) outer
  | itemOrEnd, l => Step.value (.array [] :: outer) l
  | commaInArray items, .comma => .go value (.array items :: outer)
  | commaInArray items, .closeArray => Step.complete (.array items.reverse .closed) outer
  | commaInArray items, _ => .stop (.arrayCut .malformed items outer)
  | keyOrEnd, .closeObject => Step.complete (.object [] .closed) outer
  | keyOrEnd, .string k => Step.ofKey [] k outer
  | keyOrEnd, _ => .stop (.objectCut .malformed [] outer)
  | key entries, .string k => Step.ofKey entries k outer
  | key entries, _ => .stop (.keyCut .malformed entries (Literal.broken .malformed) outer)
  | colon entries k, .colon => .go value (.object entries k :: outer)
  | colon entries k, _ => .stop (.keyCut .malformed entries k outer)
  | commaInObject entries, .comma => .go (key entries) outer
  | commaInObject entries, .closeObject => Step.complete (.object entries.reverse .closed) outer
  | commaInObject entries, _ => .stop (.objectCut .malformed entries outer)
  | done root, _ => .stop ⟨root, true⟩

/-- The document if the text ends at a place. -/
def finish (outer : List Frame) : Place → Document
  | value => .broken .unfinished (.cut .unfinished) outer
  | itemOrEnd => .arrayCut .unfinished [] outer
  | commaInArray items => .arrayCut .unfinished items outer
  | keyOrEnd => .objectCut .unfinished [] outer
  | key entries => .keyCut .unfinished entries (Literal.broken .unfinished) outer
  | colon entries k => .keyCut .unfinished entries k outer
  | commaInObject entries => .objectCut .unfinished entries outer
  | done root => ⟨root, false⟩

end Place

namespace Document

/-- Reads on from a place. -/
def resume (place : Place) (outer : List Frame) : List Lexeme → Document
  | [] => place.finish outer
  | l :: rest =>
    match place.step outer l with
    | .stop d => d
    | .go place outer => resume place outer rest

/-- The document that lexemes make. -/
def ofLexemes (lexemes : List Lexeme) : Document := resume .value [] lexemes

/-- The document of a text. -/
def read (s : String) : Document := ofLexemes (Lexeme.scan s.toList)

end Document

end LoopGauge.Json
