import LoopGauge.Fault
import LoopGauge.Transport
import LoopGauge.Text.Blank
import LoopGauge.Text.Casing
import LoopGauge.Text.Pieces

/-!
# Sub-tests

The four measurements a run can make, in the fixed order in which they are made.

## Main definitions

* `SubTest.all`: the fixed order.
* `SubTest.read?`: the sub-test of a name in any letter case, with `_` for `-` if one likes.
* `SubTest.parse`: the same, with the fault of a text that names none.
* `SubTest.readList`: a list of names with commas between them.
-/

namespace LoopGauge

/-- One measurement: what is measured, over which transport. -/
inductive SubTest where
  | tcpLatency
  | udpLatency
  | tcpThroughput
  | udpThroughput
deriving DecidableEq, Repr

namespace SubTest

/-- The order of execution. -/
def all : List SubTest := [tcpLatency, udpLatency, tcpThroughput, udpThroughput]

def transport : SubTest → Transport
  | tcpLatency | tcpThroughput => .tcp
  | udpLatency | udpThroughput => .udp

def isLatency : SubTest → Bool
  | tcpLatency | udpLatency => true
  | tcpThroughput | udpThroughput => false

/-- The name on the command line, in the environment and in documents. -/
def name : SubTest → String
  | tcpLatency => "tcp-latency"
  | udpLatency => "udp-latency"
  | tcpThroughput => "tcp-throughput"
  | udpThroughput => "udp-throughput"

/-- The name in reports. -/
def label : SubTest → String
  | tcpLatency => "TCP latency"
  | udpLatency => "UDP latency"
  | tcpThroughput => "TCP throughput"
  | udpThroughput => "UDP throughput"

/-- The sub-test of exactly this name. -/
def ofName? (s : String) : Option SubTest := all.find? (·.name = s)

/-- A name without blanks around it, in lower case, with `-` for `_`. -/
def normalise (cs : List Char) : List Char :=
  (Text.lowercase (Text.trim cs)).map fun c => if c = '_' then '-' else c

/-- The sub-test that a text names. -/
def read? (s : String) : Option SubTest := ofName? (String.ofList (normalise s.toList))

/-- What is said of a text that names no sub-test. -/
def unknown (s : String) : String := "Unknown sub-test: " ++ s

/-- The sub-test that a text names, or the fault that it names none. -/
def parse (s : String) : Except Fault SubTest :=
  match read? s with
  | some t => .ok t
  | none => .error ⟨.parse, unknown s⟩

/-- Whether an item of a list asks for all sub-tests. -/
def asksForAll (item : List Char) : Bool :=
  Text.lowercaseAscii item = ['a', 'l', 'l']

/-- The items of a list of names: what stands between commas, without blanks, if not empty. -/
def listItems (s : String) : List (List Char) :=
  ((Text.pieces ',' s.toList).map Text.trim).filter (!·.isEmpty)

/-- Reads items after those already found; the error is the item that names no sub-test. -/
def readItems (found : List SubTest) : List (List Char) → Except String (List SubTest)
  | [] => .ok found
  | item :: rest =>
    if asksForAll item then .ok all
    else
      match read? (String.ofList item) with
      | none => .error (String.ofList item)
      | some t => readItems (if found.contains t then found else found ++ [t]) rest

/--
A list of names with commas between them. Duplicates are dropped, the order is that of the first
mention, and `all` stands for every sub-test.
-/
def readList (s : String) : Except String (List SubTest) := readItems [] (listItems s)

/-- Names with a comma and a space between them, or `none`. -/
def listing (tests : List SubTest) : String :=
  if tests.isEmpty then "none" else Text.join ", " (tests.map name)

end SubTest

end LoopGauge
