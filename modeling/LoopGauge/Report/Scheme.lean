import LoopGauge.LatencyLevel
import LoopGauge.Style.Naming
import LoopGauge.Style.Paint

/-!
# Colour schemes

What a piece of a report is for decides its colour.

## Main definitions

* `Role`: what a piece of text is for.
* `Scheme`: a colour for each role.
* `Scheme.ofNames?`: a scheme by the names of colours.
* `Tone`: a role, or a level of latency, which has a colour of its own.
-/

namespace LoopGauge.Report

open Style

/-- What a piece of a report is for. -/
inductive Role where
  | header | success | warning | error | info | muted | border
deriving DecidableEq, Repr

def Role.name : Role → String
  | header => "header"
  | success => "success"
  | warning => "warning"
  | error => "error"
  | info => "info"
  | muted => "muted"
  | border => "border"

/-- A colour for each role. -/
structure Scheme where
  header : Colour := .blue
  success : Colour := .green
  warning : Colour := .yellow
  error : Colour := .red
  info : Colour := .cyan
  muted : Colour := .brightBlack
  border : Colour := .brightBlack
deriving DecidableEq, Repr, Inhabited

namespace Scheme

def colour (s : Scheme) : Role → Colour
  | .header => s.header
  | .success => s.success
  | .warning => s.warning
  | .error => s.error
  | .info => s.info
  | .muted => s.muted
  | .border => s.border

/-- The scheme with the named colours; a role without a name keeps its colour. There is no scheme
if one of the names cannot be read to its end. -/
def ofNames? (nameOf : Role → Option String) : Option Scheme := do
  let standard : Scheme := {}
  let colour (r : Role) : Option Colour :=
    match nameOf r with
    | some name => Colour.named? name
    | none => some (standard.colour r)
  return {
    header := ← colour .header
    success := ← colour .success
    warning := ← colour .warning
    error := ← colour .error
    info := ← colour .info
    muted := ← colour .muted
    border := ← colour .border }

end Scheme

/-- Why a piece of text is coloured. -/
inductive Tone where
  | role (r : Role)
  | level (l : LatencyLevel)
deriving DecidableEq, Repr

namespace Tone

def colour (s : Scheme) : Tone → Colour
  | role r => s.colour r
  | level l => l.colour

end Tone

end LoopGauge.Report
