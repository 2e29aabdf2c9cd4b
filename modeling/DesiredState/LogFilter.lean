import DesiredState.Event
import DesiredState.Text.Alphanumeric
import DesiredState.Text.Whitespace

/-! Filters for events: directives, of which the most specific one for the target of an event says
which levels it lets through. -/
namespace DesiredState

/-- What is let through: nothing, or a level and all levels that matter more. -/
abbrev Threshold := Option Level

namespace Threshold

/-- All thresholds, from nothing to everything. -/
def all : List Threshold :=
  [none, some .error, some .warn, some .info, some .debug, some .trace]

def name : Threshold → String
  | none => "off"
  | some .error => "error"
  | some .warn => "warn"
  | some .info => "info"
  | some .debug => "debug"
  | some .trace => "trace"

def admits : Threshold → Level → Bool
  | none, _ => false
  | some limit, level => level.rank ≤ limit.rank

/-- A natural number; a plus sign may come before it. -/
def number? (cs : List Char) : Option Nat :=
  let digits := match cs with
    | '+' :: digits => digits
    | digits => digits
  if digits.isEmpty then none
  else if digits.all Char.isDigit then some (Numeral.ofDigits digits)
  else none

/-- A threshold by its place among all of them, or by its name in letters of either case. -/
def ofText? (cs : List Char) : Option Threshold :=
  match number? cs with
  | some n => all[n]?
  | none => all.find? fun t => t.name.toList == cs.map Char.toLower

end Threshold

/-- What is let through of the events of a target, or of all events. -/
structure Directive where
  target? : Option String
  threshold : Threshold
  deriving DecidableEq

/-- Why a text is no filter. -/
inductive FilterError where
  | directive
  | threshold
  deriving DecidableEq

def FilterError.message : FilterError → String
  | directive => "invalid filter directive"
  | threshold =>
    "error parsing level filter: expected one of \"off\", \"error\", \"warn\", \"info\", \"debug\", " ++
      "\"trace\", or a number 0-5"

namespace Directive

/-- What a directive may start with. -/
def isStart (c : Char) : Bool := c == '-' || c == ':' || c == '_' || Text.alphanumeric.has c

def ofText (cs : List Char) : Except FilterError Directive :=
  match Text.trim cs with
  | [] => .error .directive
  | c :: _ =>
    if !isStart c then .error .directive
    else match cs.span (· ≠ '=') with
      | (whole, []) =>
        match Threshold.ofText? whole with
        | some t => .ok ⟨none, t⟩
        | none => .ok ⟨some (String.ofList whole), some .trace⟩
      | (target, _ :: limit) =>
        if cs.head? ≠ some c then .error .threshold
        else if limit.isEmpty then .ok ⟨some (String.ofList target), some .trace⟩
        else match Threshold.ofText? limit with
          | some t => .ok ⟨some (String.ofList target), t⟩
          | none => .error .threshold

/-- The events that a directive is about: those whose target starts with its own. -/
def covers (d : Directive) (target : String) : Bool :=
  d.target?.all fun t => t.toList.isPrefixOf target.toList

/-- Longer targets are more specific; of targets of one length the greater comes first. -/
def precedes (d e : Directive) : Bool :=
  match d.target?, e.target? with
  | some s, some t =>
    t.utf8ByteSize < s.utf8ByteSize || (t.utf8ByteSize == s.utf8ByteSize && t < s)
  | some _, none => true
  | none, _ => false

def display (d : Directive) : String :=
  match d.target? with
  | some t => t ++ "=" ++ d.threshold.name
  | none => d.threshold.name

/-- Adds a directive to those in order, in place of one for the same target. -/
def add (d : Directive) : List Directive → List Directive
  | [] => [d]
  | e :: es =>
    if d.target? = e.target? then d :: es
    else if d.precedes e then d :: e :: es
    else e :: add d es

end Directive

/-- Directives for different targets, the most specific one first. -/
structure LogFilter where
  directives : List Directive
  deriving DecidableEq

namespace LogFilter

/-- The filter of several directives, of which the last one for a target counts. -/
def ofDirectives (ds : List Directive) : LogFilter := ⟨ds.foldl (fun es d => d.add es) []⟩

def ofText (s : String) : Except FilterError LogFilter := do
  let pieces := (s.toList.splitOn ',').filter (!·.isEmpty)
  return ofDirectives (← pieces.mapM Directive.ofText)

def display (f : LogFilter) : String := ",".intercalate (f.directives.map Directive.display)

/-- Whether a filter lets an event of a target and a level through. -/
def admits (f : LogFilter) (target : String) (level : Level) : Bool :=
  (f.directives.find? (·.covers target)).any (·.threshold.admits level)

example : ((ofText "info,a=,bc=2,a=Warn").toOption.map display) = some "bc=warn,a=warn,info" := by
  decide +kernel
example : ((ofText "a=off,").toOption.map fun f => (f.admits "ab" .error, f.admits "b" .error)) =
    some (false, false) := by decide +kernel

example : (match ofText "info, a=6" with
    | .error e => e == .threshold
    | .ok _ => false) = true := by decide +kernel
example : (match ofText "=info" with
    | .error e => e == .directive
    | .ok _ => false) = true := by decide +kernel
example : (ofText " a").toOption.map display = some " a=trace" := by decide +kernel

end LogFilter
end DesiredState
