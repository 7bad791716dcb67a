import DoubleEntry.Log.Directive
import DoubleEntry.Log.Span

/-!
# Log filters

A filter is a list of directives between commas.  The directives that name neither a
span nor a value decide on an event by its source: the most specific one that fits
counts, and an event that none fits is silent.  Directives with a span or a field
choose spans, and an event inside a chosen span may pass whatever its source is.
-/

namespace DoubleEntry

structure Filter where
  directives : List Directive
  deriving DecidableEq, Repr

namespace Directive

def fitsTarget (directive : Directive) (source : Source) : Bool :=
  directive.target.all fun target => target.toList.isPrefixOf source.target.toList

/-! ## Events -/

def concernsEvents (directive : Directive) : Bool :=
  directive.span.isNone && directive.field.all fun field => field.value.isNone

def fitsEvent (directive : Directive) (event : Event) : Bool :=
  directive.concernsEvents && directive.fitsTarget event.source &&
    directive.field.all fun field => field.name = "message" ||
      event.fields.any fun (name, _) => name = field.name

/-- A longer target is more specific; among equal ones a field is, and a later name of it. -/
def specificity (directive : Directive) : Nat × String :=
  (directive.target.elim 0 fun target => target.length + 1,
    directive.field.elim "" fun field => "=" ++ field.name)

def isMoreSpecific (a b : Directive) : Bool :=
  ((compare a.specificity.1 b.specificity.1).then
    (compare a.specificity.2 b.specificity.2)).isGT

/-! ## Spans -/

def concernsSpans (directive : Directive) : Bool :=
  directive.span.isSome || directive.field.isSome

def ValueFilter.accepts (filter : ValueFilter) (value : String) : Bool :=
  filter.pattern.any fun pattern => pattern.isMatch value

def fitsSpan (directive : Directive) (span : Span) : Bool :=
  directive.concernsSpans && directive.fitsTarget Span.source &&
    (directive.span.all fun name => name = span.name) &&
    directive.field.all fun field =>
      match span.fields.lookup field.name with
      | some value => field.value.all fun filter => ValueFilter.accepts filter value
      | none => false

def replaces (later earlier : Directive) : Bool :=
  { later with verbosity := earlier.verbosity } = earlier

end Directive

namespace Filter

/-! ## Reading -/

def parts (text : String) : List String := (text.splitOn ",").filter fun part => !part.isEmpty

def ofDirectives (verbosity : Nat) (directives : List Directive) : Filter :=
  if directives.isEmpty then ⟨[⟨none, none, none, verbosity⟩]⟩ else ⟨directives⟩

/-- Reads a filter in which every directive must be valid.  An empty one lets nothing pass. -/
def ofString? (text : String) : Option Filter := do
  let directives ← (parts text).mapM fun part => (Directive.read part).toOption
  return ofDirectives 0 directives

def ofStringLossy (text : String) : Filter :=
  ofDirectives Level.error.verbosity
    ((parts text).filterMap fun part => (Directive.read part).toOption)

def complaints (text : String) : List String :=
  (parts text).filterMap fun part =>
    match Directive.read part with
    | .ok _ => none
    | .error fault => some ("ignoring \x60" ++ part ++ "\x60: " ++ fault.message)

/-! ## Choosing -/

/-- What passes by its source alone; of directives that are equally specific the last counts. -/
def sourceVerbosity (filter : Filter) (event : Event) : Nat :=
  let fitting := filter.directives.filter fun directive => directive.fitsEvent event
  let best := fitting.foldl
    (fun best? directive =>
      match best? with
      | some best => if Directive.isMoreSpecific best directive then some best else some directive
      | none => some directive)
    (none : Option Directive)
  best.elim 0 Directive.verbosity

def verbosityLimit (filter : Filter) : Nat :=
  if filter.directives.any fun d => d.field.any fun field => field.value.isSome then
    Level.trace.verbosity
  else (filter.directives.map Directive.verbosity).foldl max 0

def lastOnes : List Directive → List Directive
  | [] => []
  | directive :: rest =>
    if rest.any fun later => later.replaces directive then lastOnes rest
    else directive :: lastOnes rest

def spanVerbosity (filter : Filter) (span : Span) : Nat :=
  if Level.info.verbosity ≤ filter.verbosityLimit then
    let fitting := (lastOnes filter.directives).filter fun directive => directive.fitsSpan span
    (fitting.map Directive.verbosity).foldl max 0
  else 0

def allows (filter : Filter) (entry : LogEntry) : Bool :=
  let level := entry.event.level.verbosity
  level ≤ filter.sourceVerbosity entry.event
    || entry.span.any fun span => level ≤ filter.spanVerbosity span

end Filter

end DoubleEntry
