import Upkeep.Environment
import Upkeep.Log.Directive
import Upkeep.Text.Lowercase

/-! Which events are logged. A filter is a list of directives, separated by commas. An event is
logged when the most specific directive about it lets its level through, or when it happens in a
span that some directive is about and lets it through there. -/
namespace Upkeep.Log

/-- A filter: directives that events decide, and directives about spans and fields, each kind with
the most specific first. -/
structure Filter where
  statics : List Directive
  dynamics : List Directive
  /-- The loosest limit of all directives that were given. -/
  loosest : Limit
  deriving Repr

namespace Filter

/-- Puts a directive in its place. It replaces one that is about the same. -/
def insert (d : Directive) : List Directive → List Directive
  | [] => [d]
  | e :: rest =>
    match d.order e with
    | .gt => d :: e :: rest
    | .eq => d :: rest
    | .lt => e :: insert d rest

/-- Some directives in order. -/
def sorted (directives : List Directive) : List Directive :=
  directives.foldl (fun known d => insert d known) []

/-- The filter of some directives. -/
def ofDirectives (directives : List Directive) : Filter :=
  let dynamics := directives.filter Directive.isDynamic
  let statics := directives.filter (fun d => !d.isDynamic) ++ dynamics.filter Directive.isStatic
  ⟨sorted statics, sorted dynamics, directives.foldl (fun limit d => limit.looser d.limit) none⟩

/-- The pieces of a filter's text that are not empty. -/
def piecesOf (s : String) : List String :=
  ((s.toList.splitOn ',').filter fun piece => !piece.isEmpty).map String.ofList

/-- Reads a filter; all of its directives have to be well formed. -/
def read? (s : String) : Option Filter :=
  ((piecesOf s).mapM Directive.read?).map ofDirectives

/-- Reads a filter without the directives that are not well formed. If none are left, only errors
are let through. -/
def readLenient (s : String) : Filter :=
  match (piecesOf s).filterMap Directive.read? with
  | [] => ofDirectives [.ofLimit (some .error)]
  | directives => ofDirectives directives

/-- The variable that holds a filter and wins over the level that is set. -/
def variableName : String := "RUST_LOG"

/-- The filter for a process and the level that is set for this program's own events. -/
def ofProcess (process : Environment) (level : String) : Filter :=
  match (process.get? variableName).bind read? with
  | some filter => filter
  | none => readLenient ("service_reconciler=" ++ Text.lowercase level)

/-- A filter as it is written. -/
def text (f : Filter) : String :=
  ",".intercalate ((f.statics ++ f.dynamics).map Directive.text)

/-- The loosest limit that the filter can have anywhere. Which spans have an expected value is not
known beforehand, so where one is expected everything may be let through. -/
def ceiling (f : Filter) : Limit :=
  if f.dynamics.any Directive.expectsValue then some .trace else f.loosest

/-- Whether the most specific directive about an event lets it through. -/
def admitsAlone (f : Filter) (event : Event) : Bool :=
  let fields := "message" :: event.fields.map (·.1)
  (f.statics.find? fun d => d.coversEvent event.target fields).any fun d =>
    d.limit.admits event.level

/-- The directives about a span. -/
def about (f : Filter) (span : Span) : List Directive :=
  f.dynamics.filter fun d => d.coversSpan Span.target Span.name (span.fields.map (·.1))

/-- Whether a span shows. -/
def admitsSpan (f : Filter) (span : Span) : Bool :=
  f.ceiling.admits Span.level &&
    (!(f.about span).isEmpty ||
      (f.statics.find? fun d => d.coversTarget Span.target).any fun d => d.limit.admits Span.level)

/-- The limit inside a span: the loosest of the directives about it whose conditions hold. -/
def limitInside (f : Filter) (span : Span) : Limit :=
  ((f.about span).filter fun d => d.condition.all fun c => c.holds span.fields).foldl
    (fun limit d => limit.looser d.limit) none

/-- Whether an entry is logged. -/
def admits (f : Filter) (entry : Entry) : Bool :=
  f.admitsAlone entry.event ||
    entry.span.any fun span =>
      f.admitsSpan span && (f.limitInside span).admits entry.event.level

/-- The entries that are logged. Spans are left out where they do not show. -/
def entries (f : Filter) (log : List Entry) : List Entry :=
  (log.filter f.admits).map fun entry => { entry with span := entry.span.filter f.admitsSpan }

end Filter

end Upkeep.Log
