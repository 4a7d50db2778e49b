import RateCard.Log.Directive

/-!
# Log filters

Which events are shown. Of the directives that concern an event the most specific one decides: the
one with the longest source, then one with a field. Directives about spans and about values of
fields concern no event, as none is reported within a span.
-/
namespace RateCard.Log

abbrev Filter := List Directive

/-- The filter that directives make; without any, errors are shown. -/
def Filter.ofDirectives (directives : List Directive) : Filter :=
  if directives.isEmpty then [⟨none, none, none, false, some .error⟩] else directives

/-- A filter text, unless one of its directives is malformed. -/
def filter? (text : String) : Option Filter :=
  (((text.splitOn ",").filter (!·.isEmpty)).mapM Directive.ofString?).map Filter.ofDirectives

def upTo (level : Level) : Filter := [⟨none, none, none, false, some level⟩]

/-- The names of what an event reports. -/
def Event.fieldNames (e : Event) : List String := "message" :: e.fields.map (·.1)

def Directive.concerns (d : Directive) (e : Event) : Bool :=
  d.span.isNone && !d.valued &&
    d.source.all (·.isPrefixOf e.source) && d.field.all e.fieldNames.contains

/-- How closely a directive describes its events: by the length of its source, which may be empty,
and then by its field. -/
def Directive.weight (d : Directive) : Nat × Nat :=
  (d.source.elim 0 (·.utf8ByteSize + 1), if d.field.isSome then 1 else 0)

/-- Whether a directive goes before another one. Of two with equal weight that concern an event only
the names of their fields can differ, and the greater name goes first; of two for the same events
it is the later one. -/
def Directive.yieldsTo (d later : Directive) : Bool :=
  match compareLex (compareOn (·.weight.1)) (compareOn (·.weight.2)) d later with
  | .lt => true
  | .gt => false
  | .eq => d.field.getD "" ≤ later.field.getD ""

/-- The directive that decides on an event. -/
def decisive? (f : Filter) (e : Event) : Option Directive :=
  (f.filter (·.concerns e)).foldl (fun best? d =>
    match best? with
    | some best => if best.yieldsTo d then some d else best?
    | none => some d) none

def shows (f : Filter) (e : Event) : Bool :=
  match (decisive? f e).bind (·.limit) with
  | some limit => e.level.rank ≤ limit.rank
  | none => false

end RateCard.Log
