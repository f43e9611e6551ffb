import PlatformBridge.Log.Directive

/-!
Which events are kept. A filter is a list of directives, and of those that are about an event one
decides: the closest, and of equally close ones the last. An event that no directive is about is
dropped.

A filter is read in one of two ways. Strictly, each of its directives has to be one, and a filter
of none drops everything. Leniently, what is no directive is left out and reported, and a filter of
none keeps errors.
-/

namespace PlatformBridge.Log

/-- A filter: its directives in the order in which they were given. -/
structure Filter where
  directives : List Directive
  deriving DecidableEq, Repr, Inhabited

/-- A part of a filter that was left out. -/
structure Omission where
  piece : String
  error : Directive.Error
  deriving DecidableEq, Repr, Inhabited

def Omission.message (omission : Omission) : String :=
  s!"ignoring `{omission.piece}`: {omission.error.message}"

namespace Filter

/-- The texts between commas that are not empty. -/
def pieces (text : String) : List String :=
  ((text.toList.splitOn ',').filter fun piece => !piece.isEmpty).map String.ofList

/-- The filter that a text spells, if each of its pieces is a directive. -/
def ofText? (text : String) : Option Filter :=
  match (pieces text).mapM Directive.ofText with
  | .ok directives => some ⟨directives⟩
  | .error _ => none

/-- The filter that keeps errors, of whatever target. -/
def errors : Filter := ⟨[{ verbosity := .error }]⟩

/-- The directive that a piece is, with what is left out if it is none. -/
def readPiece (piece : String) : Option Directive × Option Omission :=
  match Directive.ofText piece with
  | .ok directive => (some directive, none)
  | .error error => (none, some ⟨piece, error⟩)

/-- The filter of the directives in a text, and what was left out of it. -/
def ofText (text : String) : Filter × List Omission :=
  let read := (pieces text).map readPiece
  let directives := read.filterMap Prod.fst
  (if directives.isEmpty then errors else ⟨directives⟩, read.filterMap Prod.snd)

def deciding? (filter : Filter) (event : Event) : Option Directive :=
  (filter.directives.filter (·.applies event)).foldl (fun best d =>
    match best with
    | none => some d
    | some b => if b.yieldsTo d then some d else some b) none

def keeps (filter : Filter) (event : Event) : Bool :=
  match filter.deciding? event with
  | none => false
  | some d => d.verbosity.keeps event.level

/-- **The filter in force,** with what was left out of it: the one of the environment if it is set
and spells one, else the given. -/
def select (environment : Option String) (given : String) : Filter × List Omission :=
  match environment.bind ofText? with
  | some filter => (filter, [])
  | none => ofText given

end Filter

end PlatformBridge.Log
