import ControlPlane.Log.Directive

/-! Log filters: directives, of which the last one for a scope holds. -/

namespace ControlPlane.Log

/-- The directives of a filter, one for each scope. -/
structure Filter where
  /-- The directives that hold whatever the spans around a message are. -/
  static : List Directive
  /-- The directives that depend on the spans around a message. -/
  dynamic : List Directive
deriving Repr

namespace Filter

/-- Adds a directive in the place of one with the same scope. -/
def insert (directives : List Directive) (directive : Directive) : List Directive :=
  if directives.any (·.scope == directive.scope) then
    directives.map fun old => if old.scope = directive.scope then directive else old
  else directives ++ [directive]

/-- One directive for each scope, the last of those given. -/
def lastOfEach (directives : List Directive) : List Directive := directives.foldl insert []

/-- The filter with these directives; if there are none, errors are shown. -/
def ofDirectives (directives : List Directive) : Filter :=
  let (dynamic, plain) := directives.partition fun directive => directive.scope.isDynamic
  -- A scope that asks only whether fields exist counts on both sides.
  let static := plain ++ dynamic.filter fun directive => directive.scope.isStatic
  if static.isEmpty && dynamic.isEmpty then ⟨[⟨{}, .error⟩], []⟩
  else ⟨lastOfEach static, lastOfEach dynamic⟩

/-- The filter that a text of directives between commas gives. -/
def parse? (text : String) : Option Filter := do
  let pieces := (Text.cutAt (· == ',') text.toList).filter (!·.isEmpty)
  return ofDirectives (← pieces.mapM fun piece => Directive.parse? (String.ofList piece))

/-- The texts of the directives. -/
def texts (filter : Filter) : List String := (filter.static ++ filter.dynamic).map Directive.text

end Filter

end ControlPlane.Log
