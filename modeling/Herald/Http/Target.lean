import Herald.Text.Affix

/-!
# Targets of requests

A request says what it is for by a path and a query. In absolute form a scheme
and an authority stand in front of them. A fragment is dropped.
-/

namespace Herald.Http

structure Target where
  path : String
  query : String
  deriving DecidableEq, Repr

namespace Target

def isSchemeChar (c : Char) : Bool :=
  c.isAlphanum || c ∈ ['+', '-', '.']

/-- What follows the scheme and the authority of a target in absolute form. -/
def afterAuthority? (text : List Char) : Option (List Char) :=
  (Text.after? "://".toList (text.dropWhile isSchemeChar)).map
    (·.dropWhile fun c => c ∉ ['/', '?', '#'])

/-- A path and a query, separated by the first question mark. -/
def ofResource (text : List Char) : Target :=
  let text := text.takeWhile (· != '#')
  ⟨String.ofList (text.takeWhile (· != '?')),
    String.ofList ((text.dropWhile (· != '?')).drop 1)⟩

/-- The target that a text names. In absolute form an empty path is the root. -/
def ofText (text : String) : Target :=
  match afterAuthority? text.toList with
  | none => ofResource text.toList
  | some resource =>
    let target := ofResource resource
    if target.path.isEmpty then { target with path := "/" } else target

end Target

end Herald.Http
