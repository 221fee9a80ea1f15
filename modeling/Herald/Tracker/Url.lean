import Herald.Text.Affix
import Herald.Tracker.Error

/-!
# The URLs of requests to a tracker

Credentials must never leave for a host that a payload names: an absolute URL is
only taken where it lies under the base URL of the instance.
-/

namespace Herald

/-- The text is a URL with a host of its own. -/
def isAbsoluteUrl (path : List Char) : Bool :=
  Text.startsWith "https://".toList path || Text.startsWith "http://".toList path

/-- What follows the base is nothing or starts a new path segment. -/
def endsBase : List Char → Bool
  | [] => true
  | c :: _ => c == '/'

/-- The absolute URL lies under the base. -/
def liesUnder (base path : List Char) : Bool :=
  match Text.after? base path with
  | some rest => endsBase rest
  | none => false

/-- The URL of a request for a path, or for an absolute URL under the base. -/
def resolveUrl (baseUrl path : String) : Except ApiError String :=
  let base := Text.withoutTrailingSlashes baseUrl
  if isAbsoluteUrl path.toList then
    if liesUnder base.toList path.toList then .ok path
    else .error (.permanent ("refusing request outside " ++ base ++ ": " ++ path))
  else .ok (base ++ "/rest/api/" ++ String.ofList (path.toList.dropWhile (· == '/')))

end Herald
