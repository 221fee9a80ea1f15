import Herald.Http.Query
import Herald.Net.Host
import Herald.Text.Affix

/-!
# URLs of requests

What a URL says about the server that a request goes to. Slashes and backslashes
are the same, and there may be any number of them after the scheme.
-/

namespace Herald.Http

inductive Scheme where
  | http
  | https
  deriving DecidableEq, Repr

/-- The scheme of a name in any case. -/
def Scheme.ofName? (name : List Char) : Option Scheme :=
  match String.ofList (name.map Char.toLower) with
  | "http" => some .http
  | "https" => some .https
  | _ => none

/-- The server that a URL names. -/
structure Origin where
  scheme : Scheme
  host : Net.Host
  /-- The port, where it is not left to the scheme. -/
  portNumber : Option UInt16
  deriving DecidableEq, Repr

/-- The parts of a URL as they are written. -/
structure Url where
  scheme : List Char
  authority : List Char
  path : List Char
  /-- With its question mark. -/
  query : List Char
  /-- With its number sign. -/
  fragment : List Char
  deriving DecidableEq, Repr

namespace Url

def isSlash (c : Char) : Bool :=
  c = '/' || c = '\\'

/-- The text without the controls and spaces around it, and without the tabs and
line ends inside. -/
def cleaned (text : List Char) : List Char :=
  let isOuter (c : Char) : Bool := c ≤ ' '
  ((text.dropWhile isOuter).reverse.dropWhile isOuter).reverse.filter (· ∉ ['\t', '\n', '\r'])

/-- The parts of a text that is taken for a URL. -/
def ofText (text : String) : Url :=
  let text := cleaned text.toList
  let rest := ((text.dropWhile (· != ':')).drop 1).dropWhile isSlash
  let resource := rest.dropWhile fun c => !isSlash c && c ∉ ['?', '#']
  let located := resource.takeWhile (· != '#')
  { scheme := text.takeWhile (· != ':')
    authority := rest.takeWhile fun c => !isSlash c && c ∉ ['?', '#']
    path := located.takeWhile (· != '?')
    query := located.dropWhile (· != '?')
    fragment := resource.dropWhile (· != '#') }

/-- The URL with further pairs in its query. -/
def withQuery (url : Url) (pairs : List (String × String)) : Url :=
  let separator :=
    match url.query with
    | [] => "?"
    | ['?'] => ""
    | _ => "&"
  if pairs.isEmpty then url
  else { url with query := url.query ++ (separator ++ Query.encode pairs).toList }

/-- The authority without the name and the password of a user. -/
def place (url : Url) : List Char :=
  (url.authority.reverse.takeWhile (· != '@')).reverse

/-- The host, and what follows it. A colon inside brackets is part of the host. -/
def splitHost : (inBrackets : Bool) → List Char → List Char × List Char
  | _, [] => ([], [])
  | inBrackets, c :: rest =>
    if c = ':' ∧ !inBrackets then ([], c :: rest)
    else
      let (host, after) := splitHost (c = '[' || (inBrackets && c != ']')) rest
      (c :: host, after)

/-- The port after a host, where one is named. -/
def portNumber? : List Char → Option (Option UInt16)
  | [] => some none
  | [':'] => some none
  | ':' :: digits =>
    match Net.number 10 65536 digits with
    | some (n, []) => some (some (UInt16.ofNat n))
    | _ => none
  | _ => none

/-- The server that a URL names, if one can speak HTTP with it. -/
def origin? (url : Url) : Option Origin := do
  let (host, after) := splitHost false url.place
  return ⟨← Scheme.ofName? url.scheme, ← Net.Host.ofText? host, ← portNumber? after⟩

/-- The bytes of a text in a URL where some ASCII characters are escaped. -/
def sizeOf (escaped : List Char) (text : List Char) : Nat :=
  text.foldl (fun size c =>
    size + if c ≤ ' ' || 0x7F ≤ c.toNat || c ∈ escaped then 3 * c.utf8Size else 1) 0

/-- The bytes of a URL. -/
def size (url : Url) : Nat :=
  url.scheme.length + "://".length + url.place.length +
    max 1 (sizeOf "\"<>^`\x7b\x7d".toList url.path) + sizeOf "\"<>'".toList url.query +
    sizeOf "\"<>`".toList url.fragment

/-- The most bytes of a URL that a request can be sent to. -/
def maxSize : Nat := 65534

end Url

end Herald.Http
