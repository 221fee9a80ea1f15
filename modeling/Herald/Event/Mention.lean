import Herald.Id
import Herald.Text.Affix
import Herald.Text.Blank

/-!
# Mentions in comments

A comment mentions an account by a token that starts with a bracket and a tilde
and ends at the next closing bracket, as in [~ann] or [~accountid:12].
-/

namespace Herald.Mention

/-- The insides of the tokens in a text, in order. `token` is the inside of the
token that was open before the text, latest character first. A token that does
not end is none. -/
def tokens : (token : Option (List Char)) → List Char → List (List Char)
  | _, [] => []
  | none, '[' :: '~' :: rest => tokens (some []) rest
  | none, _ :: rest => tokens none rest
  | some inside, c :: rest =>
    if c = ']' then inside.reverse :: tokens none rest
    else tokens (some (c :: inside)) rest

/-- The account that the inside of a token names. -/
def account (inside : List Char) : List Char :=
  let name := Text.trim inside
  (Text.after? "accountid:".toList name).getD name

/-- Appends an account to those that are known, unless it is empty or known. -/
def add (known : List AccountId) (account : List Char) : List AccountId :=
  let id : AccountId := ⟨String.ofList account⟩
  if account.isEmpty ∨ id ∈ known then known else known ++ [id]

/-- The accounts that a comment mentions, in the order of their first mention. -/
def all (body : String) : List AccountId :=
  ((tokens none body.toList).map account).foldl add []

end Herald.Mention
