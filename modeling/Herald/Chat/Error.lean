/-!
# Errors of posting to the chat
-/

namespace Herald

inductive PostError where
  /-- A request got no answer, or one that does not name what it created. -/
  | unanswered
  /-- The chat answered with a status that is no success. -/
  | status (code : Nat) (text : String)
  | other (text : String)
  deriving DecidableEq, Repr

def PostError.message : PostError → String
  | .unanswered => "request failed: no usable answer"
  | .status code text => "Mattermost returned HTTP " ++ toString code ++ ": " ++ text
  | .other text => text

end Herald
