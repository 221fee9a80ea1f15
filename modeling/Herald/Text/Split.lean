/-!
# Parts between separators
-/

namespace Herald.Text

/-- The parts of a list between separators. There is always one. -/
def splitOn {α : Type} [DecidableEq α] (separator : α) : List α → List (List α)
  | [] => [[]]
  | a :: rest =>
    match splitOn separator rest with
    | part :: parts => if a = separator then [] :: part :: parts else (a :: part) :: parts
    | [] => [[a]]

end Herald.Text
