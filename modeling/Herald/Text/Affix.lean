/-!
# Leading and trailing parts of a text
-/

namespace Herald.Text

/-- What follows `lead` in a list that starts with it. -/
def after? {α : Type} [DecidableEq α] : (lead text : List α) → Option (List α)
  | [], text => some text
  | _ :: _, [] => none
  | p :: lead, c :: text => if p = c then after? lead text else none

/-- The text starts with `lead`. -/
def startsWith {α : Type} [DecidableEq α] (lead text : List α) : Bool :=
  (after? lead text).isSome

/-- The text without the run of `c` at its end. -/
def dropTrailing (c : Char) (text : List Char) : List Char :=
  (text.reverse.dropWhile (· == c)).reverse

/-- The text before the last `c`, where there is one. -/
def beforeLast? (c : Char) (text : List Char) : Option (List Char) :=
  match text.reverse.dropWhile (· != c) with
  | [] => none
  | _ :: before => some before.reverse

/-- A base URL without the slashes at its end. -/
def withoutTrailingSlashes (url : String) : String :=
  String.ofList (dropTrailing '/' url.toList)

theorem after?_eq_some_iff {α : Type} [DecidableEq α] {lead text rest : List α} :
    after? lead text = some rest ↔ text = lead ++ rest := by
  induction lead generalizing text with
  | nil => simp [after?, eq_comm]
  | cons p lead ih =>
    cases text with
    | nil => simp [after?]
    | cons c text =>
      by_cases h : p = c
      · simp [after?, h, ih]
      · simp [after?, h, Ne.symm h]

end Herald.Text
