/-!
# Texts divided by a character

A text is a list of characters here, or the list of its bytes.
-/

namespace TriggerScript.Text

variable {α : Type} [DecidableEq α]

/-- The parts of a text between the places where a character stands. -/
def splitOn (separator : α) : List α → List (List α)
  | [] => [[]]
  | c :: rest =>
    if c = separator then [] :: splitOn separator rest
    else match splitOn separator rest with
      | first :: others => (c :: first) :: others
      | [] => [[c]]

/-- The parts that are not empty. -/
def partsBetween (separator : α) (text : List α) : List (List α) :=
  (splitOn separator text).filter (· ≠ [])

end TriggerScript.Text
