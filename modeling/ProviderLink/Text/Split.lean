/-
Cutting a text at a separator: into all pieces between its occurrences,
of which there is at least one, or into what stands before the first and
what stands after it.
-/
namespace ProviderLink.Text

variable {α : Type} [DecidableEq α]

/-- The pieces of a list between the occurrences of a separator. -/
def pieces (sep : α) : List α → List (List α)
  | [] => [[]]
  | c :: cs =>
    if c = sep then [] :: pieces sep cs
    else match pieces sep cs with
    | [] => [[c]]
    | p :: ps => (c :: p) :: ps

/-- What stands before the first occurrence of a separator, and what stands after it. -/
def cut? (sep : α) : List α → Option (List α × List α)
  | [] => none
  | c :: cs =>
    if c = sep then some ([], cs)
    else (cut? sep cs).map fun (before, after) => (c :: before, after)

/-- What follows a given beginning. -/
def after? : (start : List α) → List α → Option (List α)
  | [], cs => some cs
  | _ :: _, [] => none
  | s :: ss, c :: cs => if s = c then after? ss cs else none

end ProviderLink.Text
