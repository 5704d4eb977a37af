/-
# File paths

Paths are texts. Joining is textual: an absolute right side replaces the left
one, an empty right side adds a slash at the end, and nothing is normalised.
-/
import Sidecar.Text.Ascii

namespace Sidecar.Path

def isAbsolute (p : String) : Bool := p.toList.head? == some '/'

/-- The path `right` as seen from `left`. -/
def join (left right : String) : String :=
  if isAbsolute right then right
  else if left.isEmpty || left.toList.getLast? == some '/' then left ++ right
  else left ++ "/" ++ right

/-- The named parts of a path, in order: no empty parts, no `.`. -/
def components (p : String) : List String :=
  ((Text.splitAll '/' p.toList).map String.ofList).filter fun c => c != "" && c != "."

/-- The part of the last name behind its last dot, if there is one that does not start it. -/
def extension? (p : String) : Option String :=
  match (components p).getLast? with
  | none => none
  | some name =>
    if name == ".." then none
    else
      match (Text.splitAll '.' name.toList).reverse with
      | last :: front =>
        if front.isEmpty || front.all (·.isEmpty) && front.length == 1 then none
        else some (String.ofList last)
      | [] => none

/-- What lies above the last name of a path; above a path that is just a dot lies the path
without any name. -/
def parent? (p : String) : Option String :=
  match (components p).reverse with
  | [] => if p.isEmpty || isAbsolute p then none else some ""
  | _ :: above =>
    let text := String.intercalate "/" above.reverse
    some (if isAbsolute p then "/" ++ text else text)

end Sidecar.Path
