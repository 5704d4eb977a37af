/-
# References to the environment

A reference to a variable is a dollar sign, an opening brace, a name and the next closing brace,
and stands for the variable's value. The value is not looked at again, an
unset or empty name stands for nothing, and an opening without a closing brace
behind it is ordinary text.

Key definitions: `Environment`, `expand`, `references`.
-/
namespace Sidecar

/-- The variables that are set. -/
abbrev Environment := List (String × String)

namespace Environment

/-- What is left of a text behind another one that it starts with. -/
def behind? : (front text : List Char) → Option (List Char)
  | [], text => some text
  | _ :: _, [] => none
  | c :: front, d :: text => if c == d then behind? front text else none

/-- The value that a name with an equals sign in it finds: a variable is kept as its name, an
equals sign and its value, and any text in front of an equals sign there finds what is behind it. -/
def split? (name : String) (e : String × String) : Option String :=
  (behind? (name.toList ++ ['=']) (e.1.toList ++ '=' :: e.2.toList)).map String.ofList

/-- The value of a variable. -/
def get? (env : Environment) (name : String) : Option String :=
  match env.find? fun e => e.1 == name with
  | some e => some e.2
  | none => env.findSome? (split? name)

/-- What a reference to the name stands for. -/
def value (env : Environment) (name : List Char) : List Char :=
  if name.isEmpty then [] else ((env.get? (String.ofList name)).getD "").toList

end Environment

namespace Config

/-- Expands the rest of a text; `name` holds the name of a reference that has begun, last
character first, and `acc` the text so far, last character first. -/
def expandOnto (value : List Char → List Char) :
    (name : Option (List Char)) → (acc : List Char) → List Char → List Char
  | none, acc, [] => acc.reverse
  | some name, acc, [] => acc.reverse ++ '$' :: '\x7b' :: name.reverse
  | some name, acc, c :: r =>
    if c == '\x7d' then expandOnto value none ((value name.reverse).reverse ++ acc) r
    else expandOnto value (some (c :: name)) acc r
  | none, acc, c :: r =>
    if c == '$' then
      match r with
      | [] => (c :: acc).reverse
      | d :: r' =>
        if d == '\x7b' then expandOnto value (some []) acc r'
        else expandOnto value none (c :: acc) (d :: r')
    else expandOnto value none (c :: acc) r

/-- The text with the values of its references in their place. -/
def expandChars (value : List Char → List Char) (cs : List Char) : List Char :=
  expandOnto value none [] cs

/-- The string with the values of its references in their place. -/
def expand (env : Environment) (s : String) : String :=
  String.ofList (expandChars env.value s.toList)

/-- The names that references in the rest of a text give. -/
def referencesFrom : (name : Option (List Char)) → List Char → List (List Char)
  | _, [] => []
  | some name, c :: r =>
    if c == '\x7d' then name.reverse :: referencesFrom none r
    else referencesFrom (some (c :: name)) r
  | none, c :: r =>
    if c == '$' then
      match r with
      | [] => []
      | d :: r' =>
        if d == '\x7b' then referencesFrom (some []) r' else referencesFrom none (d :: r')
    else referencesFrom none r

/-- The names that the references of a text give. -/
def references (s : String) : List String := (referencesFrom none s.toList).map String.ofList

end Config

end Sidecar
