/-
# Document selectors

Which documents a session serves: those with a given URI scheme and a given
language.
-/
import Sidecar.Text.Ascii

namespace Sidecar

/-- The language of rule files. -/
def ruleLanguage : String := "yara"

/-- A scheme and a language. -/
structure Selector where
  scheme : String := "file"
  language : String := ruleLanguage
  deriving DecidableEq, Repr

namespace Selector

/-- Whether the session serves the document. Schemes are the same up to the case of letters. -/
def serves (s : Selector) (uri language : String) : Bool :=
  match Text.splitFirst ':' uri.toList with
  | none => false
  | some (scheme, _) => Text.sameLetters scheme s.scheme.toList && language == s.language

/-- The language of files with the given extension. -/
def languageOf? (extension : String) : Option String :=
  match Text.lower extension with
  | "yar" => some ruleLanguage
  | "yara" => some ruleLanguage
  | _ => none

end Selector

end Sidecar
