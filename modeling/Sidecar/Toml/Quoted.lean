/-
# Quoted TOML strings

Basic strings with escapes and literal strings without, each on one line or
between triple quotes over several lines, whose line breaks are kept as they
are written.
-/
import Sidecar.Text.Ascii

namespace Sidecar.Toml

/-- What is left of the input behind something that was read. -/
abbrev Reading (α : Type) := Option (α × List Char)

/-- A character that may stand for itself in a string or a comment. -/
def isTextChar (c : Char) : Bool := c == '\t' || (0x20 ≤ c.toNat && c.toNat != 0x7F)

/-- The character with the code point that the hexadecimal digits give. -/
def scalarChar? (ds : List Char) : Option Char := do
  let n ← ds.foldl (fun n c => do return (← n) * 16 + (← Text.hexValue? c)) (some 0)
  if n < 0xD800 || (0xDFFF < n && n < 0x110000) then some (Char.ofNat n) else none

/-- The character of a one-letter escape. -/
def shortEscape? (c : Char) : Option Char :=
  if c == 'b' then some (Char.ofNat 8)
  else if c == 't' then some '\t'
  else if c == 'n' then some '\n'
  else if c == 'f' then some (Char.ofNat 12)
  else if c == 'r' then some '\r'
  else if c == 'e' then some (Char.ofNat 27)
  else if c == '"' then some '"'
  else if c == '\\' then some '\\'
  else none

/-- How many hexadecimal digits a numeric escape has. -/
def hexLength? (c : Char) : Option Nat :=
  if c == 'x' then some 2 else if c == 'u' then some 4 else if c == 'U' then some 8 else none

/-- Where the reader of a basic string stands. -/
inductive Escape where
  /-- Not in an escape. -/
  | none
  /-- Behind a backslash. -/
  | started
  /-- In a numeric escape: how many digits are owed, and those read, last first. -/
  | digits (owed : Nat) (read : List Char)
  /-- In the blanks behind a backslash at the end of a line; whether the line has ended. -/
  | folding (ended : Bool)

/-- A basic string on one line behind its opening quote. -/
def basicRest (acc : List Char) : Escape → List Char → Reading String
  | _, [] => none
  | .none, c :: r =>
    if c == '"' then some (String.ofList acc.reverse, r)
    else if c == '\\' then basicRest acc .started r
    else if isTextChar c then basicRest (c :: acc) .none r
    else none
  | .started, c :: r =>
    match hexLength? c with
    | some n => basicRest acc (.digits n []) r
    | none =>
      match shortEscape? c with
      | some x => basicRest (x :: acc) .none r
      | none => none
  | .digits owed read, c :: r =>
    if owed ≤ 1 then
      match scalarChar? (c :: read).reverse with
      | some x => basicRest (x :: acc) .none r
      | none => none
    else basicRest acc (.digits (owed - 1) (c :: read)) r
  | .folding _, _ :: _ => none

/-- A literal string on one line behind its opening quote. -/
def literalRest (acc : List Char) : List Char → Reading String
  | [] => none
  | c :: r =>
    if c == '\'' then some (String.ofList acc.reverse, r)
    else if isTextChar c then literalRest (c :: acc) r
    else none

/-- The number of quotes in front, up to five. -/
def quotesInFront (q : Char) (cs : List Char) : Nat := ((cs.take 5).takeWhile (· == q)).length

/-- A basic string over several lines behind its opening quotes. -/
def longBasicRest (acc : List Char) : Escape → List Char → Reading String
  | _, [] => none
  | .none, c :: r =>
    if c == '"' then
      let n := quotesInFront '"' (c :: r)
      if 3 ≤ n then some (String.ofList (List.replicate (n - 3) '"' ++ acc).reverse, r.drop (n - 1))
      else longBasicRest (c :: acc) .none r
    else if c == '\\' then longBasicRest acc .started r
    else if c == '\n' then longBasicRest (c :: acc) .none r
    else if c == '\r' then (if r.head? == some '\n' then longBasicRest (c :: acc) .none r else none)
    else if isTextChar c then longBasicRest (c :: acc) .none r
    else none
  | .started, c :: r =>
    if c == ' ' || c == '\t' then longBasicRest acc (.folding false) r
    else if c == '\n' then longBasicRest acc (.folding true) r
    else if c == '\r' then
      (if r.head? == some '\n' then longBasicRest acc (.folding true) r else none)
    else
      match hexLength? c with
      | some n => longBasicRest acc (.digits n []) r
      | none =>
        match shortEscape? c with
        | some x => longBasicRest (x :: acc) .none r
        | none => none
  | .digits owed read, c :: r =>
    if owed ≤ 1 then
      match scalarChar? (c :: read).reverse with
      | some x => longBasicRest (x :: acc) .none r
      | none => none
    else longBasicRest acc (.digits (owed - 1) (c :: read)) r
  | .folding ended, c :: r =>
    if c == ' ' || c == '\t' then longBasicRest acc (.folding ended) r
    else if c == '\n' then longBasicRest acc (.folding true) r
    else if c == '\r' then
      (if r.head? == some '\n' then longBasicRest acc (.folding ended) r else none)
    else if !ended then none
    else if c == '"' then
      let n := quotesInFront '"' (c :: r)
      if 3 ≤ n then some (String.ofList (List.replicate (n - 3) '"' ++ acc).reverse, r.drop (n - 1))
      else longBasicRest (c :: acc) .none r
    else if c == '\\' then longBasicRest acc .started r
    else if isTextChar c then longBasicRest (c :: acc) .none r
    else none

/-- A literal string over several lines behind its opening quotes. -/
def longLiteralRest (acc : List Char) : List Char → Reading String
  | [] => none
  | c :: r =>
    if c == '\'' then
      let n := quotesInFront '\'' (c :: r)
      if 3 ≤ n then some (String.ofList (List.replicate (n - 3) '\'' ++ acc).reverse, r.drop (n - 1))
      else longLiteralRest (c :: acc) r
    else if c == '\n' then longLiteralRest (c :: acc) r
    else if c == '\r' then (if r.head? == some '\n' then longLiteralRest (c :: acc) r else none)
    else if isTextChar c then longLiteralRest (c :: acc) r
    else none

/-- A line break right behind opening triple quotes belongs to them. -/
def dropFirstBreak : List Char → List Char
  | '\n' :: r => r
  | '\r' :: '\n' :: r => r
  | r => r

/-- A quoted string value in front. -/
def quoted? : List Char → Reading String
  | '"' :: '"' :: '"' :: r => longBasicRest [] .none (dropFirstBreak r)
  | '"' :: r => basicRest [] .none r
  | '\'' :: '\'' :: '\'' :: r => longLiteralRest [] (dropFirstBreak r)
  | '\'' :: r => literalRest [] r
  | _ => none

/-- A quoted string in front that stays on one line. -/
def shortQuoted? : List Char → Reading String
  | '"' :: '"' :: '"' :: _ => none
  | '\'' :: '\'' :: '\'' :: _ => none
  | cs => quoted? cs

/-- What is left behind a string on one line, however flawed: its closing quote or the end of the
line ends it. Where a backslash escapes, the quote behind one is no end. -/
def skipShort (quote : Char) (escapes : Bool) : (escaped : Bool) → List Char → List Char
  | _, [] => []
  | escaped, c :: r =>
    if c == '\n' then c :: r
    else if !escaped && c == quote then r
    else skipShort quote escapes (escapes && !escaped && c == '\\') r

/-- What is left behind a string over several lines, however flawed. -/
def skipLong (quote : Char) (escapes : Bool) : (escaped : Bool) → List Char → List Char
  | _, [] => []
  | escaped, c :: r =>
    let n := quotesInFront quote (c :: r)
    if !escaped && 3 ≤ n then r.drop (n - 1)
    else skipLong quote escapes (escapes && !escaped && c == '\\') r

/-- What is left behind a quoted string in front, however flawed. -/
def skipQuoted : List Char → List Char
  | '"' :: '"' :: '"' :: r => skipLong '"' true false r
  | '"' :: r => skipShort '"' true false r
  | '\'' :: '\'' :: '\'' :: r => skipLong '\'' false false r
  | '\'' :: r => skipShort '\'' false false r
  | r => r

end Sidecar.Toml
