/-
# Reading URIs

A URI is taken apart as far as its path needs: the scheme, the host in so far
as it is nobody, this machine or another one, and the path. Blanks and
controls around the text and tabs and line breaks within it do not count. The
well-known schemes of the web and `file` always have a host part behind the
scheme, even if slashes are missing or turned round; other schemes have one
behind two slashes, and without a slash their path has no segments.

Dots in paths are resolved on the way: `.` goes, and `..` takes the segment
before it along, but never a drive letter.

Key definitions: `Uri`, `Uri.parse?`.
-/
import Sidecar.Uri.Host

namespace Sidecar

/-- As much of a URI as its path needs. A path without segments is absent. -/
structure Uri where
  scheme : String
  host : Uri.Host
  path : Option (List Char)
  deriving DecidableEq, Repr

namespace Uri

/-- How the text behind a scheme is read. -/
inductive Family where
  | file
  | web
  | plain
  deriving DecidableEq, Repr

def familyOf (scheme : String) : Family :=
  if scheme == "file" then .file
  else if ["http", "https", "ws", "wss", "ftp"].contains scheme then .web
  else .plain

/-- Whether the family takes a backslash for a slash. -/
def Family.turnsSlash : Family → Bool
  | .plain => false
  | _ => true

def Family.isSlash (f : Family) (c : Char) : Bool := c == '/' || (f.turnsSlash && c == '\\')

/-- Tabs and line breaks do not count within a URI. -/
def isWithin (c : Char) : Bool := c == '\t' || c == '\n' || c == '\r'

/-- The end of a path. -/
def isTailMark (c : Char) : Bool := c == '?' || c == '#'

/-! ### Paths -/

/-- A letter and a colon. -/
def isDrive : List Char → Bool
  | [c, ':'] => Text.isLetter c
  | _ => false

/-- A letter and a colon or a bar. -/
def isDriveName : List Char → Bool
  | [c, d] => Text.isLetter c && (d == ':' || d == '|')
  | _ => false

def endsWithSlash (p : List Char) : Bool := p.getLast? == some '/'

/-- The text up to the last slash, slash included, and the text behind it. -/
def splitLastSlash (p : List Char) : List Char × List Char :=
  let tail := (p.reverse.takeWhile (· != '/')).reverse
  (p.take (p.length - tail.length), tail)

/-- Two dots, each possibly percent encoded. -/
def isDoubleDot (s : List Char) : Bool :=
  ["..", "%2e%2e", "%2e.", ".%2e"].contains (String.ofList (s.map Text.lowerChar))

def isSingleDot (s : List Char) : Bool :=
  [".", "%2e"].contains (String.ofList (s.map Text.lowerChar))

/-- A path that ends in a slash without it, unless it is the first slash or follows a drive. -/
def dropLastSlash (p : List Char) : List Char :=
  let (front, name) := splitLastSlash p.dropLast
  if endsWithSlash p && !front.isEmpty && !isDrive name then p.dropLast else p

/-- A path without its last segment; a drive stays. -/
def shorten (f : Family) (p : List Char) : List Char :=
  let (front, name) := splitLastSlash p
  if f == .file && isDrive name then p else front

/-- A path in the making. -/
structure Trail where
  text : List Char
  /-- Whether the slash in front of the text was put there, and is no part of what is read. -/
  rooted : Bool
  /-- Whether the path turned out to start with a drive. -/
  onDrive : Bool := false

/-- Whether nothing is there yet but the slash in front. -/
def Trail.isBare (t : Trail) : Bool := t.text == ['/']

/-- Adds a segment; `slash` if one follows. A drive behind a slash that was put there is written
with a colon. -/
def Trail.add (t : Trail) (f : Family) (segment : List Char) (slash : Bool) : Trail :=
  let ending := if slash then ['/'] else []
  if isDoubleDot segment then
    let p := shorten f (dropLastSlash t.text)
    { t with text := if slash && !endsWithSlash p then p ++ ['/'] else p }
  else if isSingleDot segment then
    { t with text := if endsWithSlash t.text then t.text else t.text ++ ['/'] }
  else if f == .file && t.rooted && t.isBare && isDriveName segment then
    { t with text := t.text ++ segment.take 1 ++ ':' :: ending, onDrive := true }
  else { t with text := t.text ++ segment ++ ending }

/-- Whether a tab or line break in a file path, with `rest` behind it, leaves a slash: behind a
drive that is all there is, and before more of the segment. -/
def Trail.breaksDrive (f : Family) (t : Trail) (segment rest : List Char) : Bool :=
  f == .file && t.isBare && isDrive segment &&
    match rest.dropWhile isWithin with
    | [] => false
    | c :: _ => !(f.isSlash c || isTailMark c)

/-- Adds the segments of a text; `segment` holds the one that has begun, last character first. -/
def Trail.follow (f : Family) : Trail → (segment : List Char) → List Char → Trail
  | t, segment, [] => t.add f segment.reverse false
  | t, segment, c :: r =>
    if isWithin c then
      follow f t (if t.breaksDrive f segment.reverse r then '/' :: segment else segment) r
    else if f.isSlash c then follow f (t.add f segment.reverse true) [] r
    else if isTailMark c then t.add f segment.reverse false
    else follow f t (c :: segment) r

/-- The path of a text; `rooted` if it lacks the slash in front. In a file URI all leading slashes
count as one. -/
def pathFrom (f : Family) (rooted : Bool) (cs : List Char) : Trail :=
  let t := Trail.follow f { text := if rooted then ['/'] else [], rooted } [] cs
  if f == .file then { t with text := '/' :: t.text.dropWhile (· == '/') } else t

/-! ### Hosts -/

/-- What stands before an `@` in the host part, and what is behind it. -/
def splitUser (f : Family) (cs : List Char) : Option (List Char) × List Char :=
  let authority := cs.takeWhile fun c => !(f.isSlash c || isTailMark c)
  let rest := cs.drop authority.length
  match authority.reverse.dropWhile (· != '@') with
  | [] => (none, cs)
  | _ :: user =>
    (some user.reverse, authority.drop (user.length + 1) ++ rest)

/-- Splits off a host name; a colon inside brackets belongs to it. -/
def splitHost (f : Family) : (inBrackets : Bool) → List Char → List Char × List Char
  | _, [] => ([], [])
  | inBrackets, c :: r =>
    if (c == ':' && !inBrackets) || f.isSlash c || isTailMark c then ([], c :: r)
    else
      let (name, rest) := splitHost f (if c == '[' then true else if c == ']' then false else inBrackets) r
      (c :: name, rest)

/-- The text behind a port, if the port is one. -/
def afterPort? (cs : List Char) : Option (List Char) :=
  let ds := cs.takeWhile Text.isDigit
  let rest := cs.drop ds.length
  if 65535 < Text.digitsValue ds then none
  else
    match rest with
    | [] => some rest
    | c :: _ => if c == '/' || c == '\\' || isTailMark c then some rest else none

/-- Whether there is a user to speak of: more than a lone colon. -/
def namesUser (user : Option (List Char)) : Bool :=
  match user with
  | none => false
  | some u => !u.isEmpty && u != [':']

/-- The URI behind the slashes in front of its host part. -/
def withAuthority? (scheme : String) (f : Family) (cs : List Char) : Option Uri := do
  let (user, rest) := splitUser f cs
  if user == some [] then
    if let c :: _ := rest then
      if f.isSlash c || isTailMark c then failure
  let (name, rest) := splitHost f false rest
  if name.isEmpty && (f == .web || rest.head? == some ':' || namesUser user) then failure
  let rest ← match rest with
    | ':' :: r => afterPort? r
    | r => some r
  let host : Host ←
    if name.isEmpty then some .none
    else if f == .plain then some (if name == localhost then .localhost else .other)
    else nameHost? name
  let path : List Char :=
    match f, rest with
    | .plain, [] => []
    | .plain, c :: _ =>
      if isTailMark c then []
      else (pathFrom f (c != '/') rest).text
    | _, [] => ['/']
    | _, c :: r => (pathFrom f true (if f.isSlash c then r else rest)).text
  return ⟨scheme, host, if path.isEmpty then none else some path⟩

/-- The path of a file behind its host, and whether it starts with a drive. -/
def filePath (host : Host) (cs : List Char) : Trail :=
  match host, cs.dropWhile isWithin with
  | .other, c :: r => pathFrom .file true (if Family.file.isSlash c then r else c :: r)
  | .other, [] => pathFrom .file true []
  | _, cs => pathFrom .file false cs

/-- The text behind a slash in front, if there is one. -/
def behindSlash? (cs : List Char) : Option (List Char) :=
  match cs.dropWhile isWithin with
  | c :: r => if Family.file.isSlash c then some r else none
  | [] => none

/-- The URI of a file behind two slashes. A path that starts with a drive has no host. -/
def hostedFile? (cs : List Char) : Option Uri :=
  let isHostChar (c : Char) := !(Family.file.isSlash c || isTailMark c)
  let name := (cs.takeWhile isHostChar).filter fun c => !isWithin c
  if isDriveName name then some ⟨"file", .none, some (pathFrom .file true cs).text⟩
  else do
    let host : Host ← if name.isEmpty then some .none else nameHost? name
    let t := filePath host (cs.dropWhile isHostChar)
    return ⟨"file", if t.onDrive then .none else host, some t.text⟩

/-- The URI of a file behind its scheme; tabs and line breaks are still there. -/
def fileUri? (cs : List Char) : Option Uri :=
  match behindSlash? cs with
  | none => some ⟨"file", .none, some (pathFrom .file true cs).text⟩
  | some r =>
    match behindSlash? r with
    | none => some ⟨"file", .none, some (pathFrom .file false cs).text⟩
    | some r => hostedFile? r

/-- The URI of a scheme that is not well known. -/
def plainUri (scheme : String) (cs : List Char) : Option Uri :=
  match cs with
  | '/' :: '/' :: r => withAuthority? scheme .plain r
  | '/' :: r => some ⟨scheme, .none, some (pathFrom .plain true r).text⟩
  | _ => some ⟨scheme, .none, none⟩

/-! ### The whole -/

def isAround (c : Char) : Bool := c.toNat ≤ 0x20

/-- A text without blanks and controls around it. -/
def clean (cs : List Char) : List Char :=
  ((cs.dropWhile isAround).reverse.dropWhile isAround).reverse

def isSchemeChar (c : Char) : Bool :=
  Text.isLetter c || Text.isDigit c || c == '+' || c == '-' || c == '.'

/-- A scheme and what follows its colon. -/
def splitScheme? (cs : List Char) : Option (String × List Char) :=
  match Text.splitFirst ':' cs with
  | none => none
  | some (front, rest) =>
    let name := front.filter fun c => !isWithin c
    if name.all isSchemeChar && name.head?.any Text.isLetter then
      some (String.ofList (name.map Text.lowerChar), rest)
    else none

/-- The URI that a text writes. -/
def parse? (s : String) : Option Uri := do
  let (scheme, rest) ← splitScheme? (clean s.toList)
  let counting := rest.filter fun c => !isWithin c
  match familyOf scheme with
  | .file => fileUri? rest
  | .web => withAuthority? scheme .web (counting.dropWhile Family.web.isSlash)
  | .plain => plainUri scheme counting

end Uri

end Sidecar
