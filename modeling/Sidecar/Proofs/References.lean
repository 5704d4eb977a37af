/-
# What a configuration depends on

The configuration that a text gives depends on the environment only through
the references in the string values of the document, wherever in its tables
and arrays they stand: environments that agree on the variables named there
give the same configuration, or the same error. A value that a reference
brings in is not looked at again, so it brings in nothing else.

Expansion rewrites the string values of the document and nothing but these
(`Toml.Rewritten`); this relation has one result (`Toml.Rewritten.eq`), so it
says all that expansion does to a document. Where no string value has a
reference, the document stays as it is, and the configuration is the one it
would give without expansion.

Key definitions: `Toml.Rewritten`, `Config.ReadsReferences`.
Key theorems: `Config.expand_congr`, `Toml.Rewritten.eq`,
`Config.configuration_reads_references`.
-/
import Sidecar.Config.Basic
import Sidecar.Proofs.Expansion

namespace Sidecar

namespace Toml

mutual

/-- The second document is the first with its string values rewritten: it has the same shape, the
same keys, and all other values. -/
inductive Rewritten (f : String → String) : Toml → Toml → Prop where
  | str (s : String) : Rewritten f (.str s) (.str (f s))
  | int (i : Int) : Rewritten f (.int i) (.int i)
  | float (x : Binary64) : Rewritten f (.float x) (.float x)
  | bool (b : Bool) : Rewritten f (.bool b) (.bool b)
  | moment (t : String) : Rewritten f (.moment t) (.moment t)
  | arr {xs ys : List Toml} (items : RewrittenItems f xs ys) : Rewritten f (.arr xs) (.arr ys)
  | table {es fs : List (String × Toml)} (entries : RewrittenEntries f es fs) :
      Rewritten f (.table es) (.table fs)

inductive RewrittenItems (f : String → String) : List Toml → List Toml → Prop where
  | nil : RewrittenItems f [] []
  | cons {x y : Toml} {xs ys : List Toml} (head : Rewritten f x y) (tail : RewrittenItems f xs ys) :
      RewrittenItems f (x :: xs) (y :: ys)

inductive RewrittenEntries (f : String → String) :
    List (String × Toml) → List (String × Toml) → Prop where
  | nil : RewrittenEntries f [] []
  | cons (key : String) {x y : Toml} {es fs : List (String × Toml)} (head : Rewritten f x y)
      (tail : RewrittenEntries f es fs) : RewrittenEntries f ((key, x) :: es) ((key, y) :: fs)

end

variable {f g : String → String}

mutual

theorem rewritten_mapStrings (f : String → String) : ∀ d : Toml, Rewritten f d (d.mapStrings f)
  | .str s => .str s
  | .int i => .int i
  | .float x => .float x
  | .bool b => .bool b
  | .moment t => .moment t
  | .arr xs => .arr (rewritten_listMapStrings f xs)
  | .table es => .table (rewritten_entriesMapStrings f es)

theorem rewritten_listMapStrings (f : String → String) :
    ∀ xs : List Toml, RewrittenItems f xs (listMapStrings f xs)
  | [] => .nil
  | x :: xs => .cons (rewritten_mapStrings f x) (rewritten_listMapStrings f xs)

theorem rewritten_entriesMapStrings (f : String → String) :
    ∀ es : List (String × Toml), RewrittenEntries f es (entriesMapStrings f es)
  | [] => .nil
  | (k, x) :: es => .cons k (rewritten_mapStrings f x) (rewritten_entriesMapStrings f es)

end

mutual

/-- Rewriting has one result. -/
theorem Rewritten.eq {d d' : Toml} : Rewritten f d d' → d' = d.mapStrings f
  | .str s | .int i | .float x | .bool b | .moment t => by simp only [mapStrings]
  | .arr items => by rw [mapStrings, items.eq]
  | .table entries => by rw [mapStrings, entries.eq]

theorem RewrittenItems.eq {xs ys : List Toml} : RewrittenItems f xs ys → ys = listMapStrings f xs
  | .nil => by rw [listMapStrings]
  | .cons head tail => by rw [listMapStrings, head.eq, tail.eq]

theorem RewrittenEntries.eq {es fs : List (String × Toml)} :
    RewrittenEntries f es fs → fs = entriesMapStrings f es
  | .nil => by rw [entriesMapStrings]
  | .cons _ head tail => by rw [entriesMapStrings, head.eq, tail.eq]

end

mutual

/-- Only what is done to the string values of the document counts. -/
theorem mapStrings_congr : ∀ d : Toml, (∀ s ∈ d.strings, f s = g s) →
    d.mapStrings f = d.mapStrings g
  | .str s, h => by rw [mapStrings, mapStrings, h s (by simp [strings])]
  | .int _, _ | .float _, _ | .bool _, _ | .moment _, _ => by simp only [mapStrings]
  | .arr xs, h => by
    rw [mapStrings, mapStrings, listMapStrings_congr xs fun s hs => h s (by rwa [strings])]
  | .table es, h => by
    rw [mapStrings, mapStrings, entriesMapStrings_congr es fun s hs => h s (by rwa [strings])]

theorem listMapStrings_congr : ∀ xs : List Toml, (∀ s ∈ listStrings xs, f s = g s) →
    listMapStrings f xs = listMapStrings g xs
  | [], _ => by simp only [listMapStrings]
  | x :: xs, h => by
    have hx : ∀ s ∈ x.strings, f s = g s := fun s hs => h s (by simp [listStrings, hs])
    have hxs : ∀ s ∈ listStrings xs, f s = g s := fun s hs => h s (by simp [listStrings, hs])
    rw [listMapStrings, listMapStrings, mapStrings_congr x hx, listMapStrings_congr xs hxs]

theorem entriesMapStrings_congr : ∀ es : List (String × Toml),
    (∀ s ∈ entriesStrings es, f s = g s) → entriesMapStrings f es = entriesMapStrings g es
  | [], _ => by simp only [entriesMapStrings]
  | (k, x) :: es, h => by
    have hx : ∀ s ∈ x.strings, f s = g s := fun s hs => h s (by simp [entriesStrings, hs])
    have hes : ∀ s ∈ entriesStrings es, f s = g s := fun s hs => h s (by simp [entriesStrings, hs])
    rw [entriesMapStrings, entriesMapStrings, mapStrings_congr x hx, entriesMapStrings_congr es hes]

end

mutual

theorem mapStrings_id : ∀ d : Toml, d.mapStrings id = d
  | .str _ | .int _ | .float _ | .bool _ | .moment _ => by simp only [mapStrings, id_eq]
  | .arr xs => by rw [mapStrings, listMapStrings_id xs]
  | .table es => by rw [mapStrings, entriesMapStrings_id es]

theorem listMapStrings_id : ∀ xs : List Toml, listMapStrings id xs = xs
  | [] => by rw [listMapStrings]
  | x :: xs => by rw [listMapStrings, mapStrings_id x, listMapStrings_id xs]

theorem entriesMapStrings_id : ∀ es : List (String × Toml), entriesMapStrings id es = es
  | [] => by rw [entriesMapStrings]
  | (k, x) :: es => by rw [entriesMapStrings, mapStrings_id x, entriesMapStrings_id es]

end

end Toml

/-! ### Texts -/

namespace Config

variable {env env₁ env₂ : Environment} {p n r s name : List Char} {c : Char}

/-- Where no reference opens, none is found. -/
theorem referencesFrom_cons (h : ¬ opening <+: c :: r) :
    referencesFrom none (c :: r) = referencesFrom none r := by
  by_cases hc : c = '$'
  · subst hc
    cases r with
    | nil => rfl
    | cons d r =>
      have hd : d ≠ '\x7b' := by
        rintro rfl
        exact h ⟨r, rfl⟩
      simp [referencesFrom, hd]
  · rw [referencesFrom.eq_def]
    simp [hc]

/-- A name is taken up to the closing brace. -/
theorem referencesFrom_name (hn : closing ∉ n) :
    referencesFrom (some name) (n ++ closing :: r) =
      (name.reverse ++ n) :: referencesFrom none r := by
  induction n generalizing name with
  | nil => simp [referencesFrom, closing]
  | cons d n ih =>
    obtain ⟨hd, hn⟩ := List.ne_and_not_mem_of_not_mem_cons hn
    have hd : (d == '\x7d') = false := by simpa [closing] using Ne.symm hd
    rw [List.cons_append, referencesFrom, if_neg (by simp [hd]), ih hn]
    simp

/-- The first reference is found, and then those behind it. -/
theorem referencesFrom_first (hp : ¬ opening <:+: p) (hn : closing ∉ n) :
    referencesFrom none (p ++ opening ++ n ++ closing :: r) = n :: referencesFrom none r := by
  induction p with
  | nil =>
    show referencesFrom none ('$' :: '\x7b' :: (n ++ closing :: r)) = _
    simp only [referencesFrom, beq_self_eq_true, ↓reduceIte]
    exact referencesFrom_name hn
  | cons c p ih =>
    have hrest : ¬ opening <:+: p := fun hin => hp (List.infix_cons hin)
    have hcons : ¬ opening <+: c :: (p ++ opening ++ n ++ closing :: r) := by
      rw [List.append_assoc _ n]
      exact not_opening_of_plain hp
    rw [← ih hrest]
    exact referencesFrom_cons hcons

theorem expandChars_congr {value value' : List Char → List Char} (s : List Char) :
    (∀ n ∈ referencesFrom none s, value n = value' n) →
      expandChars value s = expandChars value' s := by
  induction s using reference_induction with
  | plain s hs =>
    intro _
    rw [expandChars_of_not_closed hs, expandChars_of_not_closed hs]
  | reference p n r hp hn ih =>
    intro h
    rw [referencesFrom_first hp hn] at h
    have hr := ih fun m hm => h m (List.mem_cons_of_mem n hm)
    rw [expandChars_first hp hn, expandChars_first hp hn, h n List.mem_cons_self, hr]

/-- The environments agree on every variable that a reference in the text names. -/
def AgreeOn (env₁ env₂ : Environment) (s : String) : Prop :=
  ∀ n ∈ references s, n ≠ "" → env₁.get? n = env₂.get? n

/-- **A text depends on the variables that its references name**, and on nothing else. -/
theorem expand_congr {s : String} (h : AgreeOn env₁ env₂ s) : expand env₁ s = expand env₂ s := by
  have hvalue : ∀ n ∈ referencesFrom none s.toList, env₁.value n = env₂.value n := by
    intro n hn
    rw [env₁.value_eq, env₂.value_eq, Environment.meaning, Environment.meaning]
    by_cases hempty : String.ofList n = ""
    · rw [if_pos hempty, if_pos hempty]
    · rw [if_neg hempty, if_neg hempty, h _ (List.mem_map_of_mem hn) hempty]
  rw [expand, expand, expandChars_congr s.toList hvalue]

/-! ### Configurations -/

/-- The configuration that a document gives as it stands. -/
def ofDocument (doc : Toml) : Except ParseError Config :=
  match read (.toml doc) with
  | .ok c => .ok c
  | .error e => .error (.misshapen e)

/-- The configuration that a text gives if nothing in it is a reference. -/
def parseVerbatim (text : String) : Except ParseError Config :=
  match Toml.parse text with
  | .error .malformed => .error .notToml
  | .error .longKey => .error .longKey
  | .ok doc => ofDocument doc

theorem parse_of_document {text : String} {doc : Toml} (h : Toml.parse text = .ok doc) :
    parse env text = ofDocument (doc.mapStrings (expand env)) := by
  rw [parse, h]
  rfl

theorem parse_of_error {text : String} {e : Toml.Fault} (h : Toml.parse text = .error e) :
    parse env text = parseVerbatim text := by
  rw [parse, parseVerbatim, h]
  cases e <;> rfl

/-- How the configuration of a text depends on the environment. -/
structure ReadsReferences (text : String) : Prop where
  /-- Only the variables count that references in string values of the document name. -/
  agree : ∀ env₁ env₂ : Environment,
    (∀ doc, Toml.parse text = .ok doc → ∀ s ∈ doc.strings, AgreeOn env₁ env₂ s) →
    parse env₁ text = parse env₂ text
  /-- What is read is the document with its string values expanded, and nothing else changed. -/
  rewritten : ∀ (env : Environment) (doc : Toml), Toml.parse text = .ok doc →
    ∃ doc', doc.Rewritten (expand env) doc' ∧ parse env text = ofDocument doc' ∧
      ∀ other, doc.Rewritten (expand env) other → other = doc'
  /-- Without references, expansion makes no difference. -/
  verbatim : ∀ env : Environment,
    (∀ doc, Toml.parse text = .ok doc → ∀ s ∈ doc.strings, ¬ Closed s.toList) →
    parse env text = parseVerbatim text

/-- **A configuration depends on the environment only through its references.** -/
theorem configuration_reads_references (text : String) : ReadsReferences text where
  agree env₁ env₂ h := by
    cases hdoc : Toml.parse text with
    | error e => rw [parse_of_error hdoc, parse_of_error hdoc]
    | ok doc =>
      have hsame := Toml.mapStrings_congr doc fun s hs => expand_congr (h doc hdoc s hs)
      rw [parse_of_document hdoc, parse_of_document hdoc, hsame]
  rewritten env doc hdoc := by
    refine ⟨_, Toml.rewritten_mapStrings _ doc, parse_of_document hdoc, fun other hother => ?_⟩
    exact hother.eq
  verbatim env h := by
    cases hdoc : Toml.parse text with
    | error e => exact parse_of_error hdoc
    | ok doc =>
      have hsame : doc.mapStrings (expand env) = doc.mapStrings id :=
        Toml.mapStrings_congr doc fun s hs => expand_of_not_closed (h doc hdoc s hs)
      rw [parse_of_document hdoc, hsame, Toml.mapStrings_id, parseVerbatim, hdoc]

/-- The value of a variable reaches the settings. -/
example : let doc : Toml := .table [("server", .table [("root", .str "$\x7bBASE\x7d/yara")])]
    (ofToml [("BASE", "/opt")] doc).map (·.settings.server.root) = .ok "/opt/yara" ∧
      (ofDocument doc).map (·.settings.server.root) = .ok "$\x7bBASE\x7d/yara" := by
  constructor <;> cbv

end Config

end Sidecar
