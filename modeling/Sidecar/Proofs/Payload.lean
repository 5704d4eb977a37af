/-
# The shapes of what a server tells

What a notification carries is described here without saying how it is read. A
record is an object or an array of exactly its fields, and `HasField` says which
value a field has in either. On top of that stand the shape of a diagnostic
(`Depicts`), of a list of them (`Publishes`) and of a message to the user
(`Announces`). Reading gives a value exactly where the shape fits, and then the
value that the shape describes.

Key definitions: `Incoming.HasField`, `Incoming.Depicts`, `Incoming.Publishes`,
`Incoming.Announces`.
Key theorems: `Incoming.diagnostics?_eq_some_iff`, `Incoming.message?_eq_some_iff`.
-/
import Mathlib.Algebra.Ring.Nat
import Mathlib.Data.List.Forall2
import Mathlib.Data.List.Nodup
import Mathlib.Tactic.Common
import Sidecar.Client.Incoming

namespace Sidecar.Incoming

variable {v : Json} {names : List String} {name : String} {x : Option Json} {n : Nat}

/-- In a record with the fields `names`, the field `name` has the value `x`. In an object it may be
absent. -/
inductive HasField (names : List String) (name : String) : Json → Option Json → Prop where
  | member (ms : List (String × Json)) :
      HasField names name (.obj ms) ((Json.obj ms).get? name)
  | item (xs : List Json) (hlen : xs.length = names.length) :
      HasField names name (.arr xs) xs[names.idxOf name]?

theorem hasField_obj {ms : List (String × Json)} :
    HasField names name (.obj ms) x ↔ (Json.obj ms).get? name = x := by
  refine ⟨fun h => ?_, fun h => h ▸ .member ms⟩
  cases h
  rfl

theorem hasField_arr {xs : List Json} :
    HasField names name (.arr xs) x ↔ xs.length = names.length ∧ xs[names.idxOf name]? = x := by
  refine ⟨fun h => ?_, fun ⟨hlen, h⟩ => h ▸ .item xs hlen⟩
  cases h with
  | item _ hlen => exact ⟨hlen, rfl⟩

/-- Looking up every field by its place gives the items in order. -/
theorem map_item_idxOf (hnodup : names.Nodup) {xs : List Json} (hlen : xs.length = names.length) :
    names.map (fun name => xs[names.idxOf name]?) = xs.map some := by
  apply List.ext_getElem
  · simp [hlen]
  · intro i hi hi'
    simp only [List.length_map] at hi hi'
    simp [hnodup.idxOf_getElem i hi, hi']

/-- Reading a record finds the values of all its fields. -/
theorem fields?_eq_some_iff (hnodup : names.Nodup) (hne : names ≠ []) {xs : List (Option Json)} :
    fields? names v = some xs ↔ List.Forall₂ (fun name x => HasField names name v x) names xs := by
  cases v with
  | obj ms =>
    simp only [fields?, hasField_obj, Option.some.injEq]
    rw [← List.forall₂_eq_eq_eq, List.forall₂_map_left_iff]
  | arr ys =>
    simp only [fields?, hasField_arr, beq_iff_eq]
    rw [List.forall₂_and_left, ← List.forall₂_map_left_iff, List.forall₂_eq_eq_eq]
    by_cases hlen : ys.length = names.length
    · simp [hlen, map_item_idxOf hnodup hlen]
    · obtain ⟨first, hfirst⟩ := List.exists_mem_of_ne_nil names hne
      refine iff_of_false (by simp [hlen]) fun h => hlen (h.1 first hfirst)
  | null | bool | num | str =>
    obtain ⟨first, rest, rfl⟩ := List.exists_cons_of_ne_nil hne
    refine iff_of_false (by simp [fields?]) fun hall => ?_
    cases hall with
    | cons hfirst _ => cases hfirst

theorem number?_eq_some_iff {bits : Nat} :
    number? bits v = some n ↔ v = Json.nat n ∧ n < 2 ^ bits := by
  unfold number? Json.nat
  split
  · next i =>
    simp only [Bool.and_eq_true, decide_eq_true_eq, Option.ite_none_right_eq_some,
      Option.some.injEq, Json.num.injEq, Json.Number.int.injEq, Nat.pow_eq]
    constructor
    · rintro ⟨⟨hpos, hlt⟩, rfl⟩
      exact ⟨(Int.toNat_of_nonneg hpos).symm, hlt⟩
    · rintro ⟨rfl, hlt⟩
      exact ⟨⟨Int.natCast_nonneg n, hlt⟩, rfl⟩
  · next hno =>
    refine iff_of_false (by simp) ?_
    rintro ⟨rfl, -⟩
    exact hno _ rfl

theorem str?_eq_some_iff {s : String} : v.str? = some s ↔ v = .str s := by
  cases v <;> simp [Json.str?]

/-! ### Diagnostics -/

/-- The start of a range is at a line and a column. -/
def StartsAt (v : Json) (line col : UInt32) : Prop :=
  ∃ start, HasField ["start"] "start" v (some start) ∧
    HasField ["line", "character"] "line" start (some (Json.nat line.toNat)) ∧
    HasField ["line", "character"] "character" start (some (Json.nat col.toNat))

/-- The severity that a member stands for. -/
inductive Graded : Option Json → Severity → Prop where
  | absent : Graded none .warning
  | null : Graded (some .null) .warning
  | error : Graded (some (Json.nat 1)) .error
  | warning : Graded (some (Json.nat 2)) .warning
  | information : Graded (some (Json.nat 3)) .information
  | hint : Graded (some (Json.nat 4)) .hint
  /-- A number that is no severity. -/
  | other (n : Nat) (hn : n < 2 ^ 64) (hout : n < 1 ∨ 4 < n) : Graded (some (Json.nat n)) .warning

/-- The source that a member stands for. -/
inductive Sourced : Option Json → String → Prop where
  | absent : Sourced none "yara"
  | null : Sourced (some .null) "yara"
  | given (s : String) : Sourced (some (.str s)) s

/-- The fields of a diagnostic. -/
abbrev diagnosticFields : List String := ["range", "severity", "source", "message"]

/-- A value depicts a diagnostic. -/
structure Depicts (v : Json) (d : Diagnostic) : Prop where
  range : ∃ range, HasField diagnosticFields "range" v (some range) ∧ StartsAt range d.line d.col
  severity : ∃ x, HasField diagnosticFields "severity" v x ∧ Graded x d.severity
  source : ∃ x, HasField diagnosticFields "source" v x ∧ Sourced x d.source
  message : HasField diagnosticFields "message" v (some (.str d.message))

/-- A value publishes diagnostics of a document, one for each item. -/
def Publishes (v : Json) (uri : String) (ds : List Diagnostic) : Prop :=
  HasField ["uri", "diagnostics"] "uri" v (some (.str uri)) ∧
    ∃ items, HasField ["uri", "diagnostics"] "diagnostics" v (some (.arr items)) ∧
      List.Forall₂ Depicts items ds

/-- A number with 32 bits. -/
theorem exists_number?_iff {u : UInt32} :
    (∃ n, number? 32 v = some n ∧ n.toUInt32 = u) ↔ v = Json.nat u.toNat := by
  simp only [number?_eq_some_iff]
  constructor
  · rintro ⟨n, ⟨rfl, hn⟩, rfl⟩
    rw [Nat.toUInt32_eq, UInt32.toNat_ofNat_of_lt' hn]
  · rintro rfl
    exact ⟨u.toNat, ⟨rfl, u.toNat_lt⟩, UInt32.ofNat_toNat⟩

theorem position?_eq_some_iff {line col : UInt32} :
    position? v = some (line, col) ↔
      HasField ["line", "character"] "line" v (some (Json.nat line.toNat)) ∧
      HasField ["line", "character"] "character" v (some (Json.nat col.toNat)) := by
  constructor
  · intro h
    unfold position? at h
    split at h
    · next x y hfields =>
      rw [fields?_eq_some_iff (by decide) (by simp)] at hfields
      cases hfields with
      | cons hline hrest =>
        cases hrest with
        | cons hcol _ =>
          simp only [Option.bind_eq_bind, Option.bind_eq_some_iff, Option.pure_def,
            Option.some.injEq, Prod.mk.injEq] at h
          obtain ⟨n, hn, k, hk, hnl, hkc⟩ := h
          rw [← exists_number?_iff.1 ⟨n, hn, hnl⟩, ← exists_number?_iff.1 ⟨k, hk, hkc⟩]
          exact ⟨hline, hcol⟩
    · cases h
  · rintro ⟨hline, hcol⟩
    have hfields := (fields?_eq_some_iff (by decide) (by simp)).2 (.cons hline (.cons hcol .nil))
    obtain ⟨n, hn, hnl⟩ := (exists_number?_iff (u := line)).2 rfl
    obtain ⟨k, hk, hkc⟩ := (exists_number?_iff (u := col)).2 rfl
    simp [position?, hfields, hn, hk, hnl, hkc]

theorem rangeStart?_eq_some_iff {line col : UInt32} :
    rangeStart? v = some (line, col) ↔ StartsAt v line col := by
  constructor
  · intro h
    unfold rangeStart? at h
    split at h
    · next start hfields =>
      rw [fields?_eq_some_iff (by decide) (by simp)] at hfields
      cases hfields with
      | cons hstart _ => exact ⟨start, hstart, position?_eq_some_iff.1 h⟩
    · cases h
  · rintro ⟨start, hstart, hposition⟩
    have hfields := (fields?_eq_some_iff (by decide) (by simp)).2 (.cons hstart .nil)
    rw [rangeStart?, hfields]
    exact position?_eq_some_iff.2 hposition

theorem ofNumber?_eq_none (hout : n < 1 ∨ 4 < n) : Severity.ofNumber? n = none := by
  unfold Severity.ofNumber?
  split <;> first | rfl | omega

theorem graded_iff {s : Severity} :
    Graded x s ↔ ∃ n, optional? (number? 64) x = some n ∧
      (n.bind Severity.ofNumber?).getD .warning = s := by
  constructor
  · intro h
    cases h with
    | absent | null => exact ⟨none, rfl, rfl⟩
    | error => exact ⟨some 1, rfl, rfl⟩
    | warning => exact ⟨some 2, rfl, rfl⟩
    | information => exact ⟨some 3, rfl, rfl⟩
    | hint => exact ⟨some 4, rfl, rfl⟩
    | other n hn hout =>
      refine ⟨some n, ?_, by simp [ofNumber?_eq_none hout]⟩
      have hread : number? 64 (Json.nat n) = some n := number?_eq_some_iff.2 ⟨rfl, hn⟩
      show (number? 64 (Json.nat n)).map some = some (some n)
      rw [hread]
      rfl
  · rintro ⟨n, hn, rfl⟩
    unfold optional? at hn
    split at hn
    · cases hn
      exact .absent
    · cases hn
      exact .null
    · next v _ =>
      obtain ⟨k, hk, rfl⟩ := Option.map_eq_some_iff.1 hn
      obtain ⟨rfl, hlt⟩ := number?_eq_some_iff.1 hk
      by_cases hout : k < 1 ∨ 4 < k
      · rw [Option.bind_some, ofNumber?_eq_none hout]
        exact .other k hlt hout
      · obtain rfl | rfl | rfl | rfl : k = 1 ∨ k = 2 ∨ k = 3 ∨ k = 4 := by omega
        · exact .error
        · exact .warning
        · exact .information
        · exact .hint

theorem sourced_iff {s : String} :
    Sourced x s ↔ ∃ t, optional? Json.str? x = some t ∧ t.getD ruleLanguage = s := by
  constructor
  · intro h
    cases h with
    | absent | null => exact ⟨none, rfl, rfl⟩
    | given => exact ⟨some s, rfl, rfl⟩
  · rintro ⟨t, ht, rfl⟩
    unfold optional? at ht
    split at ht
    · cases ht
      exact .absent
    · cases ht
      exact .null
    · next v _ =>
      obtain ⟨s, hs, rfl⟩ := Option.map_eq_some_iff.1 ht
      rw [str?_eq_some_iff.1 hs]
      exact .given s

/-- **A diagnostic is read exactly where one is depicted.** -/
theorem diagnostic?_eq_some_iff {d : Diagnostic} : diagnostic? v = some d ↔ Depicts v d := by
  constructor
  · intro h
    unfold diagnostic? at h
    split at h
    · next range severity source message hfields =>
      rw [fields?_eq_some_iff (by decide) (by simp)] at hfields
      obtain ⟨hrange, hseverity, hsource, hmessage⟩ : HasField diagnosticFields "range" v range ∧
          HasField diagnosticFields "severity" v severity ∧
          HasField diagnosticFields "source" v source ∧
          HasField diagnosticFields "message" v message := by simpa using hfields
      simp only [Option.bind_eq_bind, Option.bind_eq_some_iff, Option.pure_def,
        Option.some.injEq] at h
      obtain ⟨⟨line, col⟩, hstart, k, hk, s, hs, text, htext, rfl⟩ := h
      refine ⟨⟨range, hrange, rangeStart?_eq_some_iff.1 hstart⟩,
        ⟨severity, hseverity, graded_iff.2 ⟨k, hk, rfl⟩⟩,
        ⟨source, hsource, sourced_iff.2 ⟨s, hs, rfl⟩⟩, ?_⟩
      rw [← str?_eq_some_iff.1 htext]
      exact hmessage
    · cases h
  · rintro ⟨⟨range, hrange, hstart⟩, ⟨severity, hseverity, hgraded⟩, ⟨source, hsource, hsourced⟩,
      hmessage⟩
    have hfields := (fields?_eq_some_iff (by decide) (by simp)).2
      (.cons hrange (.cons hseverity (.cons hsource (.cons hmessage .nil))))
    obtain ⟨k, hk, hseverity⟩ := graded_iff.1 hgraded
    obtain ⟨s, hs, hsource⟩ := sourced_iff.1 hsourced
    simp [diagnostic?, hfields, rangeStart?_eq_some_iff.2 hstart, hk, hs, Json.str?, hseverity,
      hsource]

theorem mapM_diagnostic?_eq_some_iff {items : List Json} {ds : List Diagnostic} :
    items.mapM diagnostic? = some ds ↔ List.Forall₂ Depicts items ds := by
  induction items generalizing ds with
  | nil => simp [eq_comm]
  | cons v items ih =>
    rw [List.forall₂_cons_left_iff]
    simp only [List.mapM_cons, Option.bind_eq_bind, Option.bind_eq_some_iff, Option.pure_def,
      Option.some.injEq, diagnostic?_eq_some_iff, ih]
    constructor
    · rintro ⟨d, hd, ds, hds, rfl⟩
      exact ⟨d, ds, hd, hds, rfl⟩
    · rintro ⟨d, ds, hd, hds, rfl⟩
      exact ⟨d, hd, ds, hds, rfl⟩

/-- **Diagnostics are read exactly where they are published.** -/
theorem diagnostics?_eq_some_iff {uri : String} {ds : List Diagnostic} :
    diagnostics? v = some (uri, ds) ↔ Publishes v uri ds := by
  constructor
  · intro h
    unfold diagnostics? at h
    split at h
    · next u items hfields =>
      rw [fields?_eq_some_iff (by decide) (by simp)] at hfields
      cases hfields with
      | cons huri hrest =>
        cases hrest with
        | cons hitems _ =>
          simp only [Option.bind_eq_bind, Option.bind_eq_some_iff, Option.pure_def,
            Option.some.injEq, Prod.mk.injEq] at h
          obtain ⟨s, hs, ds', hds, rfl, rfl⟩ := h
          rw [str?_eq_some_iff.1 hs] at huri
          exact ⟨huri, items, hitems, mapM_diagnostic?_eq_some_iff.1 hds⟩
    · cases h
  · rintro ⟨huri, items, hitems, hds⟩
    have hfields := (fields?_eq_some_iff (by decide) (by simp)).2 (.cons huri (.cons hitems .nil))
    simp [diagnostics?, hfields, Json.str?, mapM_diagnostic?_eq_some_iff.2 hds]

/-! ### Messages to the user -/

/-- The level that a number stands for. -/
inductive Ranked : Nat → Level → Prop where
  | error : Ranked 1 .error
  | warn : Ranked 2 .warn
  | info (n : Nat) (hn : n < 2 ^ 8) (h1 : n ≠ 1) (h2 : n ≠ 2) : Ranked n .info

/-- A value announces a message to the user. -/
def Announces (v : Json) (level : Level) (text : String) : Prop :=
  (∃ n, HasField ["type", "message"] "type" v (some (Json.nat n)) ∧ Ranked n level) ∧
    HasField ["type", "message"] "message" v (some (.str text))

theorem Ranked.lt {level : Level} (h : Ranked n level) : n < 2 ^ 8 := by
  cases h <;> omega

theorem ranked_iff {level : Level} (hn : n < 2 ^ 8) :
    Ranked n level ↔ (if n = 1 then .error else if n = 2 then .warn else .info) = level := by
  constructor
  · intro h
    cases h with
    | error | warn => rfl
    | info _ _ h1 h2 => simp [h1, h2]
  · rintro rfl
    by_cases h1 : n = 1
    · subst h1
      exact .error
    · by_cases h2 : n = 2
      · subst h2
        exact .warn
      · rw [if_neg h1, if_neg h2]
        exact .info n hn h1 h2

/-- **A message is read exactly where one is announced.** -/
theorem message?_eq_some_iff {level : Level} {text : String} :
    message? v = some (level, text) ↔ Announces v level text := by
  constructor
  · intro h
    unfold message? at h
    split at h
    · next kind message hfields =>
      rw [fields?_eq_some_iff (by decide) (by simp)] at hfields
      cases hfields with
      | cons hkind hrest =>
        cases hrest with
        | cons hmessage _ =>
          simp only [Option.bind_eq_bind, Option.bind_eq_some_iff, Option.pure_def,
            Option.some.injEq, Prod.mk.injEq] at h
          obtain ⟨n, hn, s, hs, hlevel, rfl⟩ := h
          rw [str?_eq_some_iff.1 hs] at hmessage
          obtain ⟨rfl, hlt⟩ := number?_eq_some_iff.1 hn
          exact ⟨⟨n, hkind, (ranked_iff hlt).2 (by simpa using hlevel)⟩, hmessage⟩
    · cases h
  · rintro ⟨⟨n, hkind, hranked⟩, hmessage⟩
    have hfields := (fields?_eq_some_iff (by decide) (by simp)).2 (.cons hkind (.cons hmessage .nil))
    have hn : number? 8 (Json.nat n) = some n := number?_eq_some_iff.2 ⟨rfl, hranked.lt⟩
    have hlevel := (ranked_iff hranked.lt).1 hranked
    simp [message?, hfields, hn, Json.str?, hlevel]

end Sidecar.Incoming
