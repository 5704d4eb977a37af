/-
# Paths survive their URIs

The URI of an absolute path, read again, names a path with the same
components, whatever bytes they hold.

What a path names is said without taking it apart: it is made of parts, each
behind a slash, and its components are the parts that are neither empty nor a
dot (`Names`, `names_iff`). In a written segment every byte stands for itself
or is percent encoded, and what is written are printable ASCII characters
without a meaning of their own in a path (`isInert`). So the reader takes a
segment as it stands (`follow_inert`) and the percent signs give back the
bytes (`decodePercent_encodeSegment`). The one thing that a reader could do
to a segment is to resolve it as a dot segment. Percent encoded dots count
there too, but a dot is never written so: only `.` and `..` themselves are
written as dot segments (`isSingleDot_encodeSegment`,
`isDoubleDot_encodeSegment`). The first is no component, and a path with the
second is not claimed to survive.

Key definitions: `Uri.Names`, `Uri.isInert`, `Uri.pathText`.
Key theorems: `Uri.decodePercent_encodeSegment`, `Uri.pathFrom_pathText`,
`Uri.parse?_pathText`, `Uri.file_uris_round_trip`.
-/
import Mathlib.Data.List.Induction
import Mathlib.Tactic.Common
import Sidecar.Proofs.Utf8
import Sidecar.Uri.File

namespace Sidecar.Uri

/-- The byte between the parts of a path. -/
def slash : UInt8 := 0x2F

/-- One byte more; the parts that are done stand in reverse. -/
def addByte (acc : List (List UInt8) × List UInt8) (b : UInt8) : List (List UInt8) × List UInt8 :=
  if b == slash then (acc.2.reverse :: acc.1, []) else (acc.1, b :: acc.2)

theorem parts_eq (bs : List UInt8) : parts bs =
    (((bs.foldl addByte ([], [])).2.reverse) :: (bs.foldl addByte ([], [])).1).reverse := rfl

/-- What is done stays. -/
theorem foldl_addByte (bs : List UInt8) (done done' : List (List UInt8)) (last : List UInt8) :
    bs.foldl addByte (done' ++ done, last) =
      ((bs.foldl addByte (done', last)).1 ++ done, (bs.foldl addByte (done', last)).2) := by
  induction bs generalizing done' last with
  | nil => rfl
  | cons b bs ih =>
    rw [List.foldl_cons, List.foldl_cons, addByte, addByte]
    by_cases hb : b = slash
    · simp only [hb, beq_self_eq_true, ↓reduceIte]
      rw [← List.cons_append, ih]
    · simp only [beq_iff_eq, hb, ↓reduceIte]
      rw [ih]

/-- A slash ends a part. -/
theorem parts_slash (xs ys : List UInt8) : parts (xs ++ slash :: ys) = parts xs ++ parts ys := by
  have hslash : ∀ acc, addByte acc slash = (acc.2.reverse :: acc.1, []) := fun acc => if_pos rfl
  have hdone := foldl_addByte ys ((xs.foldl addByte ([], [])).2.reverse ::
    (xs.foldl addByte ([], [])).1) [] []
  rw [List.nil_append] at hdone
  rw [parts_eq, parts_eq, parts_eq, List.foldl_append, List.foldl_cons, hslash, hdone]
  simp

theorem parts_of_not_mem {xs : List UInt8} (h : slash ∉ xs) : parts xs = [xs] := by
  have hfold : ∀ (ys : List UInt8) (last : List UInt8), slash ∉ ys →
      ys.foldl addByte ([], last) = ([], ys.reverse ++ last) := by
    intro ys
    induction ys with
    | nil => intro last _; rfl
    | cons y ys ih =>
      intro last hy
      obtain ⟨hne, hys⟩ := List.ne_and_not_mem_of_not_mem_cons hy
      rw [List.foldl_cons, addByte, if_neg (by simpa using Ne.symm hne), ih _ hys]
      simp
  rw [parts_eq, hfold xs [] h]
  simp

/-- No part holds a slash. -/
theorem not_mem_of_mem_parts {xs p : List UInt8} (h : p ∈ parts xs) : slash ∉ p := by
  induction hlen : xs.length using Nat.strongRecOn generalizing xs with
  | ind len ih =>
    by_cases hs : slash ∈ xs
    · obtain ⟨a, b, rfl, ha⟩ := List.eq_append_cons_of_mem hs
      rw [parts_slash, parts_of_not_mem ha, List.singleton_append, List.mem_cons] at h
      rcases h with rfl | h
      · exact ha
      · refine ih b.length ?_ h rfl
        rw [← hlen]
        simp
        omega
    · rw [parts_of_not_mem hs, List.mem_singleton] at h
      rwa [h]

/-- The parts behind a slash make up what is behind it. -/
theorem flatMap_parts (xs : List UInt8) : (parts xs).flatMap (slash :: ·) = slash :: xs := by
  induction hlen : xs.length using Nat.strongRecOn generalizing xs with
  | ind len ih =>
    by_cases hs : slash ∈ xs
    · obtain ⟨a, b, rfl, ha⟩ := List.eq_append_cons_of_mem hs
      have hlt : b.length < len := by
        rw [← hlen]
        simp
        omega
      rw [parts_slash, parts_of_not_mem ha, List.flatMap_append, ih b.length hlt b rfl]
      simp
    · rw [parts_of_not_mem hs]
      simp

theorem componentsOf_slash (xs ys : List UInt8) :
    componentsOf (xs ++ slash :: ys) = componentsOf xs ++ componentsOf ys := by
  rw [componentsOf, parts_slash, List.filter_append]
  rfl

/-! ### Components -/

/-- Whether a part of a path names something: it is not empty and not a dot. -/
def isName (p : List UInt8) : Bool := !p.isEmpty && p != [0x2E]

theorem isName_iff {p : List UInt8} : isName p = true ↔ p ≠ [] ∧ p ≠ [0x2E] := by
  simp [isName]

/-- A path is absolute and names these components: it is made of parts, each behind a slash, and
the components are the parts that name something. -/
def Names (path : List UInt8) (cs : List (List UInt8)) : Prop :=
  ∃ ps, ps ≠ [] ∧ path = ps.flatMap (slash :: ·) ∧ (∀ p ∈ ps, slash ∉ p) ∧ cs = ps.filter isName

theorem componentsOf_eq (path : List UInt8) : componentsOf path = (parts path).filter isName := rfl

theorem componentsOf_flatMap {ps : List (List UInt8)} (h : ∀ p ∈ ps, slash ∉ p) :
    componentsOf (ps.flatMap (slash :: ·)) = ps.filter isName := by
  induction ps using List.reverseRecOn with
  | nil => rfl
  | append_singleton ps p ih =>
    have hp : componentsOf p = [p].filter isName := by
      rw [componentsOf_eq, parts_of_not_mem (h p (by simp))]
    rw [List.flatMap_append, List.flatMap_singleton, componentsOf_slash, hp,
      ih fun q hq => h q (by simp [hq]), List.filter_append]

/-- **What an absolute path names are its components.** -/
theorem names_iff {path : List UInt8} {cs : List (List UInt8)} :
    Names path cs ↔ path.head? = some slash ∧ componentsOf path = cs := by
  constructor
  · rintro ⟨ps, hne, rfl, hps, rfl⟩
    refine ⟨?_, componentsOf_flatMap hps⟩
    obtain ⟨p, ps, rfl⟩ := List.exists_cons_of_ne_nil hne
    simp
  · rintro ⟨hhead, rfl⟩
    obtain ⟨xs, rfl⟩ := List.head?_eq_some_iff.1 hhead
    have hparts : parts (slash :: xs) = [] :: parts xs := parts_slash [] xs
    have hne : parts xs ≠ [] := by
      intro h
      exact absurd (flatMap_parts xs) (by simp [h])
    refine ⟨parts xs, hne, (flatMap_parts xs).symm, fun p hp => not_mem_of_mem_parts hp, ?_⟩
    rw [componentsOf_eq, hparts, List.filter_cons_of_neg (by decide)]

/-- Whether a character has no meaning of its own in the path of a file URI. -/
def isInert (c : Char) : Bool :=
  0x20 < c.toNat && c.toNat < 0x7F && !Family.file.isSlash c && !isTailMark c

/-- The byte of an ASCII character. -/
def byteOf (c : Char) : UInt8 := UInt8.ofNat c.toNat

/-- A fact about bytes can be checked for each of them. -/
theorem forall_byte {P : UInt8 → Prop} (h : ∀ n : Fin 256, P (UInt8.ofNat n)) (b : UInt8) :
    P b := by
  have hb := h ⟨b.toNat, b.toNat_lt⟩
  rwa [UInt8.ofNat_toNat] at hb

theorem encodeByte_inert (b : UInt8) : ∀ c ∈ encodeByte b, isInert c = true := by
  rw [← List.all_eq_true]
  revert b
  apply forall_byte
  decide +kernel

theorem encodeSegment_inert (bs : List UInt8) : ∀ c ∈ encodeSegment bs, isInert c = true := by
  intro c hc
  obtain ⟨b, -, hb⟩ := List.mem_flatMap.1 hc
  exact encodeByte_inert b c hb

theorem encodeByte_plain (b : UInt8) (h : isPlainByte b = true) :
    byteOf (Char.ofNat b.toNat) = b ∧ b ≠ 0x25 := by
  revert b
  apply forall_byte
  decide +kernel

theorem hexValue?_hexDigitUpper (n : Fin 16) :
    Text.hexValue? (Char.ofNat (byteOf (Text.hexDigitUpper n)).toNat) = some n.val := by
  revert n
  decide

/-- A written byte is read back. -/
theorem decodePercent_encodeByte (b : UInt8) (r : List UInt8) :
    decodePercent ((encodeByte b).map byteOf ++ r) = b :: decodePercent r := by
  rw [encodeByte]
  split
  · next h =>
    obtain ⟨hbyte, hne⟩ := encodeByte_plain b h
    rw [List.map_singleton, hbyte, List.singleton_append, decodePercent.eq_def]
    simp [hne]
  · have hlt : b.toNat < 256 := b.toNat_lt
    have hhigh := hexValue?_hexDigitUpper ⟨b.toNat / 16, by omega⟩
    have hlow := hexValue?_hexDigitUpper ⟨b.toNat % 16, by omega⟩
    have hsum : b.toNat / 16 * 16 + b.toNat % 16 = b.toNat := by omega
    have hsign : byteOf '%' = 0x25 := by decide
    simp only [List.map_cons, List.map_nil, List.cons_append, List.nil_append, hsign]
    rw [decodePercent.eq_def]
    simp only [beq_self_eq_true, ↓reduceIte, hhigh, hlow, hsum, UInt8.ofNat_toNat]

/-- **Every segment is read back as it was**, whatever bytes it holds. -/
theorem decodePercent_encodeSegment (bs r : List UInt8) :
    decodePercent ((encodeSegment bs).map byteOf ++ r) = bs ++ decodePercent r := by
  induction bs with
  | nil => rfl
  | cons b bs ih =>
    have hcons : encodeSegment (b :: bs) = encodeByte b ++ encodeSegment bs := rfl
    rw [hcons, List.map_append, List.append_assoc, decodePercent_encodeByte, ih, List.cons_append]

/-! ### Dot segments -/

theorem lowerChar_plain (b : UInt8) (hb : b ≠ 0x2E) (h : isPlainByte b = true) :
    Text.lowerChar (Char.ofNat b.toNat) ≠ '.' ∧ Text.lowerChar (Char.ofNat b.toNat) ≠ '%' := by
  revert b
  apply forall_byte
  decide +kernel

theorem lowerChar_hexDigits (b : UInt8) (hb : b ≠ 0x2E) :
    ¬ (Text.lowerChar (Text.hexDigitUpper (b.toNat / 16)) = '2' ∧
      Text.lowerChar (Text.hexDigitUpper (b.toNat % 16)) = 'e') := by
  revert b
  apply forall_byte
  decide +kernel

/-- No byte but a dot is written as the beginning of a dot segment. -/
theorem encodeByte_dot {b : UInt8} (hb : b ≠ 0x2E) (r s : List Char) :
    (encodeByte b).map Text.lowerChar ++ r ≠ '.' :: s ∧
      (encodeByte b).map Text.lowerChar ++ r ≠ '%' :: '2' :: 'e' :: s := by
  rw [encodeByte]
  split
  · next h =>
    obtain ⟨hdot, hsign⟩ := lowerChar_plain b hb h
    exact ⟨fun he => hdot (List.cons.inj he).1, fun he => hsign (List.cons.inj he).1⟩
  · have hsign : Text.lowerChar '%' = '%' := by decide
    simp only [List.map_cons, List.map_nil, List.cons_append, List.nil_append, hsign]
    refine ⟨fun he => absurd (List.cons.inj he).1 (by decide), fun he => ?_⟩
    simp only [List.cons.injEq, true_and] at he
    exact lowerChar_hexDigits b hb ⟨he.1, he.2.1⟩

/-- A segment written with a dot in front has a dot in front. -/
theorem encodeSegment_dot {bs : List UInt8} {s : List Char}
    (h : (encodeSegment bs).map Text.lowerChar = '.' :: s) :
    ∃ bs', bs = 0x2E :: bs' ∧ (encodeSegment bs').map Text.lowerChar = s := by
  cases bs with
  | nil => exact absurd h (by simp [encodeSegment])
  | cons b bs =>
    have hcons : encodeSegment (b :: bs) = encodeByte b ++ encodeSegment bs := rfl
    rw [hcons, List.map_append] at h
    by_cases hb : b = 0x2E
    · have hdot : (encodeByte 0x2E).map Text.lowerChar = ['.'] := by decide
      rw [hb, hdot] at h
      exact ⟨bs, by rw [hb], (List.cons.inj h).2⟩
    · exact absurd h (encodeByte_dot hb _ _).1

/-- A dot is never percent encoded. -/
theorem encodeSegment_ne_encodedDot (bs : List UInt8) (s : List Char) :
    (encodeSegment bs).map Text.lowerChar ≠ '%' :: '2' :: 'e' :: s := by
  intro h
  cases bs with
  | nil => exact absurd h (by simp [encodeSegment])
  | cons b bs =>
    have hcons : encodeSegment (b :: bs) = encodeByte b ++ encodeSegment bs := rfl
    rw [hcons, List.map_append] at h
    by_cases hb : b = 0x2E
    · have hdot : (encodeByte 0x2E).map Text.lowerChar = ['.'] := by decide
      rw [hb, hdot] at h
      exact absurd (List.cons.inj h).1 (by decide)
    · exact absurd h (encodeByte_dot hb _ _).2

theorem encodeSegment_eq_nil {bs : List UInt8} (h : (encodeSegment bs).map Text.lowerChar = []) :
    bs = [] := by
  cases bs with
  | nil => rfl
  | cons b bs =>
    have hb : encodeByte b ≠ [] := by
      rw [encodeByte]
      split <;> simp
    simp [encodeSegment, hb] at h

/-- A text that is one of some texts. -/
theorem contains_ofList {ws : List String} {cs : List Char}
    (h : ws.contains (String.ofList cs) = true) : cs ∈ ws.map String.toList := by
  rw [List.contains_iff_mem] at h
  exact List.mem_map.2 ⟨_, h, String.toList_ofList⟩

/-- Only a dot is written as a dot segment. -/
theorem isSingleDot_encodeSegment {bs : List UInt8} (h : bs ≠ [0x2E]) :
    isSingleDot (encodeSegment bs) = false := by
  rw [Bool.eq_false_iff]
  intro hdot
  have hform : (encodeSegment bs).map Text.lowerChar ∈ [['.'], ['%', '2', 'e']] :=
    contains_ofList hdot
  simp only [List.mem_cons, List.not_mem_nil, or_false] at hform
  rcases hform with hform | hform
  · obtain ⟨bs', rfl, hrest⟩ := encodeSegment_dot hform
    exact h (by rw [encodeSegment_eq_nil hrest])
  · exact encodeSegment_ne_encodedDot bs _ hform

/-- Only two dots are written as a segment that leads back. -/
theorem isDoubleDot_encodeSegment {bs : List UInt8} (h : bs ≠ [0x2E, 0x2E]) :
    isDoubleDot (encodeSegment bs) = false := by
  rw [Bool.eq_false_iff]
  intro hdot
  have hform : (encodeSegment bs).map Text.lowerChar ∈ [['.', '.'],
      ['%', '2', 'e', '%', '2', 'e'], ['%', '2', 'e', '.'], ['.', '%', '2', 'e']] :=
    contains_ofList hdot
  simp only [List.mem_cons, List.not_mem_nil, or_false] at hform
  rcases hform with hform | hform | hform | hform
  · obtain ⟨bs', rfl, hrest⟩ := encodeSegment_dot hform
    obtain ⟨bs'', rfl, hend⟩ := encodeSegment_dot hrest
    exact h (by rw [encodeSegment_eq_nil hend])
  · exact encodeSegment_ne_encodedDot bs _ hform
  · exact encodeSegment_ne_encodedDot bs _ hform
  · obtain ⟨bs', rfl, hrest⟩ := encodeSegment_dot hform
    exact encodeSegment_ne_encodedDot bs' _ hrest

/-- Whether a reader takes a segment as it stands. -/
structure Stands (w : List Char) : Prop where
  inert : ∀ c ∈ w, isInert c = true
  single : isSingleDot w = false
  double : isDoubleDot w = false

theorem stands_encodeSegment {bs : List UInt8} (h : bs ≠ [0x2E]) (hh : bs ≠ [0x2E, 0x2E]) :
    Stands (encodeSegment bs) :=
  ⟨encodeSegment_inert bs, isSingleDot_encodeSegment h, isDoubleDot_encodeSegment hh⟩

theorem isInert_iff {c : Char} : isInert c = true ↔
    0x20 < c.toNat ∧ c.toNat < 0x7F ∧ Family.file.isSlash c = false ∧ isTailMark c = false := by
  simp [isInert, and_assoc]

theorem isWithin_eq_false {c : Char} (h : 0x20 < c.toNat) : isWithin c = false := by
  rw [isWithin, Bool.or_eq_false_iff, Bool.or_eq_false_iff]
  simp only [beq_eq_false_iff_ne, ne_eq]
  refine ⟨⟨?_, ?_⟩, ?_⟩
  all_goals
    rintro rfl
    exact absurd h (by decide)

theorem follow_inert {w : List Char} (h : ∀ c ∈ w, isInert c = true) (t : Trail)
    (segment r : List Char) :
    Trail.follow .file t segment (w ++ r) = Trail.follow .file t (w.reverse ++ segment) r := by
  induction w generalizing segment with
  | nil => rfl
  | cons c w ih =>
    obtain ⟨hprint, -, hslash, hmark⟩ := isInert_iff.1 (h c (by simp))
    rw [List.cons_append, Trail.follow, isWithin_eq_false hprint, hslash, hmark]
    simp only [Bool.false_eq_true, ↓reduceIte]
    rw [ih (fun d hd => h d (by simp [hd])), List.reverse_cons, List.append_assoc,
      List.singleton_append]

/-- A segment that stands is added as it is. -/
theorem add_stands {t : Trail} {w : List Char} (hw : Stands w) (ht : t.rooted = false) (b : Bool) :
    t.add .file w b = { t with text := t.text ++ w ++ if b then ['/'] else [] } := by
  simp [Trail.add, hw.single, hw.double, ht]

/-- Segments that stand are followed to the end, and nothing changes. -/
theorem follow_segments {w : List Char} {ws : List (List Char)} (hw : Stands w)
    (hws : ∀ v ∈ ws, Stands v) {t : Trail} (ht : t.rooted = false) :
    Trail.follow .file t [] (w ++ ws.flatMap ('/' :: ·)) =
      { t with text := t.text ++ w ++ ws.flatMap ('/' :: ·) } := by
  induction ws generalizing w t with
  | nil =>
    rw [follow_inert hw.inert, List.append_nil, List.flatMap_nil, Trail.follow,
      List.reverse_reverse, add_stands hw ht]
    simp
  | cons v ws ih =>
    have hwithin : isWithin '/' = false := by decide
    have hslash : Family.file.isSlash '/' = true := by decide
    rw [List.flatMap_cons, List.cons_append, follow_inert hw.inert, List.append_nil, Trail.follow,
      hwithin, hslash]
    simp only [Bool.false_eq_true, ↓reduceIte]
    have hrooted : (t.add .file w true).rooted = false := by rw [add_stands hw ht]; exact ht
    rw [List.reverse_reverse, ih (hws v (by simp)) (fun u hu => hws u (by simp [hu])) hrooted,
      add_stands hw ht]
    simp

/-! ### The URI of a path -/

/-- The path that is written for components. -/
def pathText (cs : List (List UInt8)) : List Char :=
  let segments := cs.flatMap fun c => '/' :: encodeSegment c
  if segments.isEmpty then ['/'] else segments

theorem ofPath_eq (path : List UInt8) : ofPath path =
    if path.head? != some slash then .error ⟨path⟩
    else .ok (String.ofList ("file://".toList ++ pathText (componentsOf path))) := rfl

/-- Components that can be written: names that lead nowhere else. -/
def Nameable (cs : List (List UInt8)) : Prop :=
  ∀ c ∈ cs, slash ∉ c ∧ isName c = true ∧ c ≠ [0x2E, 0x2E]

theorem Names.nameable {path : List UInt8} {cs : List (List UInt8)} (h : Names path cs)
    (hdots : [0x2E, 0x2E] ∉ cs) : Nameable cs := by
  obtain ⟨ps, -, -, hps, rfl⟩ := h
  intro c hc
  obtain ⟨hmem, hname⟩ := List.mem_filter.1 hc
  exact ⟨hps c hmem, hname, fun he => hdots (he ▸ hc)⟩

/-- A written path is segments that stand, each behind a slash. The first of them is empty only if
it is the last. -/
theorem pathText_segments {cs : List (List UInt8)} (h : Nameable cs) :
    ∃ w ws, pathText cs = (w :: ws).flatMap ('/' :: ·) ∧ (∀ v ∈ w :: ws, Stands v) ∧
      (w = [] → ws = []) := by
  cases cs with
  | nil =>
    refine ⟨[], [], rfl, fun v hv => ?_, fun _ => rfl⟩
    rw [List.mem_singleton.1 hv]
    exact ⟨by simp, by decide, by decide⟩
  | cons c cs =>
    refine ⟨encodeSegment c, cs.map encodeSegment, ?_, fun v hv => ?_, fun hnil => ?_⟩
    · simp [pathText, List.flatMap_map]
    · rw [← List.map_cons] at hv
      obtain ⟨d, hd, rfl⟩ := List.mem_map.1 hv
      obtain ⟨-, hname, hdots⟩ := h d hd
      exact stands_encodeSegment (isName_iff.1 hname).2 hdots
    · have hc : c = [] := encodeSegment_eq_nil (by rw [hnil, List.map_nil])
      exact absurd hc (isName_iff.1 (h c (by simp)).2.1).1

/-- The leading slashes of a written path are one. -/
theorem dropWhile_slash {w : List Char} {ws : List (List Char)} (hw : Stands w)
    (hnil : w = [] → ws = []) :
    '/' :: ((w :: ws).flatMap ('/' :: ·)).dropWhile (· == '/') = (w :: ws).flatMap ('/' :: ·) := by
  rw [List.flatMap_cons, List.cons_append, List.dropWhile_cons_of_pos (by decide)]
  cases w with
  | nil => rw [hnil rfl]; rfl
  | cons c w =>
    have hc : c ≠ '/' := by
      rintro rfl
      exact absurd (hw.inert _ List.mem_cons_self) (by decide)
    rw [List.cons_append, List.dropWhile_cons_of_neg (by simpa using hc)]

/-- **A written path is read as it stands.** -/
theorem pathFrom_pathText {cs : List (List UInt8)} (h : Nameable cs) :
    pathFrom .file false (pathText cs) = ⟨pathText cs, false, false⟩ := by
  obtain ⟨w, ws, htext, hstands, hnil⟩ := pathText_segments h
  have hempty : Stands [] := ⟨by simp, by decide, by decide⟩
  have hfollow := follow_segments (t := ⟨[], false, false⟩) hempty hstands rfl
  simp only [List.nil_append] at hfollow
  rw [pathFrom, htext]
  simp only [Bool.false_eq_true, ↓reduceIte, hfollow, beq_self_eq_true]
  rw [dropWhile_slash (hstands w (by simp)) hnil]

theorem pathText_cons (cs : List (List UInt8)) : ∃ r, pathText cs = '/' :: r := by
  cases cs with
  | nil => exact ⟨[], rfl⟩
  | cons c cs =>
    refine ⟨encodeSegment c ++ cs.flatMap fun d => '/' :: encodeSegment d, ?_⟩
    simp [pathText]

/-- No character of a written path is a blank or a control. -/
theorem pathText_printable (cs : List (List UInt8)) :
    ∀ c ∈ pathText cs, 0x20 < c.toNat ∧ c.toNat < 0x7F := by
  have hslash : 0x20 < '/'.toNat ∧ '/'.toNat < 0x7F := by decide
  intro c hc
  rw [pathText] at hc
  split at hc
  · rw [List.mem_singleton.1 hc]
    exact hslash
  · obtain ⟨d, -, hd⟩ := List.mem_flatMap.1 hc
    rcases List.mem_cons.1 hd with rfl | hd
    · exact hslash
    · obtain ⟨hlow, hhigh, -⟩ := isInert_iff.1 (encodeSegment_inert d c hd)
      exact ⟨hlow, hhigh⟩

theorem clean_eq {cs : List Char} (h : ∀ c ∈ cs, 0x20 < c.toNat) : clean cs = cs := by
  have hdrop : ∀ ds : List Char, (∀ c ∈ ds, 0x20 < c.toNat) → ds.dropWhile isAround = ds := by
    intro ds hds
    cases ds with
    | nil => rfl
    | cons d ds =>
      have hd := hds d (by simp)
      rw [List.dropWhile_cons_of_neg]
      simp only [isAround, decide_eq_true_eq]
      omega
  rw [clean, hdrop cs h, hdrop cs.reverse (by simpa using h), List.reverse_reverse]

theorem hostedFile?_pathText {cs : List (List UInt8)} (h : Nameable cs) :
    hostedFile? (pathText cs) = some ⟨"file", .none, some (pathText cs)⟩ := by
  have hpath := pathFrom_pathText h
  obtain ⟨r, hr⟩ := pathText_cons cs
  rw [hr] at hpath ⊢
  have hslash : Family.file.isSlash '/' = true := by decide
  have hwithin : isWithin '/' = false := by decide
  simp [hostedFile?, hslash, isDriveName, filePath, hwithin, hpath]

/-- **The URI of a path is read as a file of no host with the path that is written.** -/
theorem parse?_pathText {cs : List (List UInt8)} (h : Nameable cs) :
    parse? (String.ofList ("file://".toList ++ pathText cs)) =
      some ⟨"file", .none, some (pathText cs)⟩ := by
  have hfront : ∀ c ∈ "file://".toList, 0x20 < c.toNat := by simp
  have hclean : clean ("file://".toList ++ pathText cs) = "file://".toList ++ pathText cs := by
    apply clean_eq
    intro c hc
    rcases List.mem_append.1 hc with hc | hc
    · exact hfront c hc
    · exact (pathText_printable cs c hc).1
  have hscheme : splitScheme? ("file://".toList ++ pathText cs) =
      some ("file", '/' :: '/' :: pathText cs) := rfl
  have hfile : fileUri? ('/' :: '/' :: pathText cs) = hostedFile? (pathText cs) := rfl
  rw [parse?, String.toList_ofList, hclean, hscheme]
  exact hfile.trans (hostedFile?_pathText h)

theorem decodePercent_segments (cs : List (List UInt8)) :
    decodePercent ((cs.flatMap fun c => '/' :: encodeSegment c).map byteOf) =
      cs.flatMap (slash :: ·) := by
  induction cs with
  | nil => rfl
  | cons c cs ih =>
    have hslash : ∀ r, decodePercent (byteOf '/' :: r) = slash :: decodePercent r := fun r => by
      rw [decodePercent.eq_def]
      rfl
    rw [List.flatMap_cons, List.cons_append, List.map_cons, List.map_append, hslash,
      decodePercent_encodeSegment, ih, List.flatMap_cons, List.cons_append]

/-- **The bytes that a written path stands for name its components.** -/
theorem names_decodePercent {cs : List (List UInt8)} (h : Nameable cs) :
    Names (decodePercent (Utf8.encode (pathText cs))) cs := by
  have hascii : Utf8.encode (pathText cs) = (pathText cs).map byteOf :=
    Utf8.encode_ascii _ fun c hc => Nat.le_of_lt (pathText_printable cs c hc).2
  rw [hascii]
  by_cases hcs : cs = []
  · exact ⟨[[]], by simp, by rw [hcs]; decide, by simp, by rw [hcs]; decide⟩
  · have htext : pathText cs = cs.flatMap fun c => '/' :: encodeSegment c := by
      obtain ⟨d, ds, rfl⟩ := List.exists_cons_of_ne_nil hcs
      simp [pathText]
    rw [htext, decodePercent_segments]
    refine ⟨cs, hcs, rfl, fun c hc => (h c hc).1, ?_⟩
    exact (List.filter_eq_self.2 fun c hc => (h c hc).2.1).symm

theorem closeDrive_cases (bs : List UInt8) :
    closeDrive bs = bs ∨ closeDrive bs = bs ++ [slash] := by
  rw [closeDrive]
  split
  · split
    · exact .inr rfl
    · exact .inl rfl
  · exact .inl rfl

/-- A slash behind a drive names nothing. -/
theorem Names.closeDrive {path : List UInt8} {cs : List (List UInt8)} (h : Names path cs) :
    Names (closeDrive path) cs := by
  rcases closeDrive_cases path with he | he
  · rwa [he]
  · obtain ⟨ps, hne, rfl, hps, rfl⟩ := h
    rw [he]
    refine ⟨ps ++ [[]], by simp, by simp, fun p hp => ?_, ?_⟩
    · rcases List.mem_append.1 hp with hp | hp
      · exact hps p hp
      · simp [List.mem_singleton.1 hp]
    · rw [List.filter_append, List.filter_cons_of_neg (by decide), List.filter_nil, List.append_nil]

/-- The URI of a path, and what it names. -/
theorem ofPath_names {path : List UInt8} {cs : List (List UInt8)} (h : Names path cs)
    (hdots : [0x2E, 0x2E] ∉ cs) :
    ∃ uri back, ofPath path = .ok uri ∧ toPath? uri = some back ∧ Names back cs := by
  have hcs := h.nameable hdots
  obtain ⟨hhead, hcomponents⟩ := names_iff.1 h
  refine ⟨String.ofList ("file://".toList ++ pathText cs),
    Uri.closeDrive (decodePercent (Utf8.encode (pathText cs))), ?_, ?_, ?_⟩
  · rw [ofPath_eq, hhead, hcomponents]
    simp
  · rw [toPath?, parse?_pathText hcs]
    rfl
  · exact (names_decodePercent hcs).closeDrive

/-- **Paths survive their URIs.** An absolute path of any bytes names one list of components. If
`..` is none of them, the path has a URI, and the URI, read again, is a path that names the same
components; so two such paths with one URI name the same components. A path that is not absolute
has no URI. -/
theorem file_uris_round_trip :
    (∀ path, path.head? = some slash → ∃ cs, Names path cs ∧ ∀ cs', Names path cs' → cs' = cs) ∧
    (∀ path cs, Names path cs → [0x2E, 0x2E] ∉ cs →
      ∃ uri back, ofPath path = .ok uri ∧ toPath? uri = some back ∧ Names back cs) ∧
    (∀ path cs path' cs' uri, Names path cs → Names path' cs' → [0x2E, 0x2E] ∉ cs →
      [0x2E, 0x2E] ∉ cs' → ofPath path = .ok uri → ofPath path' = .ok uri → cs = cs') ∧
    ∀ path, path.head? ≠ some slash → ofPath path = .error ⟨path⟩ := by
  have hunique : ∀ {path cs cs'}, Names path cs → Names path cs' → cs' = cs := fun h h' =>
    (names_iff.1 h').2.symm.trans (names_iff.1 h).2
  refine ⟨fun path hpath => ?_, fun path cs => ofPath_names, ?_, fun path hpath => ?_⟩
  · exact ⟨componentsOf path, names_iff.2 ⟨hpath, rfl⟩, fun cs' h' => (names_iff.1 h').2.symm⟩
  · intro path cs path' cs' uri h h' hdots hdots' huri huri'
    obtain ⟨uri₁, back, hof, hback, hnames⟩ := ofPath_names h hdots
    obtain ⟨uri₂, back', hof', hback', hnames'⟩ := ofPath_names h' hdots'
    -- both URIs are `uri`, so it is one path that comes back
    rw [huri, Except.ok.injEq] at hof
    rw [huri', Except.ok.injEq] at hof'
    rw [← hof] at hback
    rw [← hof', hback, Option.some.injEq] at hback'
    rw [← hback'] at hnames'
    exact hunique hnames' hnames
  · rw [ofPath_eq, if_pos (by simpa using hpath)]

/-- The parts of a path with drives, a blank, encoded dots, marks of a URI, a backslash, a line
break and a byte that is no text. -/
def crookedParts : List (List UInt8) :=
  [[0x43, 0x3A], [], [0x2E], [0x25, 0x32, 0x65, 0x25, 0x32, 0x45],
    [0x3F, 0x23, 0x20, 0x5C, 0x0A, 0xFF], [0x44, 0x3A]]

/-- The parts of the same path without detours. -/
def straightParts : List (List UInt8) :=
  [[0x43, 0x3A], [0x25, 0x32, 0x65, 0x25, 0x32, 0x45], [0x3F, 0x23, 0x20, 0x5C, 0x0A, 0xFF],
    [0x44, 0x3A]]

/-- Both ways have one URI, and it leads back to their components. -/
theorem file_uris_round_trip_crooked :
    crookedParts.filter isName = straightParts ∧
    (∃ uri back, ofPath (crookedParts.flatMap (slash :: ·)) = .ok uri ∧
      uri = "file:///C:/%252e%252E/%3F%23%20%5C%0A%FF/D:" ∧ toPath? uri = some back ∧
      Names back straightParts) ∧
    ofPath [0x61] = .error ⟨[0x61]⟩ := by
  obtain ⟨-, hround, hsame, hrelative⟩ := file_uris_round_trip
  have hcrooked : Names (crookedParts.flatMap (slash :: ·)) (crookedParts.filter isName) :=
    ⟨crookedParts, by decide, rfl, by decide, rfl⟩
  have hstraight : Names (straightParts.flatMap (slash :: ·)) straightParts :=
    ⟨straightParts, by decide, rfl, by decide, by decide⟩
  have huri : ofPath (crookedParts.flatMap (slash :: ·)) =
      .ok "file:///C:/%252e%252E/%3F%23%20%5C%0A%FF/D:" := by decide
  have hcomponents : crookedParts.filter isName = straightParts :=
    hsame _ _ _ _ _ hcrooked hstraight (by decide) (by decide) huri (by decide)
  rw [hcomponents] at hcrooked
  obtain ⟨uri, back, hok, hback, hnames⟩ := hround _ _ hcrooked (by decide)
  rw [huri, Except.ok.injEq] at hok
  exact ⟨hcomponents, ⟨_, back, huri, rfl, hok ▸ hback, hnames⟩, hrelative [0x61] (by decide)⟩

end Sidecar.Uri
