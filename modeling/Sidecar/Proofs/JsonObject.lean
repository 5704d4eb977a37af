/-
# Objects from members in any order

`Json.object` sorts its members and keeps the last one of each key. Members
that are in order already stay as they are (`sortMembers_ordered`), and where
no key is repeated a member is found in the object as it is found in the list
the object was made from (`get?_object`).

Key theorems: `Json.sortMembers_ordered`, `Json.get?_object`.
-/
import Mathlib.Data.List.Sort
import Sidecar.Json.Basic

namespace Sidecar.Json

/-- Members with different neighbouring keys are all kept. -/
theorem keepLast_distinct : ∀ (ms acc : List (String × Json)),
    ms.Pairwise (fun a b => a.1 ≠ b.1) → keepLast acc ms = acc.reverse ++ ms
  | [], acc, _ => by simp [keepLast]
  | [m], acc, _ => by simp [keepLast]
  | m :: m' :: ms, acc, h => by
    have hne : m.1 ≠ m'.1 := List.rel_of_pairwise_cons h List.mem_cons_self
    rw [keepLast]
    simp only [beq_iff_eq, hne, ↓reduceIte]
    rw [keepLast_distinct (m' :: ms) (m :: acc) h.of_cons]
    simp

/-- Members in order stay as they are. -/
theorem sortMembers_ordered {ms : List (String × Json)} (h : ms.Pairwise fun a b => a.1 < b.1) :
    sortMembers ms = ms := by
  have hle : ms.Pairwise fun a b => (!decide (b.1 < a.1)) = true := by
    refine h.imp fun {a b} hab => ?_
    have := String.lt_asymm hab
    simp [this]
  have hne : ms.Pairwise fun a b => a.1 ≠ b.1 := by
    refine h.imp fun {a b} hab he => ?_
    rw [he] at hab
    exact String.lt_irrefl _ hab
  rw [sortMembers, List.mergeSort_of_pairwise hle, keepLast_distinct ms [] hne]
  rfl

/-- Where no key is repeated, the order of the members does not matter. -/
theorem find?_key_perm {ms ms' : List (String × Json)} (hp : ms.Perm ms')
    (h : (ms.map (·.1)).Nodup) (key : String) :
    ms.find? (fun m => m.1 == key) = ms'.find? (fun m => m.1 == key) := by
  induction hp with
  | nil => rfl
  | cons m _ ih => rw [List.find?_cons, List.find?_cons, ih h.of_cons]
  | swap m m' ms =>
    have hne : m'.1 ≠ m.1 := by
      intro he
      simp [he] at h
    by_cases hm : m.1 = key
    · have hm' : m'.1 ≠ key := hm ▸ hne
      simp [hm, hm']
    · simp [List.find?_cons, hm]
  | trans hp _ ih ih' => rw [ih h, ih' ((hp.map _).nodup_iff.1 h)]

/-- Where no key is repeated, all members are kept. -/
theorem sortMembers_perm {ms : List (String × Json)} (h : (ms.map (·.1)).Nodup) :
    (sortMembers ms).Perm ms := by
  have hp := List.mergeSort_perm ms fun a b => !decide (b.1 < a.1)
  have hsorted := (hp.map (·.1)).nodup_iff.2 h
  rw [sortMembers, keepLast_distinct _ [] (List.pairwise_map.1 hsorted)]
  simpa using hp

/-- Where no key is repeated, an object has the members it was made from. -/
theorem get?_object {ms : List (String × Json)} (h : (ms.map (·.1)).Nodup) (key : String) :
    (object ms).get? key = (ms.find? fun m => m.1 == key).map (·.2) := by
  have hp := sortMembers_perm h
  rw [object, get?, find?_key_perm hp ((hp.map (·.1)).nodup_iff.2 h)]

/-- Where no key is repeated, the members come to be in order. -/
theorem pairwise_sortMembers {ms : List (String × Json)} (h : (ms.map (·.1)).Nodup) :
    (sortMembers ms).Pairwise fun a b => a.1 < b.1 := by
  have hp := List.mergeSort_perm ms fun a b => !decide (b.1 < a.1)
  have hne := List.pairwise_map.1 ((hp.map (·.1)).nodup_iff.2 h)
  have hle : (ms.mergeSort fun a b => !decide (b.1 < a.1)).Pairwise
      fun a b => (!decide (b.1 < a.1)) = true := by
    refine List.pairwise_mergeSort (fun a b c hab hbc => ?_) (fun a b => ?_) ms
    · simp only [Bool.not_eq_true', decide_eq_false_iff_not] at hab hbc ⊢
      exact String.le_trans hab hbc
    · simp only [Bool.or_eq_true, Bool.not_eq_true', decide_eq_false_iff_not]
      exact String.le_total a.1 b.1
  rw [sortMembers, keepLast_distinct _ [] hne, List.reverse_nil, List.nil_append]
  refine (hne.and hle).imp fun {a b} ⟨hab, hba⟩ => ?_
  simp only [Bool.not_eq_true', decide_eq_false_iff_not] at hba
  by_contra hge
  exact hab (String.le_antisymm hba hge)

/-- Where no key is repeated, members can as well be inserted one by one, which can be evaluated. -/
theorem object_eq_insertionSort {ms : List (String × Json)} (h : (ms.map (·.1)).Nodup) :
    object ms = .obj (ms.insertionSort fun a b => ¬ b.1 < a.1) := by
  have : Std.Total fun a b : String × Json => ¬ b.1 < a.1 := ⟨fun a b => String.le_total a.1 b.1⟩
  have : IsTrans (String × Json) fun a b => ¬ b.1 < a.1 :=
    ⟨fun _ _ _ hab hbc => String.le_trans hab hbc⟩
  have hsort := sortMembers_perm h
  have hinsert := ms.perm_insertionSort fun a b => ¬ b.1 < a.1
  have hle : (sortMembers ms).Pairwise fun a b => ¬ b.1 < a.1 :=
    (pairwise_sortMembers h).imp fun hab => String.lt_asymm hab
  refine congrArg obj ((hsort.trans hinsert.symm).eq_of_pairwise (fun a b ha hb hab hba => ?_) hle
    (ms.pairwise_insertionSort _))
  exact List.inj_on_of_nodup_map h (hsort.mem_iff.1 ha) (hinsert.mem_iff.1 hb)
    (String.le_antisymm hab hba)

end Sidecar.Json
