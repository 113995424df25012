/-
This file proves that the values of a field have one order by a key, however they are permuted, and
that the reversed key gives its reverse.
-/
import FieldQuery.Proofs.SortOrder

namespace FieldQuery.SortKey

/-- A reversed key compares the other way round. -/
theorem compare_reversed (field : String) :
    compare ⟨field, true⟩ = fun left right => compare ⟨field, false⟩ right left := by
  funext left right
  have swapped : Text.collate right left = (Text.collate left right).swap := Std.OrientedCmp.eq_swap
  exact swapped.symm

instance (key : SortKey) : Std.TransCmp key.compare := by
  obtain ⟨field, reversed⟩ := key
  cases reversed with
  | false => exact inferInstanceAs (Std.TransCmp Text.collate)
  | true =>
      rw [compare_reversed]
      exact inferInstanceAs (Std.TransCmp fun left right => Text.collate right left)

instance (key : SortKey) : Std.LawfulEqCmp key.compare where
  eq_of_compare {left right} same := by
    obtain ⟨field, reversed⟩ := key
    cases reversed with
    | false =>
        have equal : Text.collate left right = .eq := same
        exact Std.LawfulEqCmp.eq_of_compare equal
    | true =>
        rw [compare_reversed] at same
        have equal : Text.collate right left = .eq := same
        exact (Std.LawfulEqCmp.eq_of_compare equal).symm

/-- Values are ordered when none of them exceeds a later one. -/
def IsOrdered (key : SortKey) (values : List String) : Prop :=
  values.Pairwise fun left right => (key.compare left right).isLE

/-- Sorted values are ordered. -/
theorem isOrdered_sort (key : SortKey) (values : List String) :
    key.IsOrdered (key.sort values) := by
  refine List.pairwise_mergeSort ?_ ?_ values
  · exact fun _ _ _ => Std.TransCmp.isLE_trans
  · intro left right
    have swapped : key.compare right left = (key.compare left right).swap :=
      Std.OrientedCmp.eq_swap
    rw [swapped]
    cases key.compare left right <;> decide

theorem sort_perm (key : SortKey) (values : List String) : (key.sort values).Perm values :=
  List.mergeSort_perm values _

/-- Ordered values are the only ordered permutation of themselves. -/
theorem IsOrdered.eq_of_perm {key : SortKey} {values others : List String}
    (ordered : key.IsOrdered values) (alsoOrdered : key.IsOrdered others)
    (perm : values.Perm others) : values = others := by
  refine perm.eq_of_pairwise (fun left right _ _ least greatest => ?_) ordered alsoOrdered
  have equal := Std.OrientedCmp.isLE_antisymm least greatest
  exact Std.LawfulEqCmp.eq_of_compare equal

/-- Ordered values are ordered by the reversed key when they are read from the end. -/
theorem IsOrdered.reverse {field : String} {values : List String}
    (ordered : IsOrdered ⟨field, false⟩ values) : IsOrdered ⟨field, true⟩ values.reverse := by
  rw [IsOrdered, compare_reversed]
  exact List.pairwise_reverse.mpr ordered

/--
Sorted values are the only ordered permutation of the values, so that all permutations of the values
are sorted alike. The reversed key sorts them to the reverse.
-/
theorem sort_canonical (key : SortKey) (values : List String) :
    (∀ result, result = key.sort values ↔ result.Perm values ∧ key.IsOrdered result) ∧
    (∀ others, others.Perm values → key.sort others = key.sort values) ∧
    sort ⟨key.field, true⟩ values = (sort ⟨key.field, false⟩ values).reverse := by
  have ordered (key : SortKey) := key.isOrdered_sort values
  have perm (key : SortKey) := key.sort_perm values
  refine ⟨fun result => ⟨?_, ?_⟩, fun others permuted => ?_, ?_⟩
  · rintro rfl
    exact ⟨perm key, ordered key⟩
  · rintro ⟨permuted, inOrder⟩
    exact inOrder.eq_of_perm (ordered key) (permuted.trans (perm key).symm)
  · have same := (key.sort_perm others).trans (permuted.trans (perm key).symm)
    exact (key.isOrdered_sort others).eq_of_perm (ordered key) same
  · have reversed := (List.reverse_perm _).trans (perm ⟨key.field, false⟩)
    exact (ordered _).eq_of_perm (ordered _).reverse ((perm _).trans reversed.symm)

/-- Case variants in another order are sorted alike, and the other way round by the reversed key. -/
theorem sort_canonical_variants :
    ["b", "A", "a"].Perm ["a", "b", "A"] ∧
    sort ⟨"f", false⟩ ["b", "A", "a"] = ["a", "A", "b"] ∧
    sort ⟨"f", false⟩ ["a", "b", "A"] = ["a", "A", "b"] ∧
    sort ⟨"f", true⟩ ["a", "b", "A"] = ["b", "A", "a"] := by
  have perm : ["b", "A", "a"].Perm ["a", "b", "A"] := by decide
  obtain ⟨unique, alike, reverse⟩ := sort_canonical ⟨"f", false⟩ ["a", "b", "A"]
  have ordered : IsOrdered ⟨"f", false⟩ ["a", "A", "b"] := by
    unfold IsOrdered
    decide
  have sorted := (unique ["a", "A", "b"]).mpr ⟨by decide, ordered⟩
  refine ⟨perm, (alike _ perm).trans sorted.symm, sorted.symm, ?_⟩
  rw [reverse, ← sorted]
  rfl

end FieldQuery.SortKey
