/-
This file proves that records are read back field by field and says how deep they are.
-/
import FieldQuery.Json.Record
import FieldQuery.Proofs.Json.RoundTrip

namespace FieldQuery

open Number

namespace Json

/-- What is read back for each item is read back for all of them. -/
theorem mapM_map_of_eq_some {Item Written Read : Type} {write : Item → Written}
    {read : Written → Option Read} {result : Item → Read} {items : List Item}
    (each : ∀ item ∈ items, read (write item) = some (result item)) :
    (items.map write).mapM read = some (items.map result) := by
  induction items with
  | nil => rfl
  | cons first others inductionHypothesis =>
      obtain ⟨head, later⟩ := List.forall_mem_cons.mp each
      rw [List.map_cons, List.mapM_cons, head, inductionHypothesis later]
      rfl

/-- Items that are read back under some condition are read back together when each one meets it. -/
theorem mapM_map_of_eq_ite {Item Written : Type} {write : Item → Written}
    {read : Written → Option Item} {condition : Item → Prop} [DecidablePred condition]
    {items : List Item}
    (each : ∀ item ∈ items, read (write item) = if condition item then some item else none) :
    (items.map write).mapM read =
      if ∀ item ∈ items, condition item then some items else none := by
  induction items with
  | nil => rfl
  | cons first others inductionHypothesis =>
      obtain ⟨head, later⟩ := List.forall_mem_cons.mp each
      rw [List.map_cons, List.mapM_cons, head, inductionHypothesis later,
        if_congr List.forall_mem_cons rfl rfl]
      by_cases meets : condition first
      · by_cases rest : ∀ item ∈ others, condition item
        · simp only [if_pos meets, if_pos rest, if_pos (And.intro meets rest)]
          rfl
        · simp only [if_pos meets, if_neg rest, if_neg (fun both => rest (And.right both))]
          rfl
      · simp only [if_neg meets, if_neg (fun both => meets (And.left both))]
        rfl

/-- Each field of a record becomes a member under its name. -/
def memberOf (field : String × Json) : Content × Json := (some field.1, field.2)

/-- Only one member has the name of a field when all names differ. -/
theorem filter_map_memberOf {fields : List (String × Json)}
    (distinct : (fields.map Prod.fst).Nodup) {field : String × Json} (member : field ∈ fields) :
    (fields.map memberOf).filter (fun other => other.1 == some field.1) = [memberOf field] := by
  induction fields with
  | nil => cases member
  | cons first others inductionHypothesis =>
      obtain ⟨new, distinct⟩ := List.nodup_cons.mp distinct
      cases member with
      | head =>
          have none : (others.map memberOf).filter (fun other => other.1 == some field.1) = [] := by
            rw [List.filter_eq_nil_iff]
            intro member found same
            obtain ⟨other, later, rfl⟩ := List.mem_map.mp found
            have equal : other.1 = field.1 := by simpa [memberOf] using same
            exact new (equal ▸ List.mem_map_of_mem later)
          rw [List.map_cons, List.filter_cons_of_pos (by simp [memberOf]), none]
      | tail _ later =>
          have other : first.1 ≠ field.1 := fun same => new (same ▸ List.mem_map_of_mem later)
          rw [List.map_cons, List.filter_cons_of_neg (by simpa [memberOf] using other)]
          exact inductionHypothesis distinct later

/--
A record is spelled by an array of its fields in their order, or by an object that holds them under
their names, in any order and among members with other names.
-/
inductive SpellsRecord (fields : List (String × Json)) : Json → Prop where
  | array : SpellsRecord fields (.array (fields.map Prod.snd))
  | object {members others : List (Content × Json)}
      (order : members.Perm (fields.map memberOf ++ others))
      (unknown : ∀ member ∈ others, ∃ name, member.1 = some name ∧ name ∉ fields.map Prod.fst) :
      SpellsRecord fields (.object members)

theorem spellsRecord_record (fields : List (String × Json)) :
    SpellsRecord fields (record fields) := by
  have order : (fields.map memberOf).Perm (fields.map memberOf ++ []) := by rw [List.append_nil]
  exact .object order (List.forall_mem_nil _)

variable {fields : List (String × Json)} {payload : Json}

/-- Every field is read from each spelling of its record. -/
theorem SpellsRecord.fields?_eq (spells : SpellsRecord fields payload)
    (distinct : (fields.map Prod.fst).Nodup) :
    payload.fields? (fields.map Prod.fst) = some (fields.map Prod.snd) := by
  cases spells with
  | array => simp [fields?]
  | @object members others order unknown =>
      have named : members.all (fun member => member.1.isSome) = true := by
        refine List.all_eq_true.mpr fun member found => ?_
        obtain known | other := List.mem_append.mp (order.subset found)
        · obtain ⟨field, _, rfl⟩ := List.mem_map.mp known
          rfl
        · obtain ⟨name, same, _⟩ := unknown member other
          rw [same]
          rfl
      rw [fields?, if_pos named]
      refine mapM_map_of_eq_some fun field member => ?_
      have none : others.filter (fun other => other.1 == some field.1) = [] := by
        rw [List.filter_eq_nil_iff]
        intro other found same
        obtain ⟨name, named, new⟩ := unknown other found
        obtain rfl : name = field.1 := by simpa [named] using same
        exact new (List.mem_map_of_mem member)
      have found := order.filter fun other => other.1 == some field.1
      rw [List.filter_append, filter_map_memberOf distinct member, none, List.append_nil,
        List.perm_singleton] at found
      rw [field?, found]
      rfl

/-- The fields of a record lie inside every spelling of it. -/
theorem SpellsRecord.depth_lt (spells : SpellsRecord fields payload) {name : String} {value : Json}
    (member : (name, value) ∈ fields) : value.depth < payload.depth := by
  cases spells with
  | array =>
      have found : value ∈ fields.map Prod.snd := List.mem_map_of_mem member
      exact Nat.lt_succ_of_le (depth_le_itemsDepth found)
  | object order unknown =>
      have found := order.symm.subset (List.mem_append_left _ (List.mem_map_of_mem member))
      exact Nat.lt_succ_of_le (depth_le_membersDepth found)

theorem fields?_record (distinct : (fields.map Prod.fst).Nodup) :
    (record fields).fields? (fields.map Prod.fst) = some (fields.map Prod.snd) :=
  (spellsRecord_record fields).fields?_eq distinct

/-- Items fit within some depth when each of them does. -/
theorem itemsDepth_le_iff {items : List Json} {bound : Nat} :
    itemsDepth items ≤ bound ↔ ∀ item ∈ items, item.depth ≤ bound := by
  induction items with
  | nil => simp [itemsDepth]
  | cons first others inductionHypothesis =>
      rw [itemsDepth, Nat.max_le, inductionHypothesis, List.forall_mem_cons]

/-- An array some levels up fits into a bound when its levels do and each item fits below them. -/
theorem itemsDepth_add_le_iff {items : List Json} {levels bound : Nat} :
    itemsDepth items + levels ≤ bound ↔
      levels ≤ bound ∧ ∀ item ∈ items, item.depth ≤ bound - levels := by
  rw [← itemsDepth_le_iff]
  omega

@[simp] theorem depth_record (fields : List (String × Json)) :
    (record fields).depth = itemsDepth (fields.map Prod.snd) + 1 := by
  rw [record, depth, Nat.add_right_cancel_iff]
  induction fields with
  | nil => rfl
  | cons first others inductionHypothesis =>
      simp only [List.map_cons, membersDepth, itemsDepth, inductionHypothesis]

@[simp] theorem depth_tagged (name : String) (payload : Json) :
    (tagged name payload).depth = payload.depth + 1 := by
  simp [tagged, itemsDepth]

@[simp] theorem depth_text (value : String) : (text value).depth = 0 := rfl

@[simp] theorem depth_ofBinary {format : Format} (layout : Layout) (number : Binary format) :
    (ofBinary layout number).depth = 0 := by
  rw [ofBinary]
  cases number.numeral? layout <;> rfl

@[simp] theorem depth_array_map_text (values : List String) :
    (Json.array (values.map text)).depth = 1 := by
  rw [depth, Nat.add_eq_right]
  induction values with
  | nil => rfl
  | cons first others inductionHypothesis =>
      rw [List.map_cons, itemsDepth, inductionHypothesis, depth_text, Nat.max_self]

end Json

end FieldQuery
