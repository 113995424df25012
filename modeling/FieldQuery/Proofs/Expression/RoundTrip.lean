/-
This file proves which predicates are read back from their JSON texts.
-/
import FieldQuery.Expression.Codec
import FieldQuery.Proofs.Calendar
import FieldQuery.Proofs.Expression.Structure
import FieldQuery.Proofs.Json.Record

namespace FieldQuery

open Number

namespace Number.Numeral

/-- An integer of sixty-four bits is read back from its numeral. -/
theorem int64?_ofInt (value : Int64) :
    (ofInt value.toInt).int64? = some value := by
  have least : -(2 : Int) ^ 63 ≤ value.toInt := value.le_toInt
  have greatest : value.toInt < (2 : Int) ^ 63 := value.toInt_lt
  have integral : (ofInt value.toInt).isIntegral = true := rfl
  have whole : (ofInt value.toInt).whole = value.toInt.natAbs := rfl
  by_cases negative : value.toInt < 0
  · have sign : (ofInt value.toInt).negative = true := decide_eq_true negative
    have within : (ofInt value.toInt).whole ≠ 0 ∧ (ofInt value.toInt).whole ≤ signedCount := by
      rw [whole, signedCount]
      omega
    rw [int64?, if_pos integral, if_pos sign, if_pos within, whole,
      Int.ofNat_natAbs_of_nonpos (Int.le_of_lt negative), Int.neg_neg, Int64.ofInt_toInt]
  · have sign : ¬ (ofInt value.toInt).negative = true := by simpa [ofInt] using negative
    have within : (ofInt value.toInt).whole < signedCount := by
      rw [whole, signedCount]
      omega
    rw [int64?, if_pos integral, if_neg sign, if_pos within, whole,
      Int.natAbs_of_nonneg (Int.not_lt.mp negative), Int64.ofInt_toInt]

end Number.Numeral

/-- A constant number is read back when its numeral, if it has one, is read as the same number. -/
def Number.Binary.IsDoubleReadBack (number : Double) : Prop :=
  number.isFinite = true → (number.numeral? .double).bind Numeral.double? = some number

namespace Constant

theorem toJsonItems_eq_map (values : List Constant) : toJsonItems values = values.map toJson := by
  induction values with
  | nil => rfl
  | cons first rest inductionHypothesis => rw [toJsonItems, inductionHypothesis, List.map_cons]

/-- A constant is restorable within some room when its floats are finite and it is not too deep. -/
def IsRestorable (room : Nat) (value : Constant) : Prop :=
  value.floats.all Binary.isFinite = true ∧ value.toJson.depth ≤ room

instance (room : Nat) : DecidablePred (IsRestorable room) :=
  fun _ => inferInstanceAs (Decidable (_ ∧ _))

/-- A collection is restorable within two levels more than each of its values. -/
theorem isRestorable_collection {room : Nat} {values : List Constant} :
    (collection values).IsRestorable room ↔
      2 ≤ room ∧ ∀ value ∈ values, value.IsRestorable (room - 2) := by
  simp only [IsRestorable, floats, floatsOf_eq_flatMap, toJson, toJsonItems_eq_map,
    Json.depth_tagged, Json.depth, Nat.add_assoc, Json.itemsDepth_add_le_iff, List.forall_mem_map,
    List.all_flatMap, List.all_eq_true (l := values), forall_and]
  exact and_left_comm

/-- A single value is read one level below. -/
theorem ofJson?_tagged {kind : String} (other : kind ≠ "collection") (room : Nat) (payload : Json) :
    ofJson? room (.tagged kind payload) = if 1 ≤ room then single? kind payload else none := by
  cases room with
  | zero => rfl
  | succ room =>
      have tagged : (Json.tagged kind payload).tagged? = some (kind, payload) := rfl
      rw [ofJson?, tagged]
      simp [other]

/-- A collection is read two levels above its values. -/
theorem ofJson?_collection (room : Nat) (items : List Json) :
    ofJson? room (.tagged "collection" (.array items)) =
      if 2 ≤ room then (items.mapM (ofJson? (room - 2))).map .collection else none := by
  have tagged : (Json.tagged "collection" (.array items)).tagged? =
      some ("collection", .array items) := rfl
  match room with
  | 0 => rfl
  | 1 => simp only [ofJson?, tagged, if_true, Nat.reduceLeDiff, if_false]
  | inner + 2 =>
      simp only [ofJson?, tagged, if_true, Json.items?, if_pos (Nat.le_add_left 2 inner),
        Nat.add_sub_cancel]

/-- A single value without floats is read back where there is room for one level. -/
theorem ofJson?_toJson_single {value : Constant} {kind : String} (other : kind ≠ "collection")
    {payload : Json} (written : value.toJson = .tagged kind payload) (flat : payload.depth = 0)
    (only : value.floats = []) (read : single? kind payload = some value) (room : Nat) :
    ofJson? room value.toJson = if value.IsRestorable room then some value else none := by
  have exactly : value.IsRestorable room ↔ 1 ≤ room := by
    simp [IsRestorable, only, written, flat]
  rw [if_congr exactly rfl rfl, written, ofJson?_tagged other, read]

/-- A constant is read back exactly when it is restorable. -/
theorem ofJson?_toJson {value : Constant}
    (readBack : ∀ number ∈ value.floats, number.IsDoubleReadBack) (room : Nat) :
    ofJson? room value.toJson = if value.IsRestorable room then some value else none := by
  induction value using inductionOnMembers generalizing room with
  | text value => exact ofJson?_toJson_single (by decide) rfl rfl rfl rfl room
  | integer value =>
      have read : single? "integer" (.number (.ofInt value.toInt)) = some (.integer value) := by
        simp [single?, Json.number?, Numeral.int64?_ofInt]
      exact ofJson?_toJson_single (by decide) rfl rfl rfl read room
  | float value =>
      have exactly : (float value).IsRestorable room ↔ value.isFinite = true ∧ 1 ≤ room := by
        simp [IsRestorable, floats, toJson]
      have read : single? "float" (.ofBinary .double value) =
          ((value.numeral? .double).bind Numeral.double?).map .float := by
        rw [Json.ofBinary]
        cases value.numeral? .double <;> rfl
      rw [if_congr exactly rfl rfl, toJson, ofJson?_tagged (by decide), read]
      by_cases finite : value.isFinite = true
      · rw [readBack value (List.mem_singleton.mpr rfl) finite]
        simp [finite]
      · rw [Binary.numeral?, if_neg finite]
        simp [finite]
  | boolean value => exact ofJson?_toJson_single (by decide) rfl rfl rfl rfl room
  | date value =>
      have read : single? "date" (.text value.text) = some (.date value) := by
        simp [single?, Json.text, Json.text?, value.ofText?_text]
      exact ofJson?_toJson_single (by decide) rfl rfl rfl read room
  | collection values inductionHypothesis =>
      have each (inner : Nat) : ∀ value ∈ values, ofJson? inner value.toJson =
          if value.IsRestorable inner then some value else none := by
        intro value member
        refine inductionHypothesis value member (fun number found => readBack number ?_) inner
        rw [floats, floatsOf_eq_flatMap]
        exact List.mem_flatMap.mpr ⟨value, member, found⟩
      rw [toJson, toJsonItems_eq_map, ofJson?_collection, if_congr isRestorable_collection rfl rfl,
        Json.mapM_map_of_eq_ite (each (room - 2))]
      by_cases enough : 2 ≤ room
      · by_cases all : ∀ value ∈ values, value.IsRestorable (room - 2) <;> simp [enough, all]
      · simp [enough]

end Constant

namespace Expression

mutual

/-- The floats of a predicate are those of its constants. -/
def floats : Expression → List Double
  | .path _ => []
  | .constant value => value.floats
  | .operation _ arguments => floatsOf arguments

def floatsOf : List Expression → List Double
  | [] => []
  | first :: rest => floats first ++ floatsOf rest

end

theorem floatsOf_eq_flatMap (expressions : List Expression) :
    floatsOf expressions = expressions.flatMap floats := by
  induction expressions with
  | nil => rfl
  | cons first rest inductionHypothesis => rw [floatsOf, inductionHypothesis, List.flatMap_cons]

theorem toJsonItems_eq_map (expressions : List Expression) :
    toJsonItems expressions = expressions.map toJson := by
  induction expressions with
  | nil => rfl
  | cons first rest inductionHypothesis => rw [toJsonItems, inductionHypothesis, List.map_cons]

/-- A predicate is restorable within some room when its floats are finite and it is not too deep. -/
def IsRestorable (room : Nat) (expression : Expression) : Prop :=
  expression.floats.all Binary.isFinite = true ∧ expression.toJson.depth ≤ room

instance (room : Nat) : DecidablePred (IsRestorable room) :=
  fun _ => inferInstanceAs (Decidable (_ ∧ _))

theorem ofJson?_operator (room : Nat) (operator : Operator) :
    Operator.ofJson? room operator.toJson = some operator :=
  Operator.ofLongName?_longName operator

/-- An operation is restorable within three levels more than each of its arguments. -/
theorem isRestorable_operation {room : Nat} {operator : Operator} {arguments : List Expression} :
    (operation operator arguments).IsRestorable room ↔
      3 ≤ room ∧ ∀ argument ∈ arguments, argument.IsRestorable (room - 3) := by
  simp only [IsRestorable, floats, floatsOf_eq_flatMap, toJson, toJsonItems_eq_map,
    Json.depth_tagged, Json.depth_record, Json.depth, Json.itemsDepth, List.map_cons, List.map_nil,
    Operator.toJson, Json.depth_text, Nat.zero_max, Nat.max_zero, Nat.add_assoc,
    Json.itemsDepth_add_le_iff, List.forall_mem_map, List.all_flatMap,
    List.all_eq_true (l := arguments), forall_and]
  exact and_left_comm

/-- An operation is read three levels above its arguments. -/
theorem ofJson?_operation (room : Nat) (operator : Operator) (items : List Json) :
    ofJson? room (.tagged "operation" (.record [("operator", operator.toJson),
        ("args", .array items)])) =
      if 3 ≤ room then (items.mapM (ofJson? (room - 3))).map (.operation operator) else none := by
  have tagged (payload : Json) :
      (Json.tagged "operation" payload).tagged? = some ("operation", payload) := rfl
  have fields : (Json.record [("operator", operator.toJson), ("args", .array items)]).fields?
      ["operator", "args"] = some [operator.toJson, .array items] :=
    Json.fields?_record (show ["operator", "args"].Nodup by decide)
  match room with
  | 0 => rfl
  | 1 => simp [ofJson?, tagged]
  | 2 => simp [ofJson?, tagged]
  | inner + 3 => simp [ofJson?, tagged, fields, ofJson?_operator, Json.items?]

/-- A path is read where there is room for two levels. -/
theorem ofJson?_path (room : Nat) (name : String) :
    ofJson? room (.tagged "path" (.record [("name", .text name)])) =
      if 2 ≤ room then some (path name) else none := by
  have tagged (payload : Json) : (Json.tagged "path" payload).tagged? = some ("path", payload) :=
    rfl
  have fields : (Json.record [("name", .text name)]).fields? ["name"] = some [.text name] :=
    Json.fields?_record (show ["name"].Nodup by decide)
  match room with
  | 0 => rfl
  | 1 => simp only [ofJson?, tagged, if_true, pathOfJson?, if_false, Nat.reduceLeDiff]
  | inner + 2 =>
      simp only [ofJson?, tagged, if_true, pathOfJson?, fields]
      exact (if_pos (Nat.le_add_left 2 inner)).symm

theorem ofJson?_constant (room : Nat) (payload : Json) :
    ofJson? room (.tagged "constant" payload) =
      if 1 ≤ room then (Constant.ofJson? (room - 1) payload).map .constant else none := by
  have tagged : (Json.tagged "constant" payload).tagged? = some ("constant", payload) := rfl
  match room with
  | 0 => rfl
  | inner + 1 => simp [ofJson?, tagged]

/-- A constant alone is restorable within one level more than its value. -/
theorem isRestorable_constant {room : Nat} {value : Constant} :
    (constant value).IsRestorable room ↔ 1 ≤ room ∧ value.IsRestorable (room - 1) := by
  have fits : value.toJson.depth + 1 ≤ room ↔ 1 ≤ room ∧ value.toJson.depth ≤ room - 1 := by omega
  simp only [IsRestorable, Constant.IsRestorable, floats, toJson, Json.depth_tagged, fits]
  exact and_left_comm

/-- A predicate is read back exactly when it is restorable. -/
theorem ofJson?_toJson {expression : Expression}
    (readBack : ∀ number ∈ expression.floats, number.IsDoubleReadBack) (room : Nat) :
    ofJson? room expression.toJson =
      if expression.IsRestorable room then some expression else none := by
  induction expression using inductionOnArguments generalizing room with
  | path name =>
      have exactly : (path name).IsRestorable room ↔ 2 ≤ room := by
        simp [IsRestorable, floats, toJson, Json.itemsDepth]
      rw [if_congr exactly rfl rfl, toJson, ofJson?_path]
  | constant value =>
      rw [toJson, ofJson?_constant, if_congr isRestorable_constant rfl rfl,
        Constant.ofJson?_toJson readBack]
      by_cases enough : 1 ≤ room
      · by_cases inside : value.IsRestorable (room - 1) <;> simp [enough, inside]
      · simp [enough]
  | operation operator arguments inductionHypothesis =>
      have each (inner : Nat) : ∀ argument ∈ arguments, ofJson? inner argument.toJson =
          if argument.IsRestorable inner then some argument else none := by
        intro argument member
        refine inductionHypothesis argument member (fun number found => readBack number ?_) inner
        rw [floats, floatsOf_eq_flatMap]
        exact List.mem_flatMap.mpr ⟨argument, member, found⟩
      rw [toJson, toJsonItems_eq_map, ofJson?_operation, if_congr isRestorable_operation rfl rfl,
        Json.mapM_map_of_eq_ite (each (room - 3))]
      by_cases enough : 3 ≤ room
      · by_cases all : ∀ argument ∈ arguments, argument.IsRestorable (room - 3) <;>
          simp [enough, all]
      · simp [enough]

/--
The text of a predicate is read back as this predicate when all floats in it are finite and its
arrays and objects stand inside each other within the limit; otherwise the text is refused. The
floats are supposed to be read back from their shortest digits.
-/
theorem parse?_written {expression : Expression}
    (readBack : ∀ number ∈ expression.floats, number.IsDoubleReadBack) :
    parse? expression.toJson.toText =
      if expression.floats.all Binary.isFinite = true ∧ expression.toJson.depth ≤ 127 then
        some expression
      else none := by
  rw [parse?, Json.parse?_toText, Option.bind_some]
  exact ofJson?_toJson readBack Json.depthLimit

/-- One and a half lies in the middle of the ranks between one and two. -/
def threeHalves : Double := .ofRank false 0x3FF8000000000000

/-- One and a half is read back. -/
theorem isDoubleReadBack_threeHalves : threeHalves.IsDoubleReadBack := by
  intro finite
  have exact : Format.double.shortest .even 0x3FF8000000000000 = ⟨15, -1⟩ ∧
      Format.double.quotient (Format.double.ofNat 15) (Format.double.ofNat (Nat.pow 10 1)) =
        0x3FF8000000000000 := by
    decide +kernel
  have tenth : shrink (Format.double.ofNat 15) 1 = 0x3FF8000000000000 := by
    rw [shrink, if_pos (by decide), exact.2]
  have rank : (⟨false, 1, [5], none⟩ : Numeral).doubleRank? =
      some (shrink (Format.double.ofNat 15) 1) := rfl
  have written : threeHalves.numeral? .double = some ⟨false, 1, [5], none⟩ := by
    rw [Binary.numeral?, if_pos finite]
    change some (Layout.double.numeral false (Format.double.shortest .even 0x3FF8000000000000)) = _
    rw [exact.1]
    decide
  rw [written, Option.bind_some, Numeral.double?, rank, tenth, Option.map_some]
  rfl

/-- Forty combinations of memberships inside each other are read back, but not one more. -/
theorem parse?_written_chain :
    let values := [Constant.float threeHalves, .integer (-5), .date ⟨-44, 3, 15, rfl⟩]
    let last := operation .oneOf [.path "f", .constant (.collection values)]
    let chain := fun count => Nat.repeat (fun left => operation .and [left, last]) count last
    parse? (chain 40).toJson.toText = some (chain 40) ∧
    parse? (chain 41).toJson.toText = none ∧
    parse? (constant (.float (.infinite false))).toJson.toText = none := by
  intro values last chain
  have step (count : Nat) : chain (count + 1) = operation .and [chain count, last] := rfl
  have lastFloats : last.floats = [threeHalves] := rfl
  have only (count : Nat) : ∀ number ∈ (chain count).floats, number = threeHalves := by
    induction count with
    | zero => exact List.forall_mem_singleton.mpr rfl
    | succ count inductionHypothesis =>
        rw [step, floats, floatsOf_eq_flatMap]
        simp only [List.flatMap_cons, List.flatMap_nil, List.append_nil, lastFloats]
        exact List.forall_mem_append.mpr ⟨inductionHypothesis, List.forall_mem_singleton.mpr rfl⟩
  have readBack (count : Nat) : ∀ number ∈ (chain count).floats, number.IsDoubleReadBack :=
    fun number member => only count number member ▸ isDoubleReadBack_threeHalves
  have finite (count : Nat) : (chain count).floats.all Binary.isFinite = true :=
    List.all_eq_true.mpr fun number member => only count number member ▸ by decide
  have lastDepth : last.toJson.depth = 7 := by
    simp [last, values, toJson, toJsonItems, Operator.toJson, Constant.toJson,
      Constant.toJsonItems, Json.depth, Json.itemsDepth]
  have deep (count : Nat) : (chain count).toJson.depth = 3 * count + 7 := by
    induction count with
    | zero => exact lastDepth
    | succ count inductionHypothesis =>
        simp only [step, toJson, toJsonItems, Json.depth_tagged, Json.depth_record, Json.depth,
          Json.itemsDepth, List.map_cons, List.map_nil, Operator.toJson, Json.depth_text,
          inductionHypothesis, lastDepth]
        omega
  have infinite : ∀ number ∈ (constant (.float (.infinite false))).floats,
      number.IsDoubleReadBack := by
    intro number member finite
    obtain rfl := List.mem_singleton.mp member
    exact absurd finite (by decide)
  refine ⟨?_, ?_, ?_⟩
  · rw [parse?_written (readBack 40)]
    exact if_pos ⟨finite 40, by rw [deep]⟩
  · rw [parse?_written (readBack 41)]
    refine if_neg fun restorable => ?_
    have shallow := restorable.2
    rw [deep] at shallow
    exact absurd shallow (by decide)
  · rw [parse?_written infinite]
    exact if_neg fun restorable => absurd restorable.1 (by decide)

end Expression

end FieldQuery
