/-
This file proves which queries are read back from their JSON texts.
-/
import FieldQuery.Proofs.Json.Record
import FieldQuery.Proofs.Json.RoundTrip
import FieldQuery.Proofs.Number.Restoring
import FieldQuery.Proofs.Query.Structure
import FieldQuery.Query.Codec

namespace FieldQuery

open Number

theorem Occur.ofJson?_toJson (room : Nat) (occur : Occur) :
    ofJson? room occur.toJson = some occur := by
  cases occur <;> rfl

/-- A bound is read back where there is room for it. -/
theorem Bound.ofJson?_toJson (room : Nat) (bound : Bound) :
    ofJson? room bound.toJson = if bound.toJson.depth ≤ room then some bound else none := by
  cases bound <;> cases room <;> rfl

namespace Query

/-- A boost is read from its numeral when it is finite, and not from a null. -/
theorem boostOfJson?_ofBinary (boost : Single) :
    boostOfJson? (.ofBinary .single boost) =
      if boost.isFinite = true then some boost else none := by
  have read : boostOfJson? (.ofBinary .single boost) =
      (boost.numeral? .single).bind Numeral.single? := by
    rw [Json.ofBinary]
    cases boost.numeral? .single <;> rfl
  by_cases finite : boost.isFinite = true
  · rw [read, Binary.bind_single?_numeral? finite, if_pos finite]
  · rw [read, Binary.numeral?, if_neg finite, if_neg finite]
    rfl

variable {payload : Json} {field : String} {boost : Single}

/-- A record of a field, a text and a finite boost is read. -/
theorem textual?_of_spells {name : String} (distinct : ["field", name, "boost"].Nodup)
    {build : String → String → Single → Query} {word : String}
    (spells : Json.SpellsRecord [("field", .text field), (name, .text word),
      ("boost", .ofBinary .single boost)] payload) :
    textual? name build payload =
      if boost.isFinite = true then some (build field word boost) else none := by
  have fields : payload.fields? ["field", name, "boost"] =
      some [.text field, .text word, .ofBinary .single boost] :=
    spells.fields?_eq distinct
  rw [textual?, fields]
  simp only [boostOfJson?_ofBinary]
  cases boost.isFinite <;> rfl

/-- A record of a phrase with a finite boost is read where there is room for its words. -/
theorem phrase?_of_spells (room : Nat) {words : List String}
    (spells : Json.SpellsRecord [("field", .text field), ("terms", .array (words.map .text)),
      ("boost", .ofBinary .single boost)] payload) :
    phrase? room payload =
      if boost.isFinite = true ∧ 1 ≤ room then some (.phrase field words boost) else none := by
  have distinct : ["field", "terms", "boost"].Nodup := by decide
  have fields : payload.fields? ["field", "terms", "boost"] =
      some [.text field, .array (words.map .text), .ofBinary .single boost] :=
    spells.fields?_eq distinct
  have texts : (words.map Json.text).mapM Json.text? = some words := by
    have each : ∀ word ∈ words, (Json.text word).text? = some (id word) := fun _ _ => rfl
    simpa using Json.mapM_map_of_eq_some each
  cases room with
  | zero => simp [phrase?]
  | succ room =>
      simp only [phrase?, fields, boostOfJson?_ofBinary, Json.items?, Option.bind_some, texts]
      cases boost.isFinite <;> simp [Json.text?, Json.text]

/-- A record of a range with a finite boost is read when its bounds are. -/
theorem range?_of_spells (room : Nat) {lower upper : Json}
    (spells : Json.SpellsRecord [("field", .text field), ("lower_bound", lower),
      ("upper_bound", upper), ("boost", .ofBinary .single boost)] payload) :
    range? room payload = (Bound.ofJson? room lower).bind fun least =>
      (Bound.ofJson? room upper).bind fun greatest =>
        if boost.isFinite = true then some (.range field least greatest boost) else none := by
  have distinct : ["field", "lower_bound", "upper_bound", "boost"].Nodup := by decide
  have fields : payload.fields? ["field", "lower_bound", "upper_bound", "boost"] =
      some [.text field, lower, upper, .ofBinary .single boost] :=
    spells.fields?_eq distinct
  have named : (Json.text field).text? = some field := rfl
  rw [range?, fields]
  simp only [named, boostOfJson?_ofBinary]
  cases Bound.ofJson? room lower with
  | none => rfl
  | some least =>
      cases Bound.ofJson? room upper with
      | none => rfl
      | some greatest => cases boost.isFinite <;> rfl

/-- A variant other than a boolean query is read two levels below. -/
theorem ofJson?_tagged {kind : String} (other : kind ≠ "boolean") (room : Nat) (payload : Json) :
    ofJson? room (.tagged kind payload) =
      if 2 ≤ room then fielded? (room - 2) kind payload else none := by
  match room with
  | 0 => rfl
  | 1 => rfl
  | room + 2 =>
      have tagged : (Json.tagged kind payload).tagged? = some (kind, payload) := rfl
      rw [ofJson?, tagged]
      simp [other]

/-- A clause is read when its query and its occurrence are. -/
theorem clause?_of_spells (room : Nat) {query? : Json → Option Query} {query occur : Json}
    (spells : Json.SpellsRecord [("query", query), ("occur", occur)] payload) :
    clause? room query? payload = (query? query).bind fun inner =>
      (Occur.ofJson? room occur).map fun occur => ⟨occur, inner⟩ := by
  have distinct : ["query", "occur"].Nodup := by decide
  have fields : payload.fields? ["query", "occur"] = some [query, occur] :=
    spells.fields?_eq distinct
  rw [clause?, fields]
  cases asked : query? query with
  | none => simp [asked]
  | some inner => cases found : Occur.ofJson? room occur <;> simp [asked, found]

theorem clausesToJson_eq_map (clauses : List Clause) :
    clausesToJson clauses = clauses.map fun clause =>
      .record [("query", clause.query.toJson), ("occur", clause.occur.toJson)] := by
  induction clauses with
  | nil => rfl
  | cons clause others inductionHypothesis =>
      obtain ⟨occur, query⟩ := clause
      rw [clausesToJson, inductionHypothesis, List.map_cons]

/-- Clauses are one level above their queries. -/
theorem itemsDepth_clausesToJson_le_iff {clauses : List Clause} {bound : Nat} :
    Json.itemsDepth (clausesToJson clauses) ≤ bound + 1 ↔
      ∀ clause ∈ clauses, clause.query.toJson.depth ≤ bound := by
  induction clauses with
  | nil => simp [clausesToJson, Json.itemsDepth]
  | cons clause others inductionHypothesis =>
      obtain ⟨occur, query⟩ := clause
      have shallow : occur.toJson.depth = 0 := rfl
      simp only [clausesToJson, Json.itemsDepth, Json.depth_record, List.map_cons, List.map_nil,
        shallow, Nat.max_zero, Nat.max_le, Nat.add_le_add_iff_right, inductionHypothesis,
        List.forall_mem_cons]

/-- A boolean query with a finite boost needs three levels, and with clauses one more and theirs. -/
theorem ofJson?_boolean {clauses : List Json}
    (spells : Json.SpellsRecord [("clauses", .array clauses),
      ("boost", .ofBinary .single boost)] payload) (room : Nat) :
    ofJson? room (.tagged "boolean" payload) =
      match room with
      | inner + 4 => (clauses.mapM (clause? inner (ofJson? inner))).bind fun clauses =>
          if boost.isFinite = true then some (.boolean clauses boost) else none
      | 3 => if clauses.isEmpty ∧ boost.isFinite = true then some (.boolean [] boost) else none
      | _ => none := by
  have tagged (payload : Json) :
      (Json.tagged "boolean" payload).tagged? = some ("boolean", payload) := rfl
  have distinct : ["clauses", "boost"].Nodup := by decide
  have fields : payload.fields? ["clauses", "boost"] =
      some [.array clauses, .ofBinary .single boost] :=
    spells.fields?_eq distinct
  match room with
  | 0 => rfl
  | 1 => rfl
  | 2 => simp only [ofJson?, tagged, if_true, fields]
  | 3 =>
      simp only [ofJson?, tagged, if_true, fields, boostOfJson?_ofBinary, Json.items?]
      by_cases finite : boost.isFinite = true <;> cases clauses <;> simp [finite]
  | inner + 4 =>
      simp only [ofJson?, tagged, if_true, fields, boostOfJson?_ofBinary, Json.items?]
      by_cases finite : boost.isFinite = true
      · simp only [if_pos finite]
        cases clauses with
        | nil => rfl
        | cons first others => simp only [Option.map_eq_bind, Function.comp_def]
      · simp only [if_neg finite]
        cases clauses with
        | nil => rfl
        | cons first others => cases (first :: others).mapM (clause? inner (ofJson? inner)) <;> rfl

theorem depth_boolean (clauses : List Clause) (boost : Single) :
    (boolean clauses boost).toJson.depth = Json.itemsDepth (clausesToJson clauses) + 3 := by
  simp only [toJson, Json.depth_tagged, Json.depth_record, Json.depth, Json.itemsDepth,
    List.map_cons, List.map_nil, Json.depth_ofBinary, Nat.max_zero]

/-- A query is restorable within some room when its boosts are finite and it is not too deep. -/
def IsRestorable (room : Nat) (query : Query) : Prop :=
  query.boosts.all Binary.isFinite = true ∧ query.toJson.depth ≤ room

instance (room : Nat) : DecidablePred (IsRestorable room) :=
  fun _ => inferInstanceAs (Decidable (_ ∧ _))

/-- A query with one boost is restorable when this is finite and there is room. -/
theorem isRestorable_iff_of_boosts {query : Query} (one : query.boosts = [boost]) {room : Nat} :
    query.IsRestorable room ↔ boost.isFinite = true ∧ query.toJson.depth ≤ room := by
  simp [IsRestorable, one]

/-- A boolean query is restorable within four levels more than the query of each of its clauses. -/
theorem isRestorable_boolean {clauses : List Clause} {room : Nat} :
    (boolean clauses boost).IsRestorable (room + 4) ↔
      (∀ clause ∈ clauses, clause.query.IsRestorable room) ∧ boost.isFinite = true := by
  have levels : Json.itemsDepth (clausesToJson clauses) + 3 ≤ room + 4 ↔
      ∀ clause ∈ clauses, clause.query.toJson.depth ≤ room := by
    rw [← itemsDepth_clausesToJson_le_iff]
    exact Nat.add_le_add_iff_right
  have finite : (clauseBoosts clauses).all Binary.isFinite = true ↔
      ∀ clause ∈ clauses, clause.query.boosts.all Binary.isFinite = true := by
    rw [clauseBoosts_eq_flatMap, List.all_flatMap, List.all_eq_true]
  simp only [IsRestorable, boosts, List.all_cons, Bool.and_eq_true, depth_boolean, levels, finite,
    forall_and]
  tauto

/-- A variant with a field, a text and a boost is read back. -/
theorem ofJson?_textual {kind name : String} (other : kind ≠ "boolean")
    {build : String → String → Single → Query}
    (read : ∀ room payload, fielded? room kind payload = textual? name build payload)
    (distinct : ["field", name, "boost"].Nodup) {word : String}
    (one : (build field word boost).boosts = [boost])
    (written : (build field word boost).toJson = .tagged kind (.record [("field", .text field),
      (name, .text word), ("boost", .ofBinary .single boost)])) (room : Nat) :
    ofJson? room (build field word boost).toJson =
      if (build field word boost).IsRestorable room then some (build field word boost)
      else none := by
  have exactly : (build field word boost).toJson.depth = 2 := by
    simp [written, Json.itemsDepth]
  rw [if_congr (isRestorable_iff_of_boosts one) rfl rfl, exactly, written, ofJson?_tagged other,
    read, textual?_of_spells distinct (Json.spellsRecord_record _), ite_and]
  split <;> split <;> rfl

/-- A boolean query is read back if the queries of its clauses are. -/
theorem ofJson?_toJson_boolean {clauses : List Clause}
    (each : ∀ inner, ∀ clause ∈ clauses, ofJson? inner clause.query.toJson =
      if clause.query.IsRestorable inner then some clause.query else none) (room : Nat) :
    ofJson? room (boolean clauses boost).toJson =
      if (boolean clauses boost).IsRestorable room then some (boolean clauses boost)
      else none := by
  rw [toJson, ofJson?_boolean (Json.spellsRecord_record _)]
  match room with
  | 0 => simp [IsRestorable, depth_boolean]
  | 1 => simp [IsRestorable, depth_boolean]
  | 2 => simp [IsRestorable, depth_boolean]
  | 3 =>
      -- There is no room for a clause here, but for an empty array of them.
      cases clauses with
      | nil => simp [IsRestorable, depth_boolean, clausesToJson, Json.itemsDepth, boosts,
          clauseBoosts]
      | cons clause others =>
          obtain ⟨occur, query⟩ := clause
          simp [IsRestorable, depth_boolean, clausesToJson, Json.itemsDepth]
  | inner + 4 =>
      have read : (clausesToJson clauses).mapM (clause? inner (ofJson? inner)) =
          if ∀ clause ∈ clauses, clause.query.IsRestorable inner then some clauses else none := by
        rw [clausesToJson_eq_map]
        refine Json.mapM_map_of_eq_ite fun clause member => ?_
        obtain ⟨occur, query⟩ := clause
        rw [clause?_of_spells inner (Json.spellsRecord_record _), each inner _ member,
          Occur.ofJson?_toJson]
        by_cases restorable : query.IsRestorable inner <;> simp [restorable]
      rw [if_congr isRestorable_boolean rfl rfl]
      simp only [read, ite_and]
      by_cases restorable : ∀ clause ∈ clauses, clause.query.IsRestorable inner
      · simp only [if_pos restorable, Option.bind_some]
      · simp only [if_neg restorable, Option.bind_none]

/-- A query is read back exactly when it is restorable. -/
theorem ofJson?_toJson (query : Query) (room : Nat) :
    ofJson? room query.toJson = if query.IsRestorable room then some query else none := by
  induction query using inductionOnClauses generalizing room with
  | term field word boost =>
      exact ofJson?_textual (by decide) (fun _ _ => rfl) (by decide) rfl rfl room
  | phrase field words boost =>
      have exactly : (phrase field words boost).toJson.depth = 3 := by
        simp [toJson, Json.itemsDepth]
      have read (room : Nat) (payload : Json) :
          fielded? room "phrase" payload = phrase? room payload := rfl
      rw [if_congr (isRestorable_iff_of_boosts rfl) rfl rfl, exactly, toJson,
        ofJson?_tagged (by decide), read, phrase?_of_spells _ (Json.spellsRecord_record _)]
      by_cases enough : 2 ≤ room
      · simp [enough, show 1 ≤ room - 2 ↔ 3 ≤ room by omega]
      · simp [enough, show ¬ 3 ≤ room by omega]
  | wildcard field pattern boost =>
      exact ofJson?_textual (by decide) (fun _ _ => rfl) (by decide) rfl rfl room
  | prefixed field start boost =>
      exact ofJson?_textual (by decide) (fun _ _ => rfl) (by decide) rfl rfl room
  | range field lower upper boost =>
      have exactly : (range field lower upper boost).toJson.depth ≤ room ↔
          2 ≤ room ∧ lower.toJson.depth ≤ room - 2 ∧ upper.toJson.depth ≤ room - 2 := by
        simp only [toJson, Json.depth_tagged, Json.depth_record, Json.itemsDepth, List.map_cons,
          List.map_nil, Json.depth_text, Json.depth_ofBinary]
        omega
      have read (room : Nat) (payload : Json) :
          fielded? room "range" payload = range? room payload := rfl
      rw [if_congr ((isRestorable_iff_of_boosts rfl).trans (and_congr_right fun _ => exactly)) rfl
        rfl, toJson, ofJson?_tagged (by decide), read,
        range?_of_spells _ (Json.spellsRecord_record _), Bound.ofJson?_toJson,
        Bound.ofJson?_toJson]
      by_cases enough : 2 ≤ room
      · by_cases low : lower.toJson.depth ≤ room - 2
        · by_cases high : upper.toJson.depth ≤ room - 2 <;> simp [enough, low, high]
        · simp [enough, low]
      · simp [enough]
  | boolean clauses boost inductionHypothesis =>
      exact ofJson?_toJson_boolean (fun inner clause member =>
        inductionHypothesis clause member inner) room

/--
The text of a query is read back as this query when all boosts in it are finite and its arrays and
objects stand inside each other within the limit; otherwise the text is refused.
-/
theorem parse?_toText_toJson (query : Query) :
    parse? query.toJson.toText =
      if query.boosts.all Binary.isFinite = true ∧ query.toJson.depth ≤ 127 then some query
      else none := by
  rw [parse?, Json.parse?_toText, Option.bind_some]
  exact ofJson?_toJson query Json.depthLimit

/-- Thirty-two boolean queries inside each other are read back, but not one more. -/
theorem parse?_toText_toJson_nested :
    let nested := fun count => Nat.repeat (fun query => allWith .must [query]) count
      (allWith .must [])
    parse? (nested 31).toJson.toText = some (nested 31) ∧
    parse? (nested 32).toJson.toText = none ∧
    parse? (term "f" "a" (.infinite false)).toJson.toText = none := by
  intro nested
  have step (count : Nat) : nested (count + 1) = allWith .must [nested count] := rfl
  have ones (count : Nat) : ∀ boost ∈ (nested count).boosts, boost = .one := by
    induction count with
    | zero => simp [nested, Nat.repeat, allWith, boosts, clauseBoosts]
    | succ count inductionHypothesis =>
        simpa [step, allWith, boosts, clauseBoosts] using inductionHypothesis
  have finite (count : Nat) : (nested count).boosts.all Binary.isFinite = true :=
    List.all_eq_true.mpr fun boost member => ones count boost member ▸ rfl
  have deep (count : Nat) : (nested count).toJson.depth = 4 * count + 3 := by
    induction count with
    | zero => rfl
    | succ count inductionHypothesis =>
        have mark : Occur.must.toJson.depth = 0 := rfl
        simp only [step, allWith, toJson, clausesToJson, List.map_cons, List.map_nil,
          Json.depth_tagged, Json.depth_record, Json.depth, Json.itemsDepth, Json.depth_ofBinary,
          mark, inductionHypothesis]
        omega
  refine ⟨?_, ?_, ?_⟩
  · rw [parse?_toText_toJson]
    exact if_pos ⟨finite 31, by rw [deep]⟩
  · rw [parse?_toText_toJson]
    refine if_neg fun restorable => ?_
    have shallow := restorable.2
    rw [deep] at shallow
    exact absurd shallow (by decide)
  · rw [parse?_toText_toJson]
    exact if_neg fun restorable => absurd restorable.1 (by decide)

end Query

end FieldQuery
