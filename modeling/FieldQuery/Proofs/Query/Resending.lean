/-
This file proves when a query that was read from any document is read again from its own text.
-/
import FieldQuery.Proofs.Query.RoundTrip

namespace FieldQuery

open Number

namespace Json

/-- What is read for all items is read for each result from one of them. -/
theorem exists_mem_of_mapM_eq_some {Item Result : Type} {read : Item → Option Result}
    {items : List Item} {results : List Result} (all : items.mapM read = some results)
    {result : Result} (member : result ∈ results) : ∃ item ∈ items, read item = some result := by
  induction items generalizing results with
  | nil =>
      obtain rfl : [] = results := by simpa using all
      cases member
  | cons first others inductionHypothesis =>
      rw [List.mapM_cons] at all
      obtain ⟨head, readFirst, rest⟩ := Option.bind_eq_some_iff.mp all
      obtain ⟨tail, readOthers, same⟩ := Option.bind_eq_some_iff.mp rest
      obtain rfl : head :: tail = results := by simpa using same
      cases member with
      | head => exact ⟨first, List.mem_cons_self, readFirst⟩
      | tail _ later =>
          obtain ⟨item, found, readItem⟩ := inductionHypothesis readOthers later
          exact ⟨item, List.mem_cons_of_mem _ found, readItem⟩

end Json

/-- A bound that was read fits into the room in which it was read. -/
theorem Bound.depth_le_of_ofJson? {room : Nat} {json : Json} {bound : Bound}
    (read : ofJson? room json = some bound) : bound.toJson.depth ≤ room := by
  unfold ofJson? presentOfJson? at read
  split at read
  · obtain rfl : unbounded = bound := by simpa using read
    exact Nat.zero_le room
  · split at read
    · have shallow : bound.toJson.depth ≤ 1 := by cases bound <;> simp [toJson]
      exact shallow.trans (Nat.le_add_left 1 _)
    · cases read

namespace Query

variable {room : Nat} {payload : Json} {query : Query}

/-- A query with a field, one text and a boost fits into two levels. -/
theorem depth_le_of_textual? {name : String} {build : String → String → Single → Query}
    (flat : ∀ field text boost, (build field text boost).toJson.depth = 2)
    (read : textual? name build payload = some query) : query.toJson.depth ≤ room + 2 := by
  unfold textual? at read
  split at read
  · split at read
    · obtain rfl : build _ _ _ = query := by simpa using read
      rw [flat]
      exact Nat.le_add_left 2 room
    · cases read
  · cases read

/-- A phrase that was read fits into two levels more than its payload. -/
theorem depth_le_of_phrase? (read : phrase? room payload = some query) :
    query.toJson.depth ≤ room + 2 := by
  unfold phrase? at read
  split at read
  · split at read
    · obtain rfl : phrase _ _ _ = query := by simpa using read
      simp only [toJson, Json.depth_tagged, Json.depth_record, Json.itemsDepth, List.map_cons,
        List.map_nil, Json.depth_text, Json.depth_ofBinary, Json.depth_array_map_text]
      omega
    · cases read
  · cases read

/-- A range that was read fits into two levels more than its payload. -/
theorem depth_le_of_range? (read : range? room payload = some query) :
    query.toJson.depth ≤ room + 2 := by
  unfold range? at read
  split at read
  · split at read
    · rename_i lowerRead upperRead _
      obtain rfl : range _ _ _ _ = query := by simpa using read
      have low := Bound.depth_le_of_ofJson? lowerRead
      have high := Bound.depth_le_of_ofJson? upperRead
      simp only [toJson, Json.depth_tagged, Json.depth_record, Json.itemsDepth, List.map_cons,
        List.map_nil, Json.depth_text, Json.depth_ofBinary]
      omega
    · cases read
  · cases read

/-- A query with a field fits into two levels more than its payload. -/
theorem depth_le_of_fielded? {kind : String} (read : fielded? room kind payload = some query) :
    query.toJson.depth ≤ room + 2 := by
  unfold fielded? at read
  split at read
  · exact depth_le_of_textual? (fun _ _ _ => by simp [toJson, Json.itemsDepth]) read
  split at read
  · exact depth_le_of_phrase? read
  split at read
  · exact depth_le_of_textual? (fun _ _ _ => by simp [toJson, Json.itemsDepth]) read
  split at read
  · exact depth_le_of_textual? (fun _ _ _ => by simp [toJson, Json.itemsDepth]) read
  split at read
  · exact depth_le_of_range? read
  · cases read

/-- The query of a clause that was read was read. -/
theorem exists_of_clause? {query? : Json → Option Query} {json : Json} {clause : Clause}
    (read : clause? room query? json = some clause) : ∃ inner, query? inner = some clause.query := by
  unfold clause? at read
  split at read
  · split at read
    · rename_i queryRead _
      obtain rfl : Clause.mk _ _ = clause := by simpa using read
      exact ⟨_, queryRead⟩
    · cases read
  · cases read

/-- A query is read as one with a field, as an empty boolean query, or with its clauses. -/
theorem ofJson?_cases {json : Json} (read : ofJson? room json = some query) :
    (∃ inner kind payload, room = inner + 2 ∧ fielded? inner kind payload = some query) ∨
    (∃ inner boost, room = inner + 3 ∧ query = boolean [] boost) ∨
    ∃ (inner : Nat) (items : List Json) (clauses : List Clause) (boost : Single),
      room = inner + 4 ∧ query = boolean clauses boost ∧
        items.mapM (clause? inner (ofJson? inner)) = some clauses := by
  revert read
  fun_cases ofJson? room json with
  | case2 =>
      intro read
      obtain rfl : boolean [] _ = query := Option.some.inj read
      exact .inr (.inl ⟨_, _, rfl, rfl⟩)
  | case3 =>
      intro read
      obtain ⟨clauses, all, rfl⟩ := Option.map_eq_some_iff.mp read
      exact .inr (.inr ⟨_, _, clauses, _, rfl, rfl, all⟩)
  | case6 =>
      intro read
      exact .inl ⟨_, _, _, rfl, read⟩
  | case1 | case4 | case5 | case7 =>
      intro read
      cases read

/-- A query that was read fits into the room in which it was read. -/
theorem depth_le_of_ofJson? {json : Json} (read : ofJson? room json = some query) :
    query.toJson.depth ≤ room := by
  -- The induction is on the room, since a clause is read in less room than the query around it.
  induction room using Nat.strong_induction_on generalizing json query with
  | _ room inductionHypothesis =>
      obtain ⟨inner, kind, payload, rfl, fielded⟩ | ⟨inner, boost, rfl, rfl⟩ |
        ⟨inner, items, clauses, boost, rfl, rfl, all⟩ := ofJson?_cases read
      · exact depth_le_of_fielded? fielded
      · rw [depth_boolean]
        exact Nat.le_add_left 3 inner
      · rw [depth_boolean]
        refine Nat.add_le_add_right (itemsDepth_clausesToJson_le_iff.mpr fun clause member => ?_) 3
        obtain ⟨item, _, clauseRead⟩ := Json.exists_mem_of_mapM_eq_some all member
        obtain ⟨inside, queryRead⟩ := exists_of_clause? clauseRead
        exact inductionHypothesis inner (by omega) queryRead

/--
A query that was read from any document, however its parts were spelled there, is never too deep to
be read from its own text. So the text gives the same query when all boosts in it are finite; an
infinite boost, which a numeral beyond the range of single numbers becomes, makes the text refused.
-/
theorem parse?_resent {text : String} {query : Query} (accepted : parse? text = some query) :
    parse? query.toJson.toText =
      if query.boosts.all Binary.isFinite = true then some query else none := by
  obtain ⟨json, _, read⟩ := Option.bind_eq_some_iff.mp accepted
  have shallow : query.toJson.depth ≤ Json.depthLimit := depth_le_of_ofJson? read
  rw [parse?, Json.parse?_toText, Option.bind_some, ofJson?_toJson]
  exact if_congr (and_iff_left shallow) rfl rfl

/-- A boost beyond the range of single numbers is accepted, and its query is not read again. -/
theorem parse?_resent_overflow :
    let boosted := fun boost => (Json.tagged "term" (.record [("boost", .number boost),
      ("field", .text "f"), ("note", .null), ("term", .text "a")])).toText
    let one : Numeral := ⟨false, 1, [], none⟩
    let large : Numeral := ⟨false, 1, [], some 39⟩
    parse? (boosted one) = some (term "f" "a" .one) ∧
    parse? (term "f" "a" .one).toJson.toText = some (term "f" "a" .one) ∧
    parse? (boosted large) = some (term "f" "a" (.infinite false)) ∧
    parse? (term "f" "a" (.infinite false)).toJson.toText = none := by
  intro boosted one large
  have numbers : one.single? = some .one ∧ large.single? = some (.infinite false) := by
    decide +kernel
  have read (numeral : Numeral) :
      parse? (boosted numeral) = numeral.single?.map (term "f" "a") := by
    have fields : (Json.record [("boost", .number numeral), ("field", .text "f"), ("note", .null),
        ("term", .text "a")]).fields? ["field", "term", "boost"] =
        some [.text "f", .text "a", .number numeral] := by
      simp [Json.fields?, Json.record, Json.field?]
    have boost : boostOfJson? (.number numeral) = numeral.single? := rfl
    rw [parse?, Json.parse?_toText, Option.bind_some, ofJson?_tagged (by decide),
      if_pos (by decide), fielded?, if_pos rfl, textual?, fields]
    simp only [boost]
    cases numeral.single? <;> rfl
  have first : parse? (boosted one) = some (term "f" "a" .one) := by
    rw [read, numbers.1]
    rfl
  have second : parse? (boosted large) = some (term "f" "a" (.infinite false)) := by
    rw [read, numbers.2]
    rfl
  refine ⟨first, ?_, second, ?_⟩
  · rw [parse?_resent first]
    exact if_pos (by decide)
  · rw [parse?_resent second]
    exact if_neg (by decide)

end Query

end FieldQuery
