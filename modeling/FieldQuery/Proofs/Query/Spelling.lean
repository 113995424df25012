/-
This file proves that a query is read from every spelling of its JSON value.
-/
import FieldQuery.Proofs.Query.RoundTrip

namespace FieldQuery

open Number

namespace Json

/-- A variant without a payload is spelled by its name, or by a null under its name. -/
def SpellsName (name : String) (json : Json) : Prop :=
  json = .text name ∨ json = .tagged name .null

/-- A name is read from both spellings, if there is room for an object. -/
theorem SpellsName.bare?_eq {name : String} {json : Json} (spells : SpellsName name json)
    {room : Nat} (enough : json.depth ≤ room) : json.bare? room = some name := by
  obtain rfl | rfl := spells
  · rfl
  · obtain ⟨inner, rfl⟩ := Nat.exists_eq_add_one.mpr (Nat.zero_lt_of_lt enough)
    rfl

/-- Tokens are spelled with a blank in front of each one. -/
theorem spaced_flatMap_blank (tokens : List Token) :
    Spaced tokens (tokens.flatMap fun token => ' ' :: token.chars) := by
  induction tokens with
  | nil => exact .nothing
  | cons token rest inductionHypothesis =>
      rw [List.flatMap_cons]
      exact .blank rfl (.token token.hasText_chars inductionHypothesis)

end Json

def Occur.Spells (occur : Occur) (json : Json) : Prop := Json.SpellsName occur.longName json

/-- A present bound has one spelling, and a missing one is spelled by its name. -/
def Bound.Spells (bound : Bound) (json : Json) : Prop :=
  match bound with
  | .unbounded => Json.SpellsName "unbounded" json
  | present => json = present.toJson

theorem Occur.ofJson?_of_spells {occur : Occur} {json : Json} (spells : occur.Spells json)
    {room : Nat} (enough : json.depth ≤ room) : Occur.ofJson? room json = some occur := by
  rw [ofJson?, spells.bare?_eq enough]
  cases occur <;> rfl

/-- A bound is read from each of its spellings. -/
theorem Bound.ofJson?_of_spells {bound : Bound} {json : Json} (spells : bound.Spells json)
    {room : Nat} (enough : json.depth ≤ room) : Bound.ofJson? room json = some bound := by
  cases bound with
  | unbounded =>
      have name : json.bare? room = some "unbounded" := Json.SpellsName.bare?_eq spells enough
      rw [ofJson?, if_pos name]
  | included value =>
      obtain rfl : json = (Bound.included value).toJson := spells
      rw [ofJson?_toJson, if_pos enough]
  | excluded value =>
      obtain rfl : json = (Bound.excluded value).toJson := spells
      rw [ofJson?_toJson, if_pos enough]

namespace Query

mutual

/--
A query is spelled by a variant with a spelling of its record. The bounds and the clauses in this
record are spelled on their own.
-/
def SpellsJson : Query → Json → Prop
  | .term field word boost, json => ∃ payload, json = .tagged "term" payload ∧
    Json.SpellsRecord [("field", .text field), ("term", .text word),
      ("boost", .ofBinary .single boost)] payload
  | .phrase field words boost, json => ∃ payload, json = .tagged "phrase" payload ∧
    Json.SpellsRecord [("field", .text field), ("terms", .array (words.map .text)),
      ("boost", .ofBinary .single boost)] payload
  | .wildcard field pattern boost, json => ∃ payload, json = .tagged "wildcard" payload ∧
    Json.SpellsRecord [("field", .text field), ("pattern", .text pattern),
      ("boost", .ofBinary .single boost)] payload
  | .prefixed field start boost, json => ∃ payload, json = .tagged "prefix" payload ∧
    Json.SpellsRecord [("field", .text field), ("prefix", .text start),
      ("boost", .ofBinary .single boost)] payload
  | .range field lower upper boost, json => ∃ least greatest payload,
    lower.Spells least ∧ upper.Spells greatest ∧ json = .tagged "range" payload ∧
    Json.SpellsRecord [("field", .text field), ("lower_bound", least), ("upper_bound", greatest),
      ("boost", .ofBinary .single boost)] payload
  | .boolean clauses boost, json => ∃ items payload,
    SpellsClauses clauses items ∧ json = .tagged "boolean" payload ∧
    Json.SpellsRecord [("clauses", .array items), ("boost", .ofBinary .single boost)] payload

/-- Clauses are spelled one by one, each by a spelling of its record. -/
def SpellsClauses : List Clause → List Json → Prop
  | [], items => items = []
  | ⟨occur, query⟩ :: rest, items => ∃ inner mark item later,
    SpellsJson query inner ∧ occur.Spells mark ∧
    Json.SpellsRecord [("query", inner), ("occur", mark)] item ∧
    SpellsClauses rest later ∧ items = item :: later

end

/-- The value that is written for a query spells it. -/
theorem spellsJson_toJson (query : Query) : query.SpellsJson query.toJson := by
  induction query using inductionOnClauses with
  | term field word boost => exact ⟨_, rfl, Json.spellsRecord_record _⟩
  | phrase field words boost => exact ⟨_, rfl, Json.spellsRecord_record _⟩
  | wildcard field pattern boost => exact ⟨_, rfl, Json.spellsRecord_record _⟩
  | prefixed field start boost => exact ⟨_, rfl, Json.spellsRecord_record _⟩
  | range field lower upper boost =>
      have each (bound : Bound) : bound.Spells bound.toJson := by
        cases bound with
        | unbounded => exact .inl rfl
        | _ => rfl
      exact ⟨_, _, _, each lower, each upper, rfl, Json.spellsRecord_record _⟩
  | boolean clauses boost inductionHypothesis =>
      have each : SpellsClauses clauses (clausesToJson clauses) := by
        induction clauses with
        | nil => rfl
        | cons clause others listHypothesis =>
            obtain ⟨occur, query⟩ := clause
            obtain ⟨head, tail⟩ := List.forall_mem_cons.mp inductionHypothesis
            exact ⟨_, _, _, _, head, .inl rfl, Json.spellsRecord_record _, listHypothesis tail, rfl⟩
      exact ⟨_, _, each, rfl, Json.spellsRecord_record _⟩

variable {payload : Json} {field : String} {boost : Single} {room : Nat}

/-- A variant with a field, a text and a finite boost is read from every spelling of its record. -/
theorem ofJson?_of_spells_textual {kind name : String} (other : kind ≠ "boolean")
    {build : String → String → Single → Query}
    (read : ∀ room payload, fielded? room kind payload = textual? name build payload)
    (distinct : ["field", name, "boost"].Nodup) {word : String}
    (spells : Json.SpellsRecord [("field", .text field), (name, .text word),
      ("boost", .ofBinary .single boost)] payload) (finite : boost.isFinite = true)
    (enough : (Json.tagged kind payload).depth ≤ room) :
    ofJson? room (.tagged kind payload) = some (build field word boost) := by
  have levels := spells.depth_lt List.mem_cons_self
  rw [Json.depth_tagged] at enough
  rw [ofJson?_tagged other, if_pos (by omega), read, textual?_of_spells distinct spells,
    if_pos finite]

/-- Spelled clauses are read when each of their queries is. -/
theorem mapM_clause?_of_spells {clauses : List Clause} {items : List Json}
    (each : ∀ clause ∈ clauses, ∀ json, clause.query.SpellsJson json → json.depth ≤ room →
      ofJson? room json = some clause.query)
    (spells : SpellsClauses clauses items) (enough : Json.itemsDepth items ≤ room + 1) :
    items.mapM (clause? room (ofJson? room)) = some clauses := by
  induction clauses generalizing items with
  | nil =>
      obtain rfl : items = [] := spells
      rfl
  | cons clause others inductionHypothesis =>
      obtain ⟨occur, query⟩ := clause
      obtain ⟨inner, mark, item, later, asked, marked, record, following, rfl⟩ := spells
      obtain ⟨head, tail⟩ := List.forall_mem_cons.mp each
      rw [Json.itemsDepth, Nat.max_le] at enough
      have deep := record.depth_lt List.mem_cons_self
      have shallow := record.depth_lt (List.mem_cons_of_mem _ List.mem_cons_self)
      rw [List.mapM_cons, clause?_of_spells room record, head inner asked (by omega),
        Occur.ofJson?_of_spells marked (by omega), inductionHypothesis tail following enough.2]
      rfl

/-- A query with finite boosts is read from every spelling for which there is room. -/
theorem ofJson?_of_spells {query : Query} {json : Json} (spells : query.SpellsJson json)
    (finite : ∀ boost ∈ query.boosts, boost.isFinite = true) (enough : json.depth ≤ room) :
    ofJson? room json = some query := by
  induction query using inductionOnClauses generalizing json room with
  | term field word boost =>
      obtain ⟨payload, rfl, record⟩ := spells
      exact ofJson?_of_spells_textual (by decide) (fun _ _ => rfl) (by decide) record
        (finite boost List.mem_cons_self) enough
  | wildcard field pattern boost =>
      obtain ⟨payload, rfl, record⟩ := spells
      exact ofJson?_of_spells_textual (by decide) (fun _ _ => rfl) (by decide) record
        (finite boost List.mem_cons_self) enough
  | prefixed field start boost =>
      obtain ⟨payload, rfl, record⟩ := spells
      exact ofJson?_of_spells_textual (by decide) (fun _ _ => rfl) (by decide) record
        (finite boost List.mem_cons_self) enough
  | phrase field words boost =>
      obtain ⟨payload, rfl, record⟩ := spells
      have levels := record.depth_lt (List.mem_cons_of_mem _ List.mem_cons_self)
      have read (room : Nat) : fielded? room "phrase" payload = phrase? room payload := rfl
      rw [Json.depth_array_map_text] at levels
      rw [Json.depth_tagged] at enough
      rw [ofJson?_tagged (by decide), if_pos (by omega), read, phrase?_of_spells _ record,
        if_pos ⟨finite boost List.mem_cons_self, by omega⟩]
  | range field lower upper boost =>
      obtain ⟨least, greatest, payload, low, high, rfl, record⟩ := spells
      have first := record.depth_lt (List.mem_cons_of_mem _ List.mem_cons_self)
      have second := record.depth_lt
        (List.mem_cons_of_mem _ (List.mem_cons_of_mem _ List.mem_cons_self))
      have read (room : Nat) : fielded? room "range" payload = range? room payload := rfl
      rw [Json.depth_tagged] at enough
      rw [ofJson?_tagged (by decide), if_pos (by omega), read, range?_of_spells _ record,
        Bound.ofJson?_of_spells low (by omega), Bound.ofJson?_of_spells high (by omega),
        Option.bind_some, Option.bind_some, if_pos (finite boost List.mem_cons_self)]
  | boolean clauses boost inductionHypothesis =>
      obtain ⟨items, payload, each, rfl, record⟩ := spells
      obtain ⟨own, inside⟩ := List.forall_mem_cons.mp finite
      have levels := record.depth_lt List.mem_cons_self
      rw [Json.depth] at levels
      rw [Json.depth_tagged] at enough
      obtain ⟨above, rfl⟩ : ∃ above, room = above + 3 := ⟨room - 3, by omega⟩
      rw [ofJson?_boolean record]
      cases above with
      | zero =>
          -- There is no room for an item here, so there are no clauses either.
          cases clauses with
          | nil =>
              obtain rfl : items = [] := each
              exact if_pos ⟨rfl, own⟩
          | cons clause others =>
              obtain ⟨occur, query⟩ := clause
              obtain ⟨inner, mark, item, later, _, _, clauseRecord, _, rfl⟩ := each
              have deep := clauseRecord.depth_lt List.mem_cons_self
              rw [Json.itemsDepth] at levels
              omega
      | succ inner =>
          have within : Json.itemsDepth items ≤ inner + 1 := by omega
          have read := mapM_clause?_of_spells (fun clause member json spelled =>
            inductionHypothesis clause member spelled fun boost found =>
              inside boost (mem_clauseBoosts.mpr ⟨clause, member, found⟩)) each within
          simp only [read, Option.bind_some, if_pos own]

/--
A query with finite boosts is read from every text of every spelling of its JSON value, if no more
than 127 arrays and objects stand inside each other in it.
-/
theorem parse?_of_spells {query : Query} {json : Json} {text : String}
    (finite : ∀ boost ∈ query.boosts, boost.isFinite = true) (spells : query.SpellsJson json)
    (shallow : json.depth ≤ 127) (isText : json.IsText text) : parse? text = some query := by
  rw [parse?, Json.parse?_of_isText isText, Option.bind_some]
  exact ofJson?_of_spells spells finite shallow

/--
A boolean query is read from the array of its fields, with the members of a range in another order
around an unknown one, with names in front of nulls, and with a blank in front of every token.
-/
theorem parse?_of_spells_rearranged :
    let bounds : List (String × Json) := [("boost", .ofBinary .single (.one : Single)),
      ("upper_bound", .tagged "unbounded" .null), ("note", .array [.null]),
      ("lower_bound", .tagged "included" (.text "2020")), ("field", .text "year")]
    let clause := Json.record [("occur", .tagged "must" .null),
      ("query", .tagged "range" (.record bounds))]
    let json := Json.tagged "boolean"
      (.array [.array [clause], .ofBinary .single (.one : Single)])
    parse? (String.ofList (json.tokens.flatMap fun token => ' ' :: token.chars)) =
      some (allWith .must [.range "year" (.included "2020") .unbounded .one]) := by
  intro bounds clause json
  have ones : ∀ boost ∈
      (allWith .must [.range "year" (.included "2020") .unbounded .one]).boosts,
      boost = .one := by
    simp [allWith, boosts, clauseBoosts]
  have order : (bounds.map Json.memberOf).Perm ([("field", .text "year"),
      ("lower_bound", .tagged "included" (.text "2020")),
      ("upper_bound", .tagged "unbounded" .null),
      ("boost", .ofBinary .single (.one : Single))].map Json.memberOf ++
      [Json.memberOf ("note", .array [.null])]) := by
    refine (List.reverse_perm _).symm.trans ?_
    exact .cons _ (.cons _ ((List.Perm.swap _ _ _).trans (.cons _ (List.Perm.swap _ _ _))))
  have ranged : (range "year" (.included "2020") .unbounded .one).SpellsJson
      (.tagged "range" (.record bounds)) := by
    refine ⟨_, _, _, rfl, .inr rfl, rfl, .object order fun member found => ?_⟩
    obtain rfl := List.mem_singleton.mp found
    exact ⟨"note", rfl, by decide⟩
  have item : Json.SpellsRecord [("query", .tagged "range" (.record bounds)),
      ("occur", .tagged "must" .null)] clause := by
    refine .object ?_ (List.forall_mem_nil _)
    rw [List.append_nil]
    exact List.Perm.swap _ _ _
  have spells :
      (allWith .must [.range "year" (.included "2020") .unbounded .one]).SpellsJson json :=
    ⟨_, _, ⟨_, _, _, _, ranged, .inr rfl, item, rfl, rfl⟩, rfl, .array⟩
  refine parse?_of_spells (fun boost member => ones boost member ▸ rfl) spells (by decide) ?_
  rw [Json.IsText, String.toList_ofList]
  exact Json.spaced_flatMap_blank _

end Query

end FieldQuery
