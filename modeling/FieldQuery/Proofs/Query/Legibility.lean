/-
This file proves that queries in the form that compilation gives them are told apart by their
syntax.
-/
import FieldQuery.Proofs.Query.Structure
import FieldQuery.Proofs.Text.Boundary
import FieldQuery.Query.Render

namespace FieldQuery.Query

open Text

mutual

/-- A start is also written as a pattern that ends with a star. -/
def unprefixed : Query → Query
  | .prefixed field start boost => .wildcard field (start ++ "*") boost
  | .boolean clauses boost => .boolean (unprefixedClauses clauses) boost
  | query => query

def unprefixedClauses : List Clause → List Clause
  | [] => []
  | ⟨occur, query⟩ :: rest => ⟨occur, unprefixed query⟩ :: unprefixedClauses rest

end

/-- A field is plain when none of its characters is blank or reserved. -/
def IsPlain (field : String) : Prop :=
  ∀ character ∈ field.toList, isBlank character = false ∧ character ∉ reserved

/-- Behind its first star a pattern is an escaped text, or any text with another star. -/
inductive StarRest : List Char → Prop where
  | escaped {characters : List Char} (visible : AllVisible characters) :
      StarRest (escapeChars characters)
  | starred {characters : List Char} (visible : AllVisible characters) :
      StarRest (characters ++ ['*'])

/-- Behind its first star one pattern is told from another. -/
theorem StarRest.append_inj {left right first second : List Char} (starRest : StarRest left)
    (alsoStarRest : StarRest right) (closes : Closes first) (alsoCloses : Closes second)
    (same : left ++ first = right ++ second) : left = right ∧ first = second := by
  cases starRest with
  | escaped visible =>
      cases alsoStarRest with
      | escaped alsoVisible =>
          obtain ⟨rfl, rest⟩ := escapeChars_append_inj visible alsoVisible closes.stops
            alsoCloses.stops same
          exact ⟨rfl, rest⟩
      | starred alsoVisible =>
          rw [List.append_assoc, List.singleton_append] at same
          obtain ⟨equal, rest⟩ := append_star_eq_escapeChars alsoVisible.space_not_mem visible
            alsoCloses closes same.symm
          exact ⟨equal.symm, rest.symm⟩
  | starred visible =>
      rw [List.append_assoc, List.singleton_append] at same
      cases alsoStarRest with
      | escaped alsoVisible =>
          exact append_star_eq_escapeChars visible.space_not_mem alsoVisible closes alsoCloses same
      | starred alsoVisible =>
          rw [List.append_assoc, List.singleton_append] at same
          obtain ⟨rfl, rest⟩ := append_cons_inj_of_closes visible.space_not_mem
            alsoVisible.space_not_mem (by decide) (by decide) closes alsoCloses same
          exact ⟨rfl, rest⟩

/-- Later words of a phrase stand behind a space each. -/
def followingWords (words : List String) : List Char :=
  words.flatMap fun word => ' ' :: escapeChars word.toList

/-- A phrase is one escaped word and those that follow it. -/
theorem toList_intercalate_escape (first : String) (others : List String) :
    (" ".intercalate ((first :: others).map escape)).toList =
      escapeChars first.toList ++ followingWords others := by
  rw [List.map_cons, toList_intercalate_space, List.flatMap_map]
  simp [followingWords, escape]

/-- The words of a phrase are told apart up to its closing quote. -/
theorem followingWords_inj {word other : String} {words others : List String}
    {first second : List Char} (visible : ∀ item ∈ word :: words, AllVisible item.toList)
    (alsoVisible : ∀ item ∈ other :: others, AllVisible item.toList)
    (same : escapeChars word.toList ++ (followingWords words ++ '"' :: first) =
      escapeChars other.toList ++ (followingWords others ++ '"' :: second)) :
    word :: words = other :: others ∧ first = second := by
  have stops (words : List String) (rest : List Char) :
      Stops (followingWords words ++ '"' :: rest) := by
    intro character head
    cases words with
    | nil =>
        obtain rfl : '"' = character := by simpa [followingWords] using head
        exact .inr (by decide)
    | cons word words =>
        obtain rfl : ' ' = character := by simpa [followingWords] using head
        exact .inl (by decide)
  induction words generalizing word other others with
  | nil =>
      obtain ⟨equal, rest⟩ := escapeChars_append_inj (visible word List.mem_cons_self)
        (alsoVisible other List.mem_cons_self) (stops _ _) (stops _ _) same
      obtain rfl := String.toList_inj.mp equal
      cases others with
      | nil =>
          simp only [followingWords, List.flatMap_nil, List.nil_append, List.cons.injEq] at rest
          exact ⟨rfl, rest.2⟩
      | cons next later => simp [followingWords] at rest
  | cons item more inductionHypothesis =>
      obtain ⟨equal, rest⟩ := escapeChars_append_inj (visible word List.mem_cons_self)
        (alsoVisible other List.mem_cons_self) (stops _ _) (stops _ _) same
      obtain rfl := String.toList_inj.mp equal
      cases others with
      | nil => simp [followingWords] at rest
      | cons next later =>
          have tail : escapeChars item.toList ++ (followingWords more ++ '"' :: first) =
              escapeChars next.toList ++ (followingWords later ++ '"' :: second) := by
            simpa [followingWords] using rest
          obtain ⟨words, following⟩ := inductionHypothesis (List.forall_mem_cons.mp visible).2
            (List.forall_mem_cons.mp alsoVisible).2 tail
          exact ⟨congrArg (word :: ·) words, following⟩

/-- Behind a field stands a text of one of these kinds. -/
inductive Kind where
  | word
  | starred
  | phrase
  | range
deriving DecidableEq

/-- The first character behind a field tells the kind of text there. -/
def Kind.ofChar (character : Char) : Kind :=
  if character = '*' then .starred
  else if character = '"' then .phrase
  else if character = '[' then .range
  else .word

/-- These characters stand behind the field of a query that is made from the field. -/
inductive Body : Kind → (String → Query) → List Char → Prop where
  | term {word : String} (isWord : IsWord word) :
      Body .word (fun field => .term field word .one) (escapeChars word.toList)
  | opening {word : String} (isWord : IsWord word) :
      Body .word (fun field => .wildcard field (escape word ++ "*") .one)
        (escapeChars word.toList ++ ['*'])
  | starred {rest : String} (starRest : StarRest rest.toList) :
      Body .starred (fun field => .wildcard field ("*" ++ rest) .one) ('*' :: rest.toList)
  | phrase {first : String} {others : List String}
      (each : ∀ word ∈ first :: others, IsWord word) :
      Body .phrase (fun field => .phrase field (first :: others) .one)
        ('"' :: (escapeChars first.toList ++ (followingWords others ++ ['"'])))
  | range {lower upper : String} (isWord : IsWord lower) (alsoWord : IsWord upper) :
      Body .range (fun field => .range field (.included lower) (.included upper) .one)
        ('[' :: (lower.toList ++ (" TO ".toList ++ (upper.toList ++ [']']))))

variable {kind : Kind} {make : String → Query} {characters : List Char}

/-- An escaped word starts with no mark of another kind. -/
theorem exists_escapeChars_eq_cons {word : String} (isWord : IsWord word) :
    ∃ first rest, escapeChars word.toList = first :: rest ∧ Kind.ofChar first = .word := by
  obtain ⟨first, rest, start⟩ := List.exists_cons_of_ne_nil
    ((escapeChars_eq_nil_iff word.toList).not.mpr isWord.nonempty)
  have head : first = '\\' ∨ first ∉ reserved := head?_escapeChars (by rw [start]; rfl)
  refine ⟨first, rest, start, ?_⟩
  obtain rfl | free := head
  · decide
  · have other : ∀ mark ∈ reserved, first ≠ mark := fun mark found same => free (same ▸ found)
    rw [Kind.ofChar, if_neg (other _ (by decide)), if_neg (other _ (by decide)),
      if_neg (other _ (by decide))]

/-- Every text behind a field starts with a character that tells its kind. -/
theorem Body.exists_eq_cons (body : Body kind make characters) :
    ∃ first rest, characters = first :: rest ∧ Kind.ofChar first = kind := by
  cases body with
  | term isWord => exact exists_escapeChars_eq_cons isWord
  | opening isWord =>
      obtain ⟨first, rest, start, kind⟩ := exists_escapeChars_eq_cons isWord
      exact ⟨first, rest ++ ['*'], by rw [start, List.cons_append], kind⟩
  | starred starRest => exact ⟨_, _, rfl, by decide⟩
  | phrase each => exact ⟨_, _, rfl, by decide⟩
  | range isWord alsoWord => exact ⟨_, _, rfl, by decide⟩

/-- Behind a field one text is told from another, and so are the queries made from the field. -/
theorem Body.append_inj {other : Kind} {another : String → Query}
    {others first second : List Char} (body : Body kind make characters)
    (alsoBody : Body other another others) (closes : Closes first) (alsoCloses : Closes second)
    (same : characters ++ first = others ++ second) : make = another ∧ first = second := by
  obtain rfl : kind = other := by
    obtain ⟨head, rest, rfl, kind⟩ := body.exists_eq_cons
    obtain ⟨alsoHead, later, rfl, other⟩ := alsoBody.exists_eq_cons
    rw [← kind, ← other, (List.cons.inj same).1]
  have star (rest : List Char) : ¬ Closes ([] ++ '*' :: rest) :=
    Closes.not_append_cons (by decide) (by decide) (by decide)
  have stops (rest : List Char) : Stops ('*' :: rest) := by
    intro character head
    obtain rfl : '*' = character := by simpa using head
    exact .inr (by decide)
  cases body with
  | term isWord =>
      cases alsoBody with
      | term alsoWord =>
          obtain ⟨equal, rest⟩ := escapeChars_append_inj isWord.visible alsoWord.visible
            closes.stops alsoCloses.stops same
          exact ⟨by rw [String.toList_inj.mp equal], rest⟩
      | opening alsoWord =>
          rw [List.append_assoc, List.singleton_append] at same
          obtain ⟨_, rest⟩ := escapeChars_append_inj isWord.visible alsoWord.visible closes.stops
            (stops _) same
          exact absurd (rest ▸ closes) (star second)
  | opening isWord =>
      rw [List.append_assoc, List.singleton_append] at same
      cases alsoBody with
      | term alsoWord =>
          obtain ⟨_, rest⟩ := escapeChars_append_inj isWord.visible alsoWord.visible (stops _)
            alsoCloses.stops same
          exact absurd (rest ▸ alsoCloses) (star first)
      | opening alsoWord =>
          rw [List.append_assoc, List.singleton_append] at same
          obtain ⟨equal, rest⟩ := escapeChars_append_inj isWord.visible alsoWord.visible (stops _)
            (stops _) same
          exact ⟨by rw [String.toList_inj.mp equal], (List.cons.inj rest).2⟩
  | starred starRest =>
      cases alsoBody with
      | starred alsoStarRest =>
          obtain ⟨equal, rest⟩ := starRest.append_inj alsoStarRest closes alsoCloses
            (List.cons.inj same).2
          exact ⟨by rw [String.toList_inj.mp equal], rest⟩
  | phrase each =>
      cases alsoBody with
      | phrase alsoEach =>
          simp only [List.cons_append, List.append_assoc, List.cons.injEq, true_and] at same
          obtain ⟨words, rest⟩ := followingWords_inj (fun word found => (each word found).visible)
            (fun word found => (alsoEach word found).visible) same
          exact ⟨by rw [words], rest⟩
  | range isWord alsoWord =>
      cases alsoBody with
      | range secondWord lastWord =>
          have separator : " TO ".toList = ' ' :: ['T', 'O', ' '] := rfl
          simp only [separator, List.append_assoc, List.cons_append, List.nil_append,
            List.cons.injEq, true_and] at same
          obtain ⟨lowers, behind⟩ := append_cons_inj_of_not_mem
            (AllVisible.space_not_mem isWord.visible) (AllVisible.space_not_mem secondWord.visible)
            same
          simp only [List.cons.injEq, true_and] at behind
          obtain ⟨uppers, rest⟩ := append_cons_inj_of_closes
            (AllVisible.space_not_mem alsoWord.visible) (AllVisible.space_not_mem lastWord.visible)
            (by decide) (by decide) closes alsoCloses behind
          exact ⟨by rw [String.toList_inj.mp lowers, String.toList_inj.mp uppers], rest⟩

/-- These characters stand for a query inside of a boolean query. -/
def nestedChars (query : Query) : List Char :=
  (nested query query.render).toList

/-- Behind the field of a query stands its text, also when it is a start. -/
theorem nestedChars_of_body (body : Body kind make characters) {query : Query} {field : String}
    (same : query.unprefixed = make field) :
    query.nestedChars = field.toList ++ ':' :: characters := by
  have unboosted : boostSuffix .one = "" := by decide
  have behind : (make field).nestedChars = field.toList ++ ':' :: characters := by
    cases body with
    | term isWord => simp [nestedChars, nested, render, unboosted, escape]
    | opening isWord => simp [nestedChars, nested, render, unboosted, escape]
    | starred starRest => simp [nestedChars, nested, render, unboosted]
    | phrase each =>
        simp only [nestedChars, nested, render, unboosted, String.toList_append,
          toList_intercalate_escape]
        simp
    | range isWord alsoWord =>
        simp [nestedChars, nested, render, unboosted, rangeText, boundText, Bound.isInclusive,
          Bound.value?]
  rw [← behind, ← same]
  cases query with
  | prefixed field start boost => simp [nestedChars, nested, render, unprefixed]
  | boolean clauses boost => cases body <;> cases same
  | _ => rfl

/-- A query is legible when it has no boost and its texts are spelled in one of the ways above. -/
inductive Legible : Query → Prop where
  | leaf {kind : Kind} {make : String → Query} {characters : List Char} {field : String}
      {query : Query} (plain : IsPlain field) (body : Body kind make characters)
      (same : query.unprefixed = make field) : Legible query
  | boolean {clauses : List Clause} (each : ∀ clause ∈ clauses, Legible clause.query) :
      Legible (.boolean clauses .one)

/-- A legible boolean query has no boost. -/
theorem Legible.boost_eq_one {clauses : List Clause} {boost : Number.Single}
    (legible : Legible (.boolean clauses boost)) : boost = .one := by
  cases legible with
  | leaf plain body same => cases body <;> cases same
  | boolean each => rfl

/-- These characters stand for a clause. -/
def clauseChars (clause : Clause) : List Char :=
  clause.occur.mark.toList ++ clause.query.nestedChars

/-- Later clauses stand behind a space each. -/
def followingClauses (clauses : List Clause) : List Char :=
  clauses.flatMap fun clause => ' ' :: clauseChars clause

/-- These characters stand for clauses in a row. -/
def clausesChars : List Clause → List Char
  | [] => []
  | first :: others => clauseChars first ++ followingClauses others

/-- Clauses are written one by one. -/
theorem renderClauses_eq_map (clauses : List Clause) : renderClauses clauses =
    clauses.map fun clause => clause.occur.mark ++ nested clause.query clause.query.render := by
  induction clauses with
  | nil => rfl
  | cons clause others inductionHypothesis =>
      obtain ⟨occur, query⟩ := clause
      rw [renderClauses, inductionHypothesis, List.map_cons]

/-- An unboosted boolean query shows its clauses in a row. -/
theorem toList_render_boolean (clauses : List Clause) :
    (render (.boolean clauses .one)).toList = clausesChars clauses := by
  have unboosted : (Number.Binary.one : Number.Single).equals .one = true := by decide
  rw [render, boostedBody, if_pos unboosted, renderClauses_eq_map]
  cases clauses with
  | nil => rfl
  | cons first others =>
      rw [List.map_cons, toList_intercalate_space, List.flatMap_map]
      simp [clausesChars, clauseChars, followingClauses, nestedChars]

/-- A boolean query inside of another one stands in parentheses. -/
theorem nestedChars_boolean (clauses : List Clause) :
    nestedChars (.boolean clauses .one) = '(' :: (clausesChars clauses ++ [')']) := by
  cases clauses with
  | nil => rfl
  | cons first others =>
      rw [← toList_render_boolean, nestedChars, nested, String.toList_append,
        String.toList_append]
      · rfl
      · simp

/-- A plain field and the colon behind it start with no reserved character but the colon. -/
theorem IsPlain.exists_eq_cons {field : String} (plain : IsPlain field) (rest : List Char) :
    ∃ first later, field.toList ++ ':' :: rest = first :: later ∧
      (first = ':' ∨ first ∉ reserved) := by
  cases split : field.toList with
  | nil => exact ⟨':', rest, rfl, .inl rfl⟩
  | cons first others =>
      exact ⟨first, _, rfl, .inr (plain first (split ▸ List.mem_cons_self)).2⟩

/-- No mark of an occurrence and no closing parenthesis starts a legible query. -/
theorem Legible.exists_eq_cons {query : Query} (legible : Legible query) :
    ∃ first rest, query.nestedChars = first :: rest ∧ first ∉ ['+', '-', ')'] := by
  cases legible with
  | leaf plain body same =>
      obtain ⟨first, later, start, known⟩ := plain.exists_eq_cons _
      refine ⟨first, later, (nestedChars_of_body body same).trans start, fun found => ?_⟩
      have mark : first ∈ reserved ∧ first ≠ ':' := by
        simp only [List.mem_cons, List.not_mem_nil, or_false] at found
        rcases found with rfl | rfl | rfl <;> decide
      obtain ⟨bad, other⟩ := mark
      obtain colon | free := known
      · exact other colon
      · exact free bad
  | boolean each => exact ⟨_, _, nestedChars_boolean _, by decide⟩

/-- The mark of a clause is told from its query. -/
theorem mark_append_inj {occur other : Occur} {first second : Char} {left right : List Char}
    (bare : first ∉ ['+', '-', ')']) (alsoBare : second ∉ ['+', '-', ')'])
    (same : occur.mark.toList ++ first :: left = other.mark.toList ++ second :: right) :
    occur = other ∧ first :: left = second :: right := by
  have plus : Occur.must.mark.toList = ['+'] := rfl
  have minus : Occur.mustNot.mark.toList = ['-'] := rfl
  have none : Occur.should.mark.toList = [] := rfl
  cases occur <;> cases other <;> grind

/-- A list of clauses ends at the end of the text or at a closing parenthesis. -/
inductive Ends : List Char → Prop where
  | done : Ends []
  | close {rest : List Char} (closes : Closes rest) : Ends (')' :: rest)

/-- Every clause closes before the next one and before the end of its list. -/
theorem Ends.closes {rest : List Char} (ends : Ends rest) (clauses : List Clause) :
    Closes (followingClauses clauses ++ rest) := by
  cases clauses with
  | nil =>
      cases ends with
      | done => exact .done
      | close closes => exact .close closes
  | cons first others => exact .space _

/-- A query is told from any other one in its place. -/
def IsTold (query : Query) : Prop :=
  ∀ other first second, Legible other → Closes first → Closes second →
    query.nestedChars ++ first = other.nestedChars ++ second →
    query.unprefixed = other.unprefixed ∧ first = second

/-- No closing parenthesis starts a clause. -/
theorem Legible.exists_clauseChars_eq_cons {clause : Clause} (legible : Legible clause.query) :
    ∃ first rest, clauseChars clause = first :: rest ∧ first ≠ ')' := by
  obtain ⟨first, rest, start, bare⟩ := legible.exists_eq_cons
  rw [clauseChars, start]
  cases clause.occur with
  | must => exact ⟨'+', first :: rest, rfl, by decide⟩
  | should => exact ⟨first, rest, rfl, fun close => bare (by rw [close]; decide)⟩
  | mustNot => exact ⟨'-', first :: rest, rfl, by decide⟩

/-- No list of clauses ends where another clause starts. -/
theorem Ends.not_clauseChars_append {clause : Clause} (legible : Legible clause.query)
    (rest : List Char) : ¬ Ends (clauseChars clause ++ rest) := by
  obtain ⟨first, later, start, other⟩ := legible.exists_clauseChars_eq_cons
  rw [start]
  intro ends
  cases ends with
  | close closes => exact other rfl

/-- A clause is told from any other one when its query is. -/
theorem clauseChars_append_inj {clause other : Clause} {first second : List Char}
    (legible : Legible clause.query) (alsoLegible : Legible other.query)
    (told : clause.query.IsTold) (closes : Closes first) (alsoCloses : Closes second)
    (same : clauseChars clause ++ first = clauseChars other ++ second) :
    clause.occur = other.occur ∧ clause.query.unprefixed = other.query.unprefixed ∧
      first = second := by
  obtain ⟨head, rest, start, bare⟩ := legible.exists_eq_cons
  obtain ⟨alsoHead, later, alsoStart, alsoBare⟩ := alsoLegible.exists_eq_cons
  have split := same
  rw [clauseChars, clauseChars, start, alsoStart, List.append_assoc, List.append_assoc] at split
  obtain ⟨occurs, queries⟩ := mark_append_inj bare alsoBare split
  have texts : clause.query.nestedChars ++ first = other.query.nestedChars ++ second := by
    rw [start, alsoStart]
    exact queries
  exact ⟨occurs, told _ _ _ alsoLegible closes alsoCloses texts⟩

/-- Later clauses are told apart when their queries are. -/
theorem followingClauses_append_inj {clauses others : List Clause} {first second : List Char}
    (legible : ∀ clause ∈ clauses, Legible clause.query)
    (alsoLegible : ∀ clause ∈ others, Legible clause.query)
    (told : ∀ clause ∈ clauses, clause.query.IsTold) (ends : Ends first) (alsoEnds : Ends second)
    (same : followingClauses clauses ++ first = followingClauses others ++ second) :
    unprefixedClauses clauses = unprefixedClauses others ∧ first = second := by
  induction clauses generalizing others with
  | nil =>
      cases others with
      | nil => exact ⟨rfl, same⟩
      | cons other later =>
          change first = ' ' :: _ at same
          rw [same] at ends
          cases ends
  | cons clause rest inductionHypothesis =>
      cases others with
      | nil =>
          change ' ' :: _ = second at same
          rw [← same] at alsoEnds
          cases alsoEnds
      | cons other later =>
          obtain ⟨head, tail⟩ := List.forall_mem_cons.mp legible
          obtain ⟨alsoHead, alsoTail⟩ := List.forall_mem_cons.mp alsoLegible
          obtain ⟨headTold, tailTold⟩ := List.forall_mem_cons.mp told
          have texts : clauseChars clause ++ (followingClauses rest ++ first) =
              clauseChars other ++ (followingClauses later ++ second) := by
            simpa [followingClauses] using same
          obtain ⟨occurs, queries, behind⟩ := clauseChars_append_inj head alsoHead headTold
            (ends.closes rest) (alsoEnds.closes later) texts
          obtain ⟨clauses, following⟩ := inductionHypothesis tail alsoTail tailTold behind
          obtain ⟨occur, query⟩ := clause
          obtain ⟨otherOccur, otherQuery⟩ := other
          simp only at occurs queries
          exact ⟨by rw [unprefixedClauses, unprefixedClauses, occurs, queries, clauses], following⟩

/-- Lists of clauses are told apart when the queries of the clauses are. -/
theorem clausesChars_append_inj {clauses others : List Clause} {first second : List Char}
    (legible : ∀ clause ∈ clauses, Legible clause.query)
    (alsoLegible : ∀ clause ∈ others, Legible clause.query)
    (told : ∀ clause ∈ clauses, clause.query.IsTold) (ends : Ends first) (alsoEnds : Ends second)
    (same : clausesChars clauses ++ first = clausesChars others ++ second) :
    unprefixedClauses clauses = unprefixedClauses others ∧ first = second := by
  have spaced (clause : Clause) (rest : List Clause) :
      followingClauses (clause :: rest) = ' ' :: clausesChars (clause :: rest) := rfl
  cases clauses with
  | nil =>
      cases others with
      | nil => exact ⟨rfl, same⟩
      | cons other later =>
          rw [clausesChars, List.nil_append, clausesChars, List.append_assoc] at same
          exact absurd (same ▸ ends)
            (Ends.not_clauseChars_append (alsoLegible other List.mem_cons_self) _)
  | cons clause rest =>
      cases others with
      | nil =>
          rw [clausesChars, clausesChars, List.nil_append, List.append_assoc] at same
          exact absurd (same ▸ alsoEnds)
            (Ends.not_clauseChars_append (legible clause List.mem_cons_self) _)
      | cons other later =>
          -- A space in front makes the first clauses later ones.
          refine followingClauses_append_inj legible alsoLegible told ends alsoEnds ?_
          rw [spaced, spaced, List.cons_append, List.cons_append, same]

/-- No field and no colon starts with the parenthesis of a boolean query. -/
theorem IsPlain.append_colon_ne {field : String} (plain : IsPlain field) (rest later : List Char) :
    field.toList ++ ':' :: rest ≠ '(' :: later := by
  intro same
  obtain ⟨first, others, start, known⟩ := plain.exists_eq_cons rest
  obtain rfl : first = '(' := (List.cons.inj (start.symm.trans same)).1
  obtain colon | free := known
  · cases colon
  · exact free (by decide)

theorem IsPlain.colon_not_mem {field : String} (plain : IsPlain field) : ':' ∉ field.toList :=
  fun found => (plain ':' found).2 (by decide)

/-- Every legible query is told from any other one. -/
theorem Legible.isTold {query : Query} (legible : Legible query) : query.IsTold := by
  induction legible with
  | leaf plain body same =>
      intro other first second alsoLegible closes alsoCloses equal
      rw [nestedChars_of_body body same, List.append_assoc, List.cons_append] at equal
      cases alsoLegible with
      | leaf alsoPlain alsoBody alsoSame =>
          rw [nestedChars_of_body alsoBody alsoSame, List.append_assoc, List.cons_append] at equal
          obtain ⟨fields, behind⟩ := append_cons_inj_of_not_mem plain.colon_not_mem
            alsoPlain.colon_not_mem equal
          obtain ⟨makes, rest⟩ := body.append_inj alsoBody closes alsoCloses behind
          exact ⟨by rw [same, alsoSame, makes, String.toList_inj.mp fields], rest⟩
      | boolean each =>
          rw [nestedChars_boolean, List.cons_append] at equal
          exact absurd equal (plain.append_colon_ne _ _)
  | boolean each inductionHypothesis =>
      intro other first second alsoLegible closes alsoCloses equal
      rw [nestedChars_boolean, List.cons_append] at equal
      cases alsoLegible with
      | leaf plain body same =>
          simp only [nestedChars_of_body body same, List.append_assoc, List.cons_append] at equal
          exact absurd equal.symm (plain.append_colon_ne _ _)
      | boolean alsoEach =>
          rw [nestedChars_boolean, List.cons_append, List.append_assoc, List.append_assoc] at equal
          obtain ⟨clauses, rest⟩ := clausesChars_append_inj each alsoEach inductionHypothesis
            (.close closes) (.close alsoCloses) (List.cons.inj equal).2
          exact ⟨by rw [unprefixed, unprefixed, clauses], (List.cons.inj rest).2⟩

/-- Legible boolean queries with one text are equal up to their starts. -/
theorem unprefixed_boolean_inj {clauses others : List Clause}
    (legible : Legible (.boolean clauses .one)) (alsoLegible : Legible (.boolean others .one))
    (same : render (.boolean clauses .one) = render (.boolean others .one)) :
    unprefixed (.boolean clauses .one) = unprefixed (.boolean others .one) := by
  have nested : nestedChars (.boolean clauses .one) ++ [] =
      nestedChars (.boolean others .one) ++ [] := by
    rw [nestedChars_boolean, nestedChars_boolean, ← toList_render_boolean, same,
      toList_render_boolean]
  exact (legible.isTold _ _ _ alsoLegible .done .done nested).1

end FieldQuery.Query
