/-
This file proves that every JSON value is read from each of its texts, as deep as it may be.
-/
import FieldQuery.Json.Parser
import FieldQuery.Proofs.Json.Lexing

namespace FieldQuery.Json

mutual

/-- The depth of a value is the number of arrays and objects inside each other. -/
def depth : Json → Nat
  | .array items => itemsDepth items + 1
  | .object members => membersDepth members + 1
  | _ => 0

def itemsDepth : List Json → Nat
  | [] => 0
  | item :: rest => max (depth item) (itemsDepth rest)

def membersDepth : List (Content × Json) → Nat
  | [] => 0
  | (_, value) :: rest => max (depth value) (membersDepth rest)

end

/-- A reader reads a value in front of any tokens. -/
def ReadBy (value : Reader Json) (json : Json) : Prop :=
  ∀ rest, value (json.tokens ++ rest) = some (json, rest)

/-- No value starts with a closing bracket. -/
theorem tokens_ne_closeArray (json : Json) (rest later : List Token) :
    json.tokens ++ rest ≠ .closeArray :: later := by
  cases json with
  | array items => cases items <;> simp [tokens]
  | object members =>
      cases members with
      | nil => simp [tokens]
      | cons member others => simp [tokens]
  | _ => simp [tokens]

variable {value : Reader Json}

/-- Items are read back when each of them is, in as many steps as there are items. -/
theorem readItems_tokens {first : Json} {items : List Json} (head : ReadBy value first)
    (each : ∀ item ∈ items, ReadBy value item) {steps : Nat} (enough : items.length < steps)
    (rest : List Token) :
    readItems value steps (first.tokens ++ (itemTokens items ++ rest)) =
      some (first :: items, rest) := by
  induction items generalizing first steps with
  | nil =>
      obtain ⟨fewer, rfl⟩ := Nat.exists_eq_add_one.mpr (Nat.zero_lt_of_lt enough)
      rw [readItems, head]
      rfl
  | cons item others inductionHypothesis =>
      obtain ⟨fewer, rfl⟩ := Nat.exists_eq_add_one.mpr (Nat.zero_lt_of_lt enough)
      obtain ⟨second, later⟩ := List.forall_mem_cons.mp each
      have tail := inductionHypothesis second later (Nat.lt_of_succ_lt_succ enough)
      rw [readItems, head, itemTokens, List.cons_append, List.append_assoc]
      simp only [tail, Option.map_some]

/-- Members are read back when each of their values is. -/
theorem readMembers_tokens (name : Content) {first : Json} {members : List (Content × Json)}
    (head : ReadBy value first) (each : ∀ member ∈ members, ReadBy value member.2) {steps : Nat}
    (enough : members.length < steps) (rest : List Token) :
    readMembers value steps
        (.string name :: .colon :: (first.tokens ++ (memberTokens members ++ rest))) =
      some ((name, first) :: members, rest) := by
  induction members generalizing name first steps with
  | nil =>
      obtain ⟨fewer, rfl⟩ := Nat.exists_eq_add_one.mpr (Nat.zero_lt_of_lt enough)
      rw [readMembers, head]
      rfl
  | cons member others inductionHypothesis =>
      obtain ⟨fewer, rfl⟩ := Nat.exists_eq_add_one.mpr (Nat.zero_lt_of_lt enough)
      obtain ⟨second, later⟩ := List.forall_mem_cons.mp each
      have tail := inductionHypothesis member.1 second later (Nat.lt_of_succ_lt_succ enough)
      rw [readMembers, head, memberTokens, List.cons_append, List.cons_append, List.cons_append,
        List.append_assoc]
      simp only [tail, Option.map_some]

/-- Every later item has a comma, and a closing bracket follows. -/
theorem length_lt_length_itemTokens (items : List Json) :
    items.length < (itemTokens items).length := by
  induction items with
  | nil => exact Nat.one_pos
  | cons item others inductionHypothesis =>
      simp only [itemTokens, List.length_cons, List.length_append]
      omega

/-- Every later member has a comma, and a closing brace follows. -/
theorem length_lt_length_memberTokens (members : List (Content × Json)) :
    members.length < (memberTokens members).length := by
  induction members with
  | nil => exact Nat.one_pos
  | cons member others inductionHypothesis =>
      simp only [memberTokens, List.length_cons, List.length_append]
      omega

/-- Every item is at most as deep as all items. -/
theorem depth_le_itemsDepth {items : List Json} {item : Json} (member : item ∈ items) :
    item.depth ≤ itemsDepth items := by
  induction items with
  | nil => cases member
  | cons first others inductionHypothesis =>
      rw [itemsDepth]
      cases member with
      | head => exact Nat.le_max_left _ _
      | tail _ later => exact (inductionHypothesis later).trans (Nat.le_max_right _ _)

/-- Every value is at most as deep as all members. -/
theorem depth_le_membersDepth {members : List (Content × Json)} {member : Content × Json}
    (found : member ∈ members) : member.2.depth ≤ membersDepth members := by
  induction members with
  | nil => cases found
  | cons first others inductionHypothesis =>
      rw [membersDepth]
      cases found with
      | head => exact Nat.le_max_left _ _
      | tail _ later => exact (inductionHypothesis later).trans (Nat.le_max_right _ _)

/-- Every value is read back where there is room for its depth. -/
theorem readBy_readValue (json : Json) {room : Nat} (enough : json.depth ≤ room) :
    json.ReadBy (readValue room) := by
  induction json using inductionOnParts generalizing room with
  | null => intro rest; rw [tokens, List.singleton_append, readValue]
  | boolean value => intro rest; rw [tokens, List.singleton_append, readValue]
  | number value => intro rest; rw [tokens, List.singleton_append, readValue]
  | string content => intro rest; rw [tokens, List.singleton_append, readValue]
  | array items each =>
      intro rest
      rw [depth] at enough
      obtain ⟨inner, rfl⟩ := Nat.exists_eq_add_one.mpr (Nat.zero_lt_of_lt enough)
      have within : ∀ item ∈ items, item.ReadBy (readValue inner) := fun item member =>
        each item member ((depth_le_itemsDepth member).trans (Nat.le_of_succ_le_succ enough))
      cases items with
      | nil => rfl
      | cons first others =>
          obtain ⟨head, later⟩ := List.forall_mem_cons.mp within
          have length : others.length < (first.tokens ++ (itemTokens others ++ rest)).length := by
            have more := length_lt_length_itemTokens others
            simp only [List.length_append]
            omega
          rw [tokens, List.cons_append, List.append_assoc, readValue,
            readItems_tokens head later length]
          · rfl
          · exact fun _ => tokens_ne_closeArray _ _ _
  | object members each =>
      intro rest
      rw [depth] at enough
      obtain ⟨inner, rfl⟩ := Nat.exists_eq_add_one.mpr (Nat.zero_lt_of_lt enough)
      have within : ∀ member ∈ members, member.2.ReadBy (readValue inner) := fun member found =>
        each member found ((depth_le_membersDepth found).trans (Nat.le_of_succ_le_succ enough))
      cases members with
      | nil => rfl
      | cons first others =>
          obtain ⟨head, later⟩ := List.forall_mem_cons.mp within
          have length : others.length < (Token.string first.1 :: .colon ::
              (first.2.tokens ++ (memberTokens others ++ rest))).length := by
            have more := length_lt_length_memberTokens others
            simp only [List.length_cons, List.length_append]
            omega
          rw [tokens, List.cons_append, List.cons_append, List.cons_append, List.append_assoc,
            readValue, readMembers_tokens _ head later length]
          · rfl
          · exact fun _ same => Token.noConfusion (List.cons.inj same).1

/-- Items are no deeper than long. -/
theorem itemsDepth_le_length {items : List Json}
    (each : ∀ item ∈ items, item.depth ≤ item.tokens.length) :
    itemsDepth items < (itemTokens items).length := by
  induction items with
  | nil => exact Nat.one_pos
  | cons item others inductionHypothesis =>
      obtain ⟨head, later⟩ := List.forall_mem_cons.mp each
      have tail := inductionHypothesis later
      simp only [itemsDepth, itemTokens, List.length_cons, List.length_append]
      omega

/-- Members are no deeper than long. -/
theorem membersDepth_le_length {members : List (Content × Json)}
    (each : ∀ member ∈ members, member.2.depth ≤ member.2.tokens.length) :
    membersDepth members < (memberTokens members).length := by
  induction members with
  | nil => exact Nat.one_pos
  | cons member others inductionHypothesis =>
      obtain ⟨head, later⟩ := List.forall_mem_cons.mp each
      have tail := inductionHypothesis later
      simp only [membersDepth, memberTokens, List.length_cons, List.length_append]
      omega

/-- A value is no deeper than the number of its tokens. -/
theorem depth_le_length_tokens (json : Json) : json.depth ≤ json.tokens.length := by
  induction json using inductionOnParts with
  | array items each =>
      cases items with
      | nil => decide
      | cons first others =>
          obtain ⟨head, later⟩ := List.forall_mem_cons.mp each
          have tail := itemsDepth_le_length later
          simp only [depth, itemsDepth, tokens, List.length_cons, List.length_append]
          omega
  | object members each =>
      cases members with
      | nil => decide
      | cons first others =>
          obtain ⟨head, later⟩ := List.forall_mem_cons.mp each
          have tail := membersDepth_le_length later
          simp only [depth, membersDepth, tokens, List.length_cons, List.length_append]
          omega
  | _ => exact Nat.zero_le _

/-- Every value is read from each of its texts. -/
theorem parse?_of_isText {json : Json} {text : String} (isText : json.IsText text) :
    parse? text = some json := by
  have read := readBy_readValue json json.depth_le_length_tokens []
  rw [List.append_nil] at read
  rw [parse?, lex?_of_isText isText, Option.bind_some, ofTokens?, read]

/-- Every value is read back from the text that is written for it. -/
theorem parse?_toText (json : Json) : parse? json.toText = some json :=
  parse?_of_isText json.isText_toText

end FieldQuery.Json
