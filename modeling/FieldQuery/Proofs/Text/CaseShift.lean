/-
This file proves that the lowercase of a character or of a text is its own lowercase, and compares
the case weights of a character and its lowercase.
-/
import FieldQuery.Proofs.SortOrder
import FieldQuery.Proofs.Text.Caseless

namespace FieldQuery.Text

namespace CodeRange

variable {left right : CodeRange} {code : Nat}

/-- All codes of a range have one parity when it takes every second one, or only one. -/
def hasParity (range : CodeRange) : Bool :=
  Nat.beq range.step 2 || Nat.beq range.first range.last

/-- Two ranges miss each other when they are apart or have codes of different parity. -/
def misses (left right : CodeRange) : Bool :=
  Nat.blt left.last right.first || Nat.blt right.last left.first ||
    left.hasParity && right.hasParity && !Nat.beq (left.first % 2) (right.first % 2)

/-- A range covers another one when it takes every code between the ends, or those of one parity. -/
def covers (left right : CodeRange) : Bool :=
  Nat.ble left.first right.first && Nat.ble right.last left.last &&
    (Nat.beq left.step 1 ||
      Nat.beq left.step 2 && right.hasParity && Nat.beq (left.first % 2) (right.first % 2))

/-- These are the codes of a range. -/
def codes (range : CodeRange) : List Nat :=
  (List.range ((range.last - range.first) / range.step + 1)).map fun index =>
    range.first + range.step * index

/-- A range contains the codes between its ends that lie a multiple of its step above the first. -/
theorem contains_eq_true_iff :
    left.contains code = true ↔
      left.first ≤ code ∧ code ≤ left.last ∧ (code - left.first) % left.step = 0 := by
  simp [contains, and_assoc]

/-- The parity of a range is that of each of its codes. -/
theorem mod_two_of_contains (parity : left.hasParity = true) (found : left.contains code = true) :
    code % 2 = left.first % 2 := by
  obtain ⟨least, greatest, multiple⟩ := contains_eq_true_iff.mp found
  rw [hasParity, Bool.or_eq_true, Nat.beq_eq, Nat.beq_eq] at parity
  rcases parity with two | single
  · rw [two] at multiple
    omega
  · omega

/-- No code belongs to two ranges that miss each other. -/
theorem contains_eq_false_of_misses (misses : left.misses right = true)
    (found : left.contains code = true) : right.contains code = false := by
  by_contra inside
  have alsoFound : right.contains code = true := by simpa using inside
  obtain ⟨least, greatest, _⟩ := contains_eq_true_iff.mp found
  obtain ⟨alsoLeast, alsoGreatest, _⟩ := contains_eq_true_iff.mp alsoFound
  simp only [CodeRange.misses, Bool.or_eq_true, Bool.and_eq_true, Nat.blt_eq, Bool.not_eq_true',
    ← Bool.not_eq_true, Nat.beq_eq] at misses
  rcases misses with (before | after) | ⟨⟨parity, alsoParity⟩, differ⟩
  · omega
  · omega
  · rw [← mod_two_of_contains parity found, ← mod_two_of_contains alsoParity alsoFound] at differ
    exact differ rfl

/-- The codes of a range belong to every range that covers it. -/
theorem contains_of_covers (covers : left.covers right = true)
    (found : right.contains code = true) : left.contains code = true := by
  obtain ⟨least, greatest, _⟩ := contains_eq_true_iff.mp found
  simp only [CodeRange.covers, Bool.or_eq_true, Bool.and_eq_true, Nat.ble_eq, Nat.beq_eq] at covers
  obtain ⟨⟨first, last⟩, every | ⟨⟨second, parity⟩, same⟩⟩ := covers
  · exact contains_eq_true_iff.mpr ⟨by omega, by omega, by rw [every, Nat.mod_one]⟩
  · have code := mod_two_of_contains parity found
    refine contains_eq_true_iff.mpr ⟨by omega, by omega, ?_⟩
    rw [second]
    omega

/-- Every code that a range contains is one of its codes. -/
theorem mem_codes_of_contains (found : left.contains code = true) : code ∈ left.codes := by
  obtain ⟨least, greatest, multiple⟩ := contains_eq_true_iff.mp found
  refine List.mem_map.mpr ⟨(code - left.first) / left.step, List.mem_range.mpr ?_, ?_⟩
  · have less := Nat.div_le_div_right (c := left.step) (Nat.sub_le_sub_right greatest left.first)
    omega
  · rw [Nat.mul_div_cancel' (Nat.dvd_of_mod_eq_zero multiple)]
    omega

end CodeRange

/-- These letters are made of two, of which only the first one is a capital. -/
def titlecaseDigraphs : List Char := ['\u01C5', '\u01C8', '\u01CB', '\u01F2']

/-- These ranges hold the four digraphs. -/
def digraphRanges : CharacterSet :=
  titlecaseDigraphs.map fun character => ⟨character.toNat, character.toNat, 1⟩

/-- These ranges hold the capital vowels with a small iota at their side. -/
def iotaRanges : CharacterSet :=
  [⟨0x1F88, 0x1F8F, 1⟩, ⟨0x1F98, 0x1F9F, 1⟩, ⟨0x1FA8, 0x1FAF, 1⟩, ⟨0x1FBC, 0x1FBC, 1⟩,
    ⟨0x1FCC, 0x1FCC, 1⟩, ⟨0x1FFC, 0x1FFC, 1⟩]

/-- These ranges hold all uppercase characters and all that are capital in part. -/
def capitalRanges : CharacterSet := uppercaseRanges ++ digraphRanges ++ iotaRanges

variable {character : Char}

/-- A digraph is one of four. -/
theorem contains_digraphRanges_iff :
    digraphRanges.contains character = true ↔ character ∈ titlecaseDigraphs := by
  simp only [digraphRanges, titlecaseDigraphs, List.map_cons, List.map_nil,
    CharacterSet.contains_cons, CharacterSet.contains_nil, CodeRange.contains_eq_true_iff,
    Bool.or_eq_true, Bool.or_false, Nat.mod_one, and_true, List.mem_cons, List.not_mem_nil,
    or_false, ← Char.toNat_inj]
  omega

/-- A capital character is uppercase, or capital in part. -/
theorem contains_capitalRanges_iff :
    capitalRanges.contains character = true ↔ isUppercase character = true ∨
      character ∈ titlecaseDigraphs ∨ iotaRanges.contains character = true := by
  rw [← contains_digraphRanges_iff, CharacterSet.contains, capitalRanges, List.any_append,
    List.any_append, Bool.or_eq_true, Bool.or_eq_true, or_assoc]
  rfl

namespace CaseShift

/-- The image of a shift holds characters when it lies on one side of the surrogates. -/
def isValid (shift : CaseShift) : Bool :=
  decide (0 ≤ shift.range.first + shift.distance) && Nat.blt shift.image.last 0xD800 ||
    Nat.blt 0xDFFF shift.image.first && Nat.blt shift.image.last 0x110000

/-- A shift starts from capitals when these cover its range, or each of its codes. -/
def startsCapital (shift : CaseShift) : Bool :=
  capitalRanges.any (·.covers shift.range) ||
    shift.range.codes.all fun code => capitalRanges.any (·.covers ⟨code, code, 1⟩)

/-- A shift leaves the capitals when its image has none of them. -/
def leavesCapitals (shift : CaseShift) : Bool :=
  capitalRanges.all shift.image.misses

/-- A shift goes down, or does not start from a vowel with an iota. -/
def lowersIota (shift : CaseShift) : Bool :=
  decide (shift.distance < 0) || iotaRanges.all shift.range.misses

/-- A shift is regular when it has these four properties. -/
def isRegular (shift : CaseShift) : Bool :=
  shift.isValid && shift.startsCapital && shift.leavesCapitals && shift.lowersIota

/-- Every shift is regular. -/
theorem all_isRegular : lowercaseShifts.all isRegular = true := by decide +kernel

variable {shift : CaseShift} {code : Nat}

/-- A shift to a lowercase leads to characters, from capitals to others, and down from an iota. -/
theorem regular_of_mem (member : shift ∈ lowercaseShifts) :
    shift.isValid = true ∧ shift.startsCapital = true ∧ shift.leavesCapitals = true ∧
      shift.lowersIota = true := by
  have regular := List.all_eq_true.mp all_isRegular shift member
  simpa only [isRegular, Bool.and_eq_true, and_assoc] using regular

/-- No shift leads below zero. -/
theorem nonneg_of_isValid (valid : shift.isValid = true) :
    0 ≤ shift.range.first + shift.distance := by
  simp only [isValid, image, Bool.or_eq_true, Bool.and_eq_true, decide_eq_true_eq,
    Nat.blt_eq] at valid
  omega

/-- The image of a shift contains what the shift makes of its codes. -/
theorem contains_image (valid : shift.isValid = true) (found : shift.range.contains code = true) :
    shift.image.contains (code + shift.distance).toNat = true := by
  obtain ⟨least, greatest, multiple⟩ := CodeRange.contains_eq_true_iff.mp found
  have start := nonneg_of_isValid valid
  refine CodeRange.contains_eq_true_iff.mpr ⟨?_, ?_, ?_⟩
  · simp only [image]
    omega
  · simp only [image]
    omega
  · have same : (code + shift.distance).toNat - (shift.range.first + shift.distance).toNat =
        code - shift.range.first := by omega
    rw [image, same, multiple]

/-- A shift leads to a character for each of its codes. -/
theorem toNat_ofNat (valid : shift.isValid = true) (found : shift.range.contains code = true) :
    (Char.ofNat (code + shift.distance).toNat).toNat = (code + shift.distance).toNat := by
  obtain ⟨least, greatest, _⟩ := CodeRange.contains_eq_true_iff.mp (contains_image valid found)
  have isChar : (code + shift.distance).toNat.isValidChar := by
    simp only [isValid, Bool.or_eq_true, Bool.and_eq_true, decide_eq_true_eq, Nat.blt_eq] at valid
    unfold Nat.isValidChar
    omega
  rw [Char.ofNat, dif_pos isChar]
  rfl

/-- Only capitals are shifted. -/
theorem contains_capitalRanges (member : shift ∈ lowercaseShifts)
    (found : shift.range.contains character.toNat = true) :
    capitalRanges.contains character = true := by
  obtain ⟨_, starts, _⟩ := regular_of_mem member
  rw [startsCapital, Bool.or_eq_true] at starts
  rcases starts with covered | each
  · obtain ⟨outer, among, covers⟩ := List.any_eq_true.mp covered
    exact List.any_eq_true.mpr ⟨outer, among, CodeRange.contains_of_covers covers found⟩
  · have own := List.all_eq_true.mp each _ (CodeRange.mem_codes_of_contains found)
    obtain ⟨outer, among, covers⟩ := List.any_eq_true.mp own
    refine List.any_eq_true.mpr ⟨outer, among, CodeRange.contains_of_covers covers ?_⟩
    simp [CodeRange.contains]

/-- No shift leads to a capital. -/
theorem contains_capitalRanges_ofNat (member : shift ∈ lowercaseShifts)
    (found : shift.range.contains code = true) :
    capitalRanges.contains (Char.ofNat (code + shift.distance).toNat) = false := by
  obtain ⟨valid, _, leaves, _⟩ := regular_of_mem member
  have inImage := contains_image valid found
  rw [← toNat_ofNat valid found] at inImage
  rw [CharacterSet.contains, List.any_eq_false]
  intro range among inside
  have outside :=
    CodeRange.contains_eq_false_of_misses (List.all_eq_true.mp leaves range among) inImage
  rw [outside] at inside
  cases inside

end CaseShift

/-- A character is its own lowercase, or has one by the exception, or by a shift. -/
theorem lowercaseChar_cases (character : Char) :
    lowercaseChar character = [character] ∨ character = 'İ' ∨
    ∃ shift ∈ lowercaseShifts, shift.range.contains character.toNat = true ∧
      lowercaseChar character = [Char.ofNat (character.toNat + shift.distance).toNat] := by
  unfold lowercaseChar
  split
  · exact .inr (.inl ‹_›)
  · split
    · rename_i shift found
      have inRange := List.find?_some found
      exact .inr (.inr ⟨shift, List.mem_of_find?_eq_some found, inRange, rfl⟩)
    · exact .inl rfl

/-- A character that is no capital is its own lowercase. -/
theorem lowercaseChar_of_not_capital (small : capitalRanges.contains character = false) :
    lowercaseChar character = [character] := by
  obtain same | rfl | ⟨shift, member, found, _⟩ := lowercaseChar_cases character
  · exact same
  · exact absurd small (by decide)
  · rw [CaseShift.contains_capitalRanges member found] at small
    cases small

/-- The lowercase of a character that has another one holds no capital. -/
theorem contains_capitalRanges_of_mem_lowercaseChar (cased : lowercaseChar character ≠ [character])
    {lower : Char} (member : lower ∈ lowercaseChar character) :
    capitalRanges.contains lower = false := by
  obtain same | rfl | ⟨shift, among, found, shifted⟩ := lowercaseChar_cases character
  · exact absurd same cased
  · have two : lowercaseChar 'İ' = ['i', '\u0307'] := by rfl
    rw [two] at member
    obtain rfl | rfl := List.mem_pair.mp member
    · decide +kernel
    · decide +kernel
  · rw [shifted] at member
    obtain rfl := List.mem_singleton.mp member
    exact CaseShift.contains_capitalRanges_ofNat among found

/-- Every character of the lowercase of a character is its own lowercase. -/
theorem lowercaseChar_of_mem_lowercaseChar {lower : Char}
    (member : lower ∈ lowercaseChar character) : lowercaseChar lower = [lower] := by
  by_cases same : lowercaseChar character = [character]
  · rw [same] at member
    obtain rfl := List.mem_singleton.mp member
    exact same
  · exact lowercaseChar_of_not_capital (contains_capitalRanges_of_mem_lowercaseChar same member)

/-- The lowercase of a character in its place in a text holds settled characters only. -/
theorem isSettled_of_mem_lowercaseIn {before : Bool} {rest : List Char} {lower : Char}
    (member : lower ∈ lowercaseIn before character rest) : IsSettled lower := by
  have settled (other : lower ≠ 'Σ') (same : lowercaseChar lower = [lower]) : IsSettled lower := by
    intro left right
    rw [lowercaseIn, if_neg other, same]
  unfold lowercaseIn at member
  split at member
  · split at member
    · obtain rfl := List.mem_singleton.mp member
      exact settled (by decide) (by rfl)
    · obtain rfl := List.mem_singleton.mp member
      exact settled (by decide) (by rfl)
  · -- A capital sigma is no lowercase of any character, since it has another lowercase itself.
    have same := lowercaseChar_of_mem_lowercaseChar member
    refine settled ?_ same
    rintro rfl
    exact absurd same (by decide)

/-- The lowercase of a text does not change when it is taken again. -/
theorem lowercase_lowercase (text : String) : lowercase (lowercase text) = lowercase text := by
  have settled : ∀ lower ∈ lowercaseChars text.toList, IsSettled lower :=
    forall_mem_lowercaseFrom (fun _ _ _ _ _ => isSettled_of_mem_lowercaseIn) false
  have same : lowercaseChars (lowercaseChars text.toList) = lowercaseChars text.toList :=
    lowercaseFrom_of_settled settled false
  rw [lowercase, lowercase, String.toList_ofList, same]

/-- A character that is no capital weighs its code. -/
theorem caseWeight_of_not_capital (small : capitalRanges.contains character = false) :
    caseWeight character = character.toNat := by
  have other : ¬ isUppercase character = true := by
    intro upper
    rw [contains_capitalRanges_iff.mpr (.inl upper)] at small
    cases small
  rw [caseWeight, if_neg other]

/-- What a shift leads to weighs less than where it starts, but for four letters. -/
theorem CaseShift.caseWeight_lt {shift : CaseShift} (member : shift ∈ lowercaseShifts)
    (found : shift.range.contains character.toNat = true) (other : character ∉ titlecaseDigraphs) :
    caseWeight (Char.ofNat (character.toNat + shift.distance).toNat) < caseWeight character := by
  obtain ⟨valid, _, _, lowers⟩ := regular_of_mem member
  have code := toNat_ofNat valid found
  rw [caseWeight_of_not_capital (contains_capitalRanges_ofNat member found)]
  obtain upper | digraph | iota :=
    contains_capitalRanges_iff.mp (contains_capitalRanges member found)
  · rw [caseWeight, if_pos upper]
    have bound := toNat_lt_caseWeight_bound (Char.ofNat (character.toNat + shift.distance).toNat)
    omega
  · exact absurd digraph other
  · -- A shift that starts from a vowel with an iota goes down.
    rw [lowersIota, Bool.or_eq_true, decide_eq_true_eq] at lowers
    have weight : character.toNat ≤ caseWeight character := by
      rw [caseWeight]
      split <;> omega
    rcases lowers with down | missed
    · obtain ⟨least, _⟩ := CodeRange.bounds_of_contains found
      have start := nonneg_of_isValid valid
      omega
    · obtain ⟨range, among, inside⟩ := List.any_eq_true.mp iota
      have outside :=
        CodeRange.contains_eq_false_of_misses (List.all_eq_true.mp missed range among) found
      rw [outside] at inside
      cases inside

/-- Four letters weigh less than their lowercases. -/
theorem caseWeight_lt_of_mem_titlecaseDigraphs (digraph : character ∈ titlecaseDigraphs) :
    ∃ lower, lowercaseChar character = [lower] ∧ caseWeight character < caseWeight lower := by
  simp only [titlecaseDigraphs, List.mem_cons, List.not_mem_nil, or_false] at digraph
  rcases digraph with rfl | rfl | rfl | rfl
  · exact ⟨'\u01C6', by rfl, by decide⟩
  · exact ⟨'\u01C9', by rfl, by decide⟩
  · exact ⟨'\u01CC', by rfl, by decide⟩
  · exact ⟨'\u01F3', by rfl, by decide⟩

/-- But for four letters, another lowercase of a character starts with less weight. -/
theorem exists_caseWeight_lt (cased : lowercaseChar character ≠ [character])
    (other : character ∉ titlecaseDigraphs) :
    ∃ first rest, lowercaseChar character = first :: rest ∧
      caseWeight first < caseWeight character := by
  obtain same | rfl | ⟨shift, member, found, shifted⟩ := lowercaseChar_cases character
  · exact absurd same cased
  · exact ⟨'i', ['\u0307'], by rfl, by decide⟩
  · exact ⟨_, [], shifted, CaseShift.caseWeight_lt member found other⟩

end FieldQuery.Text
