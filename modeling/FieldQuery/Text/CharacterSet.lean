/-
This file defines sets of characters that are given by ranges of code points, and among them the set
of the characters that separate words.
-/

namespace FieldQuery.Text

/-- This structure contains every `step`-th code point from `first` to `last`. -/
structure CodeRange where
  first : Nat
  last : Nat
  step : Nat
deriving DecidableEq

/-- A range contains the code points that lie a multiple of its step above its first one. -/
def CodeRange.contains (range : CodeRange) (code : Nat) : Bool :=
  decide (range.first ≤ code) && decide (code ≤ range.last) &&
    (code - range.first) % range.step == 0

/-- This type gives a set of characters by its ranges in increasing order. -/
abbrev CharacterSet := List CodeRange

/-- A character belongs to a set when one of the ranges contains its code point. -/
def CharacterSet.contains (set : CharacterSet) (character : Char) : Bool :=
  set.any fun range => range.contains character.toNat

@[simp] theorem CharacterSet.contains_nil (character : Char) :
    CharacterSet.contains [] character = false := rfl

@[simp] theorem CharacterSet.contains_cons (range : CodeRange) (rest : CharacterSet)
    (character : Char) : CharacterSet.contains (range :: rest) character =
      (range.contains character.toNat || CharacterSet.contains rest character) := rfl

/-- These ranges are the characters of the Unicode property White_Space. -/
def blanks : CharacterSet :=
  [⟨0x0009, 0x000D, 1⟩, ⟨0x0020, 0x0020, 1⟩, ⟨0x0085, 0x0085, 1⟩, ⟨0x00A0, 0x00A0, 1⟩,
    ⟨0x1680, 0x1680, 1⟩, ⟨0x2000, 0x200A, 1⟩, ⟨0x2028, 0x2029, 1⟩, ⟨0x202F, 0x202F, 1⟩,
    ⟨0x205F, 0x205F, 1⟩, ⟨0x3000, 0x3000, 1⟩]

/-- A blank character separates words and belongs to none. -/
def isBlank (character : Char) : Bool :=
  blanks.contains character

end FieldQuery.Text
