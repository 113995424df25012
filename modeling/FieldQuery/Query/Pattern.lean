/-
This file defines the tokens of wildcard patterns and decides which terms queries match.
-/
import FieldQuery.Fault
import FieldQuery.Query.Basic

namespace FieldQuery

namespace Pattern

/-- A token stands for one character, for any one character, or for any run of characters. -/
inductive Token where
  | literal (character : Char)
  | one
  | many
deriving DecidableEq

/-- A backslash makes the next character literal, and at the end of a pattern itself. -/
def tokensFrom (before : List Token) : List Char → List Token
  | [] => before.reverse
  | '\\' :: character :: rest => tokensFrom (.literal character :: before) rest
  | '*' :: rest => tokensFrom (.many :: before) rest
  | '?' :: rest => tokensFrom (.one :: before) rest
  | character :: rest => tokensFrom (.literal character :: before) rest

def tokens (pattern : List Char) : List Token :=
  tokensFrom [] pattern

/-- A wildcard stands for no line feed. -/
def isCovered (character : Char) : Bool :=
  character != '\n'

/--
A row holds one truth value for each suffix of a term, from the whole term to the empty one: it
says whether the suffix matches some tokens. This function puts one token before them.
-/
def Token.extendRow : Token → List Char → List Bool → List Bool
  | .literal _, [], _ => [false]
  | .literal expected, character :: rest, row =>
    (expected == character && row.tail.headD false) ::
      Token.extendRow (.literal expected) rest row.tail
  | .one, [], _ => [false]
  | .one, character :: rest, row =>
    (isCovered character && row.tail.headD false) :: Token.extendRow .one rest row.tail
  | .many, [], row => [row.headD false]
  | .many, character :: rest, row =>
    let later := Token.extendRow .many rest row.tail
    (row.headD false || (isCovered character && later.headD false)) :: later

/-- No tokens match the empty suffix only. -/
def endRow : List Char → List Bool
  | [] => [true]
  | _ :: rest => false :: endRow rest

/-- The row of a sequence of tokens is built from its end. -/
def row (term : List Char) (tokens : List Token) : List Bool :=
  tokens.foldr (fun token later => token.extendRow term later) (endRow term)

/-- A sequence of tokens matches a term when it matches its longest suffix. -/
def matchesTerm (tokens : List Token) (term : List Char) : Bool :=
  (row term tokens).headD false

/--
An engine prepares the tokens of a pattern for matching, or refuses them and gives a reason. Each
engine sets limits of its own to the patterns that it takes.
-/
structure Engine where
  refusal? : List Token → Option String

end Pattern

namespace Query

variable (engine : Pattern.Engine)

/-- A wildcard pattern matches a whole term, unless the engine refuses the pattern. -/
def wildcardMatches (pattern term : String) : Except Fault Bool :=
  let tokens := Pattern.tokens pattern.toList
  match engine.refusal? tokens with
  | some reason => .error (.refusedPattern reason)
  | none => .ok (Pattern.matchesTerm tokens term.toList)

/-- A start matches the terms that begin with its characters. -/
def startMatches (start term : String) : Bool :=
  start.toList.isPrefixOf term.toList

/-- Only wildcard queries and prefix queries decide about single terms. -/
def matches? (query : Query) (term : String) : Option (Except Fault Bool) :=
  match query with
  | .wildcard _ pattern _ => some (wildcardMatches engine pattern term)
  | .prefixed _ start _ => some (.ok (startMatches start term))
  | _ => none

end Query

end FieldQuery
