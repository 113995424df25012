/-
This file defines the version of the library and the one choice in the compilation of predicates.
-/
import FieldQuery.Text.Lowercase

namespace FieldQuery

def version : String := "0.1.0"

/-- This structure says whether every word becomes lowercase before it enters a query. -/
structure Config where
  foldCase : Bool
deriving DecidableEq

namespace Config

def exact : Config := ⟨false⟩

def folding : Config := ⟨true⟩

/-- Words and patterns pass through this function on their way into a query. -/
def normalize (config : Config) (text : String) : String :=
  if config.foldCase then Text.lowercase text else text

@[simp] theorem normalize_exact (text : String) : exact.normalize text = text := rfl

@[simp] theorem normalize_folding (text : String) :
    folding.normalize text = Text.lowercase text := rfl

end Config

end FieldQuery
