/- # Agreement.Gender.Registry: the vocabulary in use

A registry holds the current lexicon. Writers replace it as a whole and readers keep the one that
they took, so a write either counts completely or leaves no trace.
-/
import Agreement.Gender.Lexicon

namespace Agreement

/-- The holder of the current vocabulary. -/
structure Registry where
  current : Lexicon
  deriving DecidableEq

namespace Registry

/-- The version of the current vocabulary. -/
def version (r : Registry) : Nat := r.current.version

/-- Adds a batch of entries in one step. -/
def extend (r : Registry) (batch : List (String × Entry)) : Except Error Registry :=
  (r.current.extend batch).map .mk

/-- Adds one entry. -/
def add (r : Registry) (word : String) (e : Entry) : Except Error Registry :=
  r.extend [(word, e)]

/-- Adds all entries of another vocabulary. -/
def merge (r : Registry) (other : Lexicon) : Except Error Registry :=
  r.extend other.entries.entries

end Registry

end Agreement
