/- # Agreement.Gender.Lexicon: vocabularies

A lexicon maps words, in the form in which they are looked up, to entries. It never changes; adding
entries makes a new one with the next version. One invalid entry in a batch refuses the batch.
-/
import Agreement.SortedMap
import Agreement.Gender.Entry
import Agreement.Gender.Token

namespace Agreement

/-- A versioned vocabulary. -/
structure Lexicon where
  /-- Goes up by one with each batch that is added. It starts at zero or one and is never loaded, so
  a number of 64 bits would do: a run that passes it would have to add 2^64 batches one by one. -/
  version : Nat
  entries : SortedMap String Entry
  /-- The greatest number of words in any key; no search goes further. -/
  maxWords : Nat
  deriving DecidableEq

namespace Lexicon

/-- The vocabulary without entries. -/
def empty : Lexicon := ⟨0, .empty, 0⟩

/-- The number of words. -/
def size (lex : Lexicon) : Nat := lex.entries.size

/-- The key of a word. -/
def key (word : String) : String := String.ofList (normalizeKey word.toList)

/-- The number of words in a key. -/
def wordCount (key : String) : Nat := key.toList.count ' ' + 1

/-- The lexicon with a word bound to an entry, in place of what it was bound to. -/
def bind (lex : Lexicon) (word : String) (e : Entry) : Lexicon where
  version := lex.version
  entries := lex.entries.insert (key word) e
  maxWords := max lex.maxWords (wordCount (key word))

/-- The lexicon with words bound in order; of two entries for one key the later counts. -/
def bindAll (lex : Lexicon) (batch : List (String × Entry)) : Lexicon :=
  batch.foldl (fun next p => next.bind p.1 p.2) lex

/-- The entry of a word, however it is spelled. -/
def get? (lex : Lexicon) (word : String) : Option Entry := lex.entries.get? (key word)

/-- The lexicon with one batch of entries added. -/
def extend (lex : Lexicon) (batch : List (String × Entry)) : Except Error Lexicon :=
  match batch.find? fun p => !p.2.isValid p.1 with
  | some p => .error (.invalidEntry p.1)
  | none => .ok { lex.bindAll batch with version := lex.version + 1 }

/-- The lexicon with one entry added. -/
def add (lex : Lexicon) (word : String) (e : Entry) : Except Error Lexicon :=
  lex.extend [(word, e)]

/-- The lexicon of a batch of entries. -/
def ofEntries (batch : List (String × Entry)) : Except Error Lexicon := empty.extend batch

/-- A lexicon in saved data: its entries by key. The version is not saved. -/
def toJson (lex : Lexicon) : Json :=
  .object (lex.entries.entries.map fun p => (p.1, p.2.toJson))

/-- Reads the entries of a saved vocabulary, in the order of their words; of two entries under one
name the later counts. -/
def bindingsDecoder : Json.Decoder Error (SortedMap String Entry) :=
  (Json.Decoder.bindings .ok Entry.decoder).map SortedMap.ofList

/-- The lexicon of a saved vocabulary. -/
def ofJson (text : String) : Except LoadError Lexicon :=
  match Json.decode bindingsDecoder text with
  | .error fault => .error (.json fault)
  | .ok m => (ofEntries m.entries).mapError .invalid

end Lexicon

end Agreement
