/- # Agreement.Gender.Matching: words that agree

Looking for words of a vocabulary in a text goes from left to right. At every word the longest
phrase counts that the vocabulary has, and a word that begins no phrase is kept. Phrases are words
with nothing but blank space between them. The vocabulary has a phrase when its key is there, or
when the key without a leading article is there and its entry takes the article.

What is found does not depend on the gender: the search gives pieces, and a gender turns pieces
into text.
-/
import Agreement.Gender.Lexicon

namespace Agreement

/-- The Hebrew definite article, written as a part of the word after it. -/
def article : Char := 'ה'

/-- What the vocabulary has for a phrase: an entry, and whether the article stood in front. -/
structure Hit where
  entry : Entry
  withArticle : Bool
  deriving DecidableEq, Repr

/-- The form of a hit for a gender, with the article if it stood there. -/
def Hit.form (h : Hit) (g : Gender) : List Char :=
  (if h.withArticle then [article] else []) ++ (h.entry.form g).toList

/-- A piece of a searched text: a token that is kept, or a phrase of the vocabulary. -/
inductive Piece
  | kept (token : Token)
  | phrase (tokens : List Token) (hit : Hit)
  deriving DecidableEq, Repr

namespace Piece

/-- The text that a piece stands for. -/
def source : Piece → List Char
  | kept token => token.text
  | phrase tokens _ => tokens.flatMap (·.text)

/-- The text of a piece for a gender. -/
def form (g : Gender) : Piece → List Char
  | kept token => token.text
  | phrase _ hit => hit.form g

end Piece

/-- A phrase at the start of a list of tokens: its words, and how many tokens it takes. -/
structure Phrase where
  words : List (List Char)
  length : Nat
  deriving DecidableEq, Repr

/-- The key of a phrase. -/
def Phrase.key (p : Phrase) : List Char := normalizeKey ([' '].intercalate p.words)

/-- The phrases of up to `limit` words at the start of a list of tokens, shortest first. -/
def phrases : (limit : Nat) → List Token → List Phrase
  | 0, _ => []
  | _, [] => []
  | limit + 1, word :: rest =>
    if word.isWord then
      ⟨[word.text], 1⟩ :: match rest with
        | space :: rest' =>
          if space.isSpace then
            (phrases limit rest').map fun p => ⟨word.text :: p.words, p.length + 2⟩
          else []
        | [] => []
    else []

/-- Whether a text touches a placeholder on either side. A word there is only a part of a longer
one. -/
structure Seams where
  before : Bool := false
  after : Bool := false
  deriving DecidableEq, Repr

/-- The first word, if it touches a placeholder, and the tokens after it. -/
def Seams.takeFirst (s : Seams) : List Token → List Token × List Token
  | t :: rest => if s.before && t.isWord then ([t], rest) else ([], t :: rest)
  | [] => ([], [])

/-- The tokens before the last word and that word, if it touches a placeholder. -/
def Seams.takeLast (s : Seams) (tokens : List Token) : List Token × List Token :=
  if s.after && tokens.getLast?.any Token.isWord then
    (tokens.dropLast, tokens.drop (tokens.length - 1))
  else (tokens, [])

namespace Lexicon

/-- What the vocabulary has for a key. The key itself comes before the key without the article. -/
def find? (lex : Lexicon) (key : List Char) : Option Hit :=
  match lex.entries.get? (String.ofList key) with
  | some e => some ⟨e, false⟩
  | none =>
    match key with
    | c :: stripped =>
      -- the article is a part of the word after it, so a word must be left
      if c = article ∧ stripped ≠ [] ∧ stripped.head? ≠ some ' ' then
        match lex.entries.get? (String.ofList stripped) with
        | some e => if e.takesArticle then some ⟨e, true⟩ else none
        | none => none
      else none
    | [] => none

/-- The longest phrase of the vocabulary at the start of a list of tokens, with how many tokens it
takes. -/
def longest (lex : Lexicon) (limit : Nat) (tokens : List Token) : Option (Hit × Nat) :=
  (phrases limit tokens).reverse.findSome? fun p => (lex.find? p.key).map (·, p.length)

/-- The pieces of a list of tokens of which `skip` still belong to the last phrase. -/
def piecesFrom (lex : Lexicon) (limit : Nat) : (skip : Nat) → List Token → List Piece
  | _, [] => []
  | skip + 1, _ :: rest => piecesFrom lex limit skip rest
  | 0, t :: rest =>
    match lex.longest limit (t :: rest) with
    -- the other tokens of the phrase are passed over
    | some (hit, n) => .phrase ((t :: rest).take n) hit :: piecesFrom lex limit (n - 1) rest
    | none => .kept t :: piecesFrom lex limit 0 rest

/-- The pieces of a text between its seams. -/
def pieces (lex : Lexicon) (seams : Seams) (text : List Char) : List Piece :=
  let (first, rest) := seams.takeFirst (Token.scan text)
  let (middle, last) := seams.takeLast rest
  first.map .kept ++ lex.piecesFrom (max 1 lex.maxWords) 0 middle ++ last.map .kept

/-- The text with every phrase of the vocabulary in its form for a gender. -/
def inAgreement (lex : Lexicon) (g : Gender) (seams : Seams) (text : List Char) : List Char :=
  (lex.pieces seams text).flatMap (·.form g)

/-- The form of a single word or phrase for a gender, the article allowed. -/
def inflect (lex : Lexicon) (word : String) (g : Gender) : Option String :=
  (lex.find? (normalizeKey word.toList)).map fun h => String.ofList (h.form g)

end Lexicon

end Agreement
