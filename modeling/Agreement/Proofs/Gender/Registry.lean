/- # Agreement.Proofs.Gender.Registry: what the requests of all clients leave

The requests of all clients reach the registry in some order, one at a time. A write counts as a
whole or not at all, so the vocabulary at the end of a run is the one at its start with the pairs
of the successful writes bound in their order. What a look-up finds, how many keys there are and
how long the longest is follows from those pairs alone.
-/
import Agreement.Gender.Registry
import Agreement.Proofs.Gender.Spelling
import Agreement.Proofs.Outcome
import Agreement.Proofs.SortedMap
import Mathlib.Data.Finset.Lattice.Fold
import Mathlib.Order.Lattice.Nat

namespace Agreement

open Text

namespace Lexicon

variable {lex next : Lexicon} {batch : List (String × Entry)}

/-! ## Batches -/

/-- Every pair of a batch is valid. -/
def AllValid (batch : List (String × Entry)) : Prop := ∀ p ∈ batch, p.2.isValid p.1 = true

/-- A batch up to the first pair that is not valid. -/
structure FirstInvalid (batch front : List (String × Entry)) (p : String × Entry)
    (back : List (String × Entry)) : Prop where
  split : batch = front ++ p :: back
  valid : AllValid front
  invalid : p.2.isValid p.1 = false

/-- A batch is valid, or there is a first pair of it that is not. -/
theorem allValid_or_exists_firstInvalid (batch : List (String × Entry)) :
    AllValid batch ∨ ∃ front p back, FirstInvalid batch front p back := by
  cases found : batch.find? fun p => !p.2.isValid p.1 with
  | none =>
      left
      intro p hp
      simpa using List.find?_eq_none.mp found p hp
  | some p =>
      right
      obtain ⟨invalid, front, back, split, valid⟩ := List.find?_eq_some_iff_append.mp found
      exact ⟨front, p, back, split, fun q hq => by simpa using valid q hq, by simpa using invalid⟩

/-- The vocabulary that some successful writes make which bind a batch together. -/
def advance (lex : Lexicon) (writes : Nat) (batch : List (String × Entry)) : Lexicon :=
  { lex.bindAll batch with version := lex.version + writes }

theorem advance_zero (lex : Lexicon) : lex.advance 0 [] = lex := rfl

theorem bindAll_withVersion (lex : Lexicon) (batch : List (String × Entry)) (version : Nat) :
    ({ lex with version := version } : Lexicon).bindAll batch =
      { lex.bindAll batch with version := version } := by
  induction batch generalizing lex with
  | nil => rfl
  | cons p batch ih => exact ih (lex.bind p.1 p.2)

theorem advance_advance (lex : Lexicon) (m n : Nat) (batch batch' : List (String × Entry)) :
    (lex.advance m batch).advance n batch' = lex.advance (m + n) (batch ++ batch') := by
  have both : lex.bindAll (batch ++ batch') = (lex.bindAll batch).bindAll batch' :=
    List.foldl_append
  have later := (lex.bindAll batch).bindAll_withVersion batch' (lex.version + m)
  rw [advance, advance, advance, later, both, Nat.add_assoc]

/-- A valid batch makes the next version. -/
theorem extend_of_allValid (lex : Lexicon) (valid : AllValid batch) :
    lex.extend batch = .ok (lex.advance 1 batch) := by
  have none_invalid : batch.find? (fun p => !p.2.isValid p.1) = none := by
    rw [List.find?_eq_none]
    intro p hp
    simp [valid p hp]
  rw [extend, none_invalid, advance]

/-- A batch that is not valid is refused for its first word that is not. -/
theorem extend_of_firstInvalid (lex : Lexicon) {front back : List (String × Entry)}
    {p : String × Entry} (first : FirstInvalid batch front p back) :
    lex.extend batch = .error (.invalidEntry p.1) := by
  have found : batch.find? (fun p => !p.2.isValid p.1) = some p := by
    rw [List.find?_eq_some_iff_append]
    exact ⟨by simp [first.invalid], front, back, first.split, fun q hq => by
      simp [first.valid q hq]⟩
  rw [extend, found]

/-- Only valid batches are added. -/
theorem extend_eq_ok {next : Lexicon} :
    lex.extend batch = .ok next ↔ AllValid batch ∧ next = lex.advance 1 batch := by
  constructor
  · intro added
    rcases allValid_or_exists_firstInvalid batch with valid | ⟨front, p, back, first⟩
    · rw [lex.extend_of_allValid valid] at added
      exact ⟨valid, (Except.ok.inj added).symm⟩
    · rw [lex.extend_of_firstInvalid first] at added
      cases added
  · rintro ⟨valid, rfl⟩
    exact lex.extend_of_allValid valid

/-! ## All ways to build are one -/

/-- A text that begins with a visible character is visible. -/
theorem isBlank_of_front? {s : String} (visible : s.front?.any (!Unicode.isSpace ·) = true) :
    isBlank s.toList = false := by
  rw [String.front?_eq] at visible
  cases text : s.toList with
  | nil => simp [text] at visible
  | cons c rest =>
      rw [text, List.head?_cons, Option.any_some, Bool.not_eq_true'] at visible
      simp [isBlank, visible]

theorem hebrew_begins_visible : ∀ p ∈ Vocabulary.rows.map Vocabulary.Row.entry,
    ∀ s ∈ [p.1, p.2.forms.male, p.2.forms.female, p.2.forms.plural],
      s.front?.any (!Unicode.isSpace ·) = true := by
  decide +kernel

theorem allValid_hebrew : AllValid (Vocabulary.rows.map Vocabulary.Row.entry) := by
  intro p hp
  rw [Entry.isValid, Bool.not_eq_true', List.any_eq_false]
  intro s hs
  rw [isBlank_of_front? (hebrew_begins_visible p hp s hs)]
  exact Bool.false_ne_true

/-- However a vocabulary was built, it is the empty one with valid words bound one after the
other. -/
theorem Reachable.exists_batch (h : lex.Reachable) :
    ∃ version batch, AllValid batch ∧ lex = Lexicon.empty.advance version batch := by
  induction h with
  | empty => exact ⟨0, [], nofun, rfl⟩
  | hebrew => exact ⟨1, _, allValid_hebrew, rfl⟩
  | extend _ added ih =>
      obtain ⟨version, before, valid_before, rfl⟩ := ih
      obtain ⟨valid, rfl⟩ := extend_eq_ok.mp added
      refine ⟨version + 1, _, ?_, advance_advance .empty version 1 before _⟩
      intro p hp
      exact (List.mem_append.mp hp).elim (valid_before p) (valid p)
  | @ofJson text next loaded =>
      unfold Lexicon.ofJson at loaded
      split at loaded
      · cases loaded
      · next m _ =>
          obtain ⟨valid, made⟩ := extend_eq_ok.mp (Except.mapError_eq_ok.mp loaded)
          exact ⟨1, m.entries, valid, made⟩

/-! ## What is bound -/

/-- The entry of the last of several pairs whose word has the key of a word. -/
def lastBound (batch : List (String × Entry)) (word : String) : Option Entry :=
  (batch.reverse.find? (key ·.1 = key word)).map (·.2)

/-- The keys of the words of several pairs. -/
def keysOf (batch : List (String × Entry)) : List String := batch.map (key ·.1)

theorem entries_bindAll (lex : Lexicon) (batch : List (String × Entry)) :
    (lex.bindAll batch).entries =
      (batch.map fun p => (key p.1, p.2)).foldl (fun m p => m.insert p.1 p.2) lex.entries := by
  induction batch generalizing lex with
  | nil => rfl
  | cons p batch ih => exact ih (lex.bind p.1 p.2)

/-- A look-up finds the last pair for its key, or else what was there. -/
theorem get?_bindAll (lex : Lexicon) (batch : List (String × Entry)) (word : String) :
    (lex.bindAll batch).get? word = (lastBound batch word).or (lex.get? word) := by
  rw [get?, entries_bindAll, SortedMap.get?_foldl_insert, ← List.map_reverse, List.find?_map,
    Option.map_map, get?, lastBound]
  simp only [Function.comp_def]

/-- The keys are those that were there and those of the pairs. -/
theorem toFinset_keys_bindAll (lex : Lexicon) (batch : List (String × Entry)) :
    (lex.bindAll batch).entries.keys.toFinset = (lex.entries.keys ++ keysOf batch).toFinset := by
  induction batch generalizing lex with
  | nil => rw [keysOf, List.map_nil, List.append_nil]; rfl
  | cons p batch ih =>
      have step := ih (lex.bind p.1 p.2)
      refine step.trans (Finset.ext fun k => ?_)
      simp only [List.mem_toFinset, List.mem_append, bind, SortedMap.mem_keys_insert, keysOf,
        List.map_cons, List.mem_cons]
      exact or_assoc.trans or_left_comm

/-- Each key is counted once. -/
theorem size_eq_card (lex : Lexicon) : lex.size = lex.entries.keys.toFinset.card := by
  rw [List.toFinset_card_of_nodup lex.entries.nodup_keys, SortedMap.keys, List.length_map]
  rfl

/-! ## The longest key -/

/-- The greatest number of words that a vocabulary keeps is that of its keys, where words are
counted by spaces. -/
def IsMeasured (lex : Lexicon) : Prop :=
  lex.maxWords = lex.entries.keys.toFinset.sup wordCount

/-- Binding a word raises the number if its key is longer than all others. -/
theorem IsMeasured.bind (h : lex.IsMeasured) (word : String) (e : Entry) :
    (lex.bind word e).IsMeasured := by
  have keys : (lex.bind word e).entries.keys.toFinset =
      insert (key word) lex.entries.keys.toFinset := by
    ext k
    simp only [List.mem_toFinset, Lexicon.bind, SortedMap.mem_keys_insert, Finset.mem_insert]
  rw [IsMeasured, keys, Finset.sup_insert, ← h, sup_comm]
  rfl

theorem IsMeasured.bindAll (h : lex.IsMeasured) (batch : List (String × Entry)) :
    (lex.bindAll batch).IsMeasured := by
  induction batch generalizing lex with
  | nil => exact h
  | cons p batch ih => exact ih (h.bind p.1 p.2)

theorem isMeasured_empty : empty.IsMeasured := rfl

theorem Reachable.isMeasured (h : lex.Reachable) : lex.IsMeasured := by
  obtain ⟨version, batch, -, rfl⟩ := h.exists_batch
  exact isMeasured_empty.bindAll batch

/-- The words of a key are counted by the spaces between them. -/
theorem WellKeyed.wordCount_eq (h : lex.WellKeyed) {k : String} (hk : k ∈ lex.entries.keys) :
    wordCount k = (words k.toList).length := by
  obtain ⟨e, found⟩ := Option.isSome_iff_exists.mp (SortedMap.mem_keys.mp hk)
  obtain ⟨⟨word, visible, rfl⟩, -⟩ := h k e found
  rw [wordCount, toList_key, count_normalizeKey (words_normalize_ne_nil visible),
    words_normalizeKey]

/-- **The number that a vocabulary keeps is the greatest number of words in any of its keys.** -/
theorem Reachable.maxWords_eq (h : lex.Reachable) :
    lex.maxWords = lex.entries.keys.toFinset.sup fun k => (words k.toList).length := by
  rw [h.isMeasured]
  refine Finset.sup_congr rfl fun k hk => ?_
  exact h.wellKeyed.wordCount_eq (List.mem_toFinset.mp hk)

end Lexicon

open Lexicon

namespace Registry

/-! ## Requests -/

/-- What a client asks of the registry. -/
inductive Request
  | add (word : String) (e : Entry)
  | extend (batch : List (String × Entry))
  | merge (other : Lexicon)
  /-- The current vocabulary, to keep. -/
  | snapshot

/-- What the registry answers. -/
inductive Reply
  /-- The write counts, and made this version. -/
  | written (version : Nat)
  | refused (cause : Error)
  | snapshot (lex : Lexicon)

/-- Whether a write counts. -/
def Reply.isWritten : Reply → Bool
  | written _ => true
  | _ => false

/-- The pairs that a request is to bind, if it is a write. -/
def Request.batch? : Request → Option (List (String × Entry))
  | add word e => some [(word, e)]
  | extend batch => some batch
  | merge other => some other.entries.entries
  | snapshot => none

/-- The answer to a write and the registry after it. It keeps what it holds if the write fails. -/
def answer (r : Registry) : Except Error Registry → Reply × Registry
  | .ok next => (.written next.version, next)
  | .error cause => (.refused cause, r)

/-- Serves one request. -/
def serve (r : Registry) : Request → Reply × Registry
  | .add word e => r.answer (r.add word e)
  | .extend batch => r.answer (r.extend batch)
  | .merge other => r.answer (r.merge other)
  | .snapshot => (.snapshot r.current, r)

/-- Serves requests one after the other: each with its answer, and the registry at the end. -/
def run (r : Registry) : List Request → List (Request × Reply) × Registry
  | [] => ([], r)
  | q :: qs => ((q, (r.serve q).1) :: ((r.serve q).2.run qs).1, ((r.serve q).2.run qs).2)

/-- The pairs that a request bound, given its answer. -/
def bound : Request × Reply → List (String × Entry)
  | (q, .written _) => q.batch?.getD []
  | _ => []

/-- The pairs that the successful writes of a run bound, in their order. -/
def written (log : List (Request × Reply)) : List (String × Entry) := log.flatMap bound

/-- The number of successful writes of a run. -/
def writes (log : List (Request × Reply)) : Nat := log.countP (·.2.isWritten)

theorem written_cons (x : Request × Reply) (log : List (Request × Reply)) :
    written (x :: log) = bound x ++ written log := List.flatMap_cons

theorem writes_cons (x : Request × Reply) (log : List (Request × Reply)) :
    writes (x :: log) = writes log + if x.2.isWritten then 1 else 0 := List.countP_cons

variable {r : Registry} {q : Request} {batch : List (String × Entry)}

/-! ## One request -/

/-- All writes are batches. -/
theorem serve_of_batch (r : Registry) (write : q.batch? = some batch) :
    r.serve q = r.answer (r.extend batch) := by
  cases q with
  | snapshot => cases write
  | add | extend | merge =>
      cases write
      rfl

/-- A valid batch counts as a whole and makes the next version. -/
theorem serve_of_allValid (r : Registry) (write : q.batch? = some batch) (valid : AllValid batch) :
    r.serve q = (.written (r.version + 1), ⟨r.current.advance 1 batch⟩) := by
  rw [serve_of_batch r write, Registry.extend, r.current.extend_of_allValid valid]
  rfl

/-- A batch with a pair that is not valid leaves the registry as it is. -/
theorem serve_of_firstInvalid (r : Registry) (write : q.batch? = some batch)
    {front back : List (String × Entry)} {p : String × Entry}
    (first : FirstInvalid batch front p back) :
    r.serve q = (.refused (.invalidEntry p.1), r) := by
  rw [serve_of_batch r write, Registry.extend, r.current.extend_of_firstInvalid first]
  rfl

/-- **What one request can do:** it adds a valid batch, or it changes nothing. -/
theorem serve_cases (r : Registry) (q : Request) :
    (∃ batch, q.batch? = some batch ∧ AllValid batch ∧
      r.serve q = (.written (r.version + 1), ⟨r.current.advance 1 batch⟩)) ∨
    ((r.serve q).1.isWritten = false ∧ (r.serve q).2 = r) := by
  cases write : q.batch? with
  | none =>
      right
      cases q with
      | snapshot => exact ⟨rfl, rfl⟩
      | add | extend | merge => cases write
  | some batch =>
      rcases allValid_or_exists_firstInvalid batch with valid | ⟨front, p, back, first⟩
      · exact .inl ⟨batch, rfl, valid, r.serve_of_allValid write valid⟩
      · rw [r.serve_of_firstInvalid write first]
        exact .inr ⟨rfl, rfl⟩

/-- A request keeps the vocabulary one that can be built. -/
theorem reachable_serve (h : r.current.Reachable) (q : Request) :
    (r.serve q).2.current.Reachable := by
  rcases r.serve_cases q with ⟨batch, -, valid, served⟩ | ⟨-, same⟩
  · rw [served]
    exact .extend h (r.current.extend_of_allValid valid)
  · rwa [same]

/-! ## Runs -/

theorem reachable_run (h : r.current.Reachable) (requests : List Request) :
    (r.run requests).2.current.Reachable := by
  induction requests generalizing r with
  | nil => exact h
  | cons q requests ih => exact ih (reachable_serve h q)

/-- **A run binds the pairs of its successful writes in their order, and counts those writes.** -/
theorem current_run (r : Registry) (requests : List Request) :
    (r.run requests).2.current =
      r.current.advance (writes (r.run requests).1) (written (r.run requests).1) := by
  induction requests generalizing r with
  | nil => exact r.current.advance_zero.symm
  | cons q requests ih =>
      rw [run, ih]
      dsimp only
      rw [written_cons, writes_cons]
      rcases r.serve_cases q with ⟨batch, write, -, served⟩ | ⟨unwritten, same⟩
      · have pairs : bound (q, .written (r.version + 1)) = batch := by rw [bound, write]; rfl
        rw [served, advance_advance, pairs, Nat.add_comm]
        rfl
      · have pairs : bound (q, (r.serve q).1) = [] := by
          cases reply : (r.serve q).1 with
          | written version => rw [reply] at unwritten; cases unwritten
          | refused | snapshot => rfl
        rw [same, pairs, unwritten]
        rfl

/-- **No update is lost, and a write that fails leaves no trace.** After any run of requests the
version has gone up by one for each successful write. The next write fails exactly if it has an
invalid pair, for the first invalid word, and then nothing changes. A word has the entry of the last
pair that a successful write bound to its key, or else the one that it had at the start. The size is
the number of distinct keys, and the greatest number of words in any key is known. -/
theorem run_loses_no_update {start : Lexicon} (h : start.Reachable) (requests : List Request) :
    let log := ((Registry.mk start).run requests).1
    let now := ((Registry.mk start).run requests).2
    now.version = start.version + writes log ∧
    (∀ q batch, q.batch? = some batch →
      (AllValid batch → (now.serve q).1 = .written (now.version + 1)) ∧
      ∀ front p back, FirstInvalid batch front p back →
        now.serve q = (.refused (.invalidEntry p.1), now)) ∧
    now.serve .snapshot = (.snapshot now.current, now) ∧
    (∀ word, now.current.get? word = (lastBound (written log) word).or (start.get? word)) ∧
    now.current.size = (start.entries.keys ++ keysOf (written log)).toFinset.card ∧
    now.current.maxWords =
      now.current.entries.keys.toFinset.sup fun k => (words k.toList).length := by
  intro log now
  have current : now.current = start.advance (writes log) (written log) :=
    current_run ⟨start⟩ requests
  have reachable : now.current.Reachable := reachable_run (r := ⟨start⟩) h requests
  refine ⟨?_, ?_, rfl, ?_, ?_, reachable.maxWords_eq⟩
  · rw [Registry.version, current, advance]
  · intro q batch write
    exact ⟨fun valid => by rw [now.serve_of_allValid write valid],
      fun front p back first => now.serve_of_firstInvalid write first⟩
  · intro word
    rw [current]
    exact get?_bindAll start (written log) word
  · rw [size_eq_card, current]
    exact congrArg Finset.card (toFinset_keys_bindAll start (written log))

/-- Two writes that count, one of which binds a word twice, around one that ends with a blank
word. -/
theorem run_loses_no_update_blank_word :
    let again : Entry := ⟨⟨"הוא", "היא", "המה", some "היא"⟩, false⟩
    let phrase : Entry := ⟨⟨"בעל דין מורשה", "בעלת דין מורשית", "בעלי דין מורשים", none⟩, true⟩
    let requests : List Request :=
      [.add "בעל  דין מורשה" phrase, .extend [("נאמן", again), (" ", phrase)], .snapshot,
        .extend [("הוא", phrase), (" הוא ", again)]]
    let now := ((Registry.mk .small).run requests).2
    Lexicon.small.Reachable ∧ FirstInvalid [("נאמן", again), (" ", phrase)]
        [("נאמן", again)] (" ", phrase) [] ∧
      now.version = 3 ∧
      now.serve (.extend [("נאמן", again), (" ", phrase)]) = (.refused (.invalidEntry " "), now) ∧
      now.current.get? "הוא" = some again ∧ now.current.get? "נאמן" = none ∧
      now.current.size = 3 ∧ now.current.maxWords = 3 := by
  intro again phrase requests now
  have blank : FirstInvalid [("נאמן", again), (" ", phrase)] [("נאמן", again)] (" ", phrase) [] :=
    ⟨rfl, by unfold AllValid; decide +kernel, by decide⟩
  obtain ⟨version, write, -, found, size, longest⟩ := run_loses_no_update .small requests
  exact ⟨.small, blank, version.trans (by decide +kernel), (write _ _ rfl).2 _ _ _ blank,
    (found _).trans (by decide +kernel), (found _).trans (by decide +kernel),
    size.trans (by decide +kernel), longest.trans (by decide +kernel)⟩

end Registry

end Agreement
