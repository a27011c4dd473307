import AffixSpeller.Text.Basic

/-!
# Tries of words

A trie stores values under non-empty words. A node stands for a letter at some position: it holds
the value of the word that ends there, the trie of what may follow, and the trie of the letters
that may stand there instead. Words with a common beginning share nodes, so that a look-up costs
no more than the word's length times the number of letters in use.

## Main definitions

* `WordTrie`: a finite map from non-empty words.
* `WordTrie.get?`: the value of a word.
* `WordTrie.alter`: the trie with the value of one word made from its old one.
* `WordTrie.mapWithWord`: the trie with all values made from the old ones and their words.
* `WordTrie.toList`: the words with their values.
-/

namespace AffixSpeller

/-- A finite map from non-empty words to values. -/
inductive WordTrie (α : Type) where
  | empty
  /-- `value` belongs to the word that ends with `letter` here, `below` to its continuations and
  `beside` to the words with another letter here. -/
  | node (letter : Char) (value : Option α) (below beside : WordTrie α)
  deriving DecidableEq, Repr

namespace WordTrie

variable {α β : Type}

/-- The value of a word. -/
def get? : WordTrie α → Text → Option α
  | empty, _ => none
  | node _ _ _ _, [] => none
  | node letter value below beside, c :: cs =>
    if c = letter then
      match cs with
      | [] => value
      | _ :: _ => below.get? cs
    else beside.get? (c :: cs)

/-- Whether the trie has a value for the word. -/
def contains (t : WordTrie α) (word : Text) : Bool :=
  (t.get? word).isSome

/-- The trie with one word. -/
def singleton (value : α) : Text → WordTrie α
  | [] => empty
  | [c] => node c (some value) empty empty
  | c :: d :: cs => node c none (singleton value (d :: cs)) empty

/-- The trie in which the word has the value `f` makes of its old one; the empty word has no place
in a trie and leaves it unchanged. -/
def alter (f : Option α → α) : WordTrie α → Text → WordTrie α
  | empty, word => singleton (f none) word
  | node letter value below beside, [] => node letter value below beside
  | node letter value below beside, c :: cs =>
    if c = letter then
      match cs with
      | [] => node letter (some (f value)) below beside
      | _ :: _ => node letter value (alter f below cs) beside
    else node letter value below (alter f beside (c :: cs))

/-- The trie with the given value for the word. -/
def insert (t : WordTrie α) (word : Text) (value : α) : WordTrie α :=
  t.alter (fun _ => value) word

/-- The trie with the same words, whose values are made from the words and their old values. -/
def mapWithWord (f : Text → α → β) : WordTrie α → WordTrie β
  | empty => empty
  | node letter value below beside =>
    node letter (value.map (f [letter])) (below.mapWithWord fun word => f (letter :: word))
      (beside.mapWithWord f)

@[simp] theorem get?_mapWithWord (f : Text → α → β) (t : WordTrie α) (word : Text) :
    (t.mapWithWord f).get? word = (t.get? word).map (f word) := by
  induction t generalizing f word with
  | empty => rfl
  | node letter value below beside ihBelow ihBeside =>
    match word with
    | [] => rfl
    | [c] =>
      simp only [mapWithWord, get?]
      split
      · next hletter => rw [hletter]
      · exact ihBeside f [c]
    | c :: d :: ds =>
      simp only [mapWithWord, get?]
      split
      · next hletter => rw [ihBelow, hletter]
      · exact ihBeside f (c :: d :: ds)

/-- The words with their values, each word once. -/
def toList : WordTrie α → List (Text × α)
  | empty => []
  | node letter value below beside =>
    (value.map ([letter], ·)).toList
      ++ below.toList.map (fun (word, a) => (letter :: word, a))
      ++ beside.toList

/-- The number of words. -/
def size : WordTrie α → Nat
  | empty => 0
  | node _ value below beside => (if value.isSome then 1 else 0) + below.size + beside.size

end WordTrie

end AffixSpeller
