import SlotServe.Vocabulary.Basic
/-! Texts cut at the added words. Words are looked for from left to right, the longest one first where
several begin, and the search goes on behind a word also when it does not count. A word that counts
may take blanks around it along. -/
namespace SlotServe.Vocabulary

def longestAt (words : List AddedWord) (text : List Char) : Option AddedWord :=
  (words.filter fun word => word.text.toList.isPrefixOf text).foldl (fun best word =>
    match best with
    | none => some word
    | some found => if found.text.length < word.text.length then some word else some found) none

structure Occurrence where
  id : Nat
  /-- The first position that belongs to the word, unless an earlier word reaches further. -/
  start : Nat
  /-- Whether the word gives way to an earlier word. -/
  yields : Bool
  /-- One past the last position that belongs to the word. -/
  stop : Nat
  deriving DecidableEq

/-- The occurrence of the word behind an id at a position, `before` being the text in front of it in
reverse and `after` the text behind it; none if the word would have to stand alone and does not. -/
def occurrence? (vocabulary : Vocabulary) (id position length : Nat) (before after : List Char) :
    Option Occurrence :=
  let beside := before.head?.any Text.isWordCharacter || after.head?.any Text.isWordCharacter
  match vocabulary.holders.lookup id with
  | none => none
  | some holder =>
    if holder.alone && beside then none
    else
      let front := if holder.takesBefore then (before.takeWhile Text.isBlank).length else 0
      let back := if holder.takesAfter then (after.takeWhile Text.isBlank).length else 0
      some ⟨id, position - front, holder.takesBefore, position + length + back⟩

/-- The occurrences of some added words from a position on. `skip` characters belong to the word that
was found last, and `before` is the text in front of the position in reverse. -/
def occurrences (vocabulary : Vocabulary) (words : List AddedWord) :
    Nat → Nat → List Char → List Char → List Occurrence
  | _, _, _, [] => []
  | skip + 1, position, before, c :: rest =>
    occurrences vocabulary words skip (position + 1) (c :: before) rest
  | 0, position, before, c :: rest =>
    match longestAt words (c :: rest) with
    | none => occurrences vocabulary words 0 (position + 1) (c :: before) rest
    | some word =>
      let length := word.text.length
      let found := (vocabulary.idOf? word.text).bind fun id =>
        vocabulary.occurrence? id position length before ((c :: rest).drop length)
      found.toList ++ occurrences vocabulary words (length - 1) (position + 1) (c :: before) rest

inductive Piece
  | text (characters : List Char)
  | added (id : Nat)
  deriving DecidableEq

def stretch (text : List Char) (start stop : Nat) : List Piece :=
  if start < stop then [.text ((text.drop start).take (stop - start))] else []

/-- The pieces of a text from a position on, given the occurrences in it. An occurrence of which
earlier ones leave nothing is dropped; one that would end before it starts has no piece at all. -/
def piecesFrom (text : List Char) : Nat → List Occurrence → Except Defect (List Piece)
  | reached, [] => .ok (stretch text reached text.length)
  | reached, occurrence :: rest =>
    let start := if occurrence.yields then max occurrence.start reached else occurrence.start
    if occurrence.stop < start then .error .outOfBounds
    else do
      let word := if start < occurrence.stop then [Piece.added occurrence.id] else []
      return stretch text reached start ++ word ++ (← piecesFrom text occurrence.stop rest)

def cut (vocabulary : Vocabulary) (words : List AddedWord) (text : List Char) :
    Except Defect (List Piece) :=
  piecesFrom text 0 (vocabulary.occurrences words 0 0 [] text)

def pieces (vocabulary : Vocabulary) (text : List Char) : Except Defect (List Piece) := do
  let (late, early) := (vocabulary.special ++ vocabulary.plain).partition (·.late)
  let cuts ← (← vocabulary.cut early text).mapM fun
    | .added id => pure [Piece.added id]
    | .text characters => vocabulary.cut late characters
  return cuts.flatten

def wordsIn (vocabulary : Vocabulary) (text : List Char) : List String :=
  if vocabulary.splits then (Text.runs text).map String.ofList else [String.ofList text]

def wordId (vocabulary : Vocabulary) (word : String) : Except Fault Nat :=
  match vocabulary.words.lookup word <|> vocabulary.words.lookup vocabulary.unknown with
  | some id => .ok id
  | none => .error (.vocabulary .unknownWord)

def encode (vocabulary : Vocabulary) (text : String) : Except Fault (List Nat) := do
  let ids ← (← ofDefect (vocabulary.pieces text.toList)).mapM fun
    | .added id => pure [id]
    | .text characters => (vocabulary.wordsIn characters).mapM vocabulary.wordId
  return ids.flatten

def decode (vocabulary : Vocabulary) (ids : List Nat) : String :=
  let words := ids.filterMap vocabulary.wordOf?
  " ".intercalate (words.filter fun word => !vocabulary.isSpecial word)

end SlotServe.Vocabulary
