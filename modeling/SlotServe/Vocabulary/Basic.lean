import SlotServe.Fault
import SlotServe.Settings.Engine
import SlotServe.Text.WordCharacters
/-! Vocabularies of whole words, and the words that are added to them. An added word is found in a
text before the text is split, and has the id of the equal word of the vocabulary if there is one. -/
namespace SlotServe

structure AddedWord where
  text : String
  /-- Found only where no word character stands next to it. -/
  alone : Bool := false
  /-- Takes the blanks in front of it along. -/
  takesBefore : Bool := false
  /-- Takes the blanks behind it along. -/
  takesAfter : Bool := false
  /-- Looked for only in what the other added words leave of a text. -/
  late : Bool := false
  /-- Left out when ids are turned back into text. -/
  special : Bool := false
  deriving DecidableEq

structure Vocabulary where
  /-- Distinct words with their ids. -/
  words : List (String × Nat)
  /-- The word whose id stands for words that are not there. -/
  unknown : String
  /-- Whether texts are split into runs. -/
  splits : Bool
  /-- Special words to look for, with distinct texts. -/
  special : List AddedWord := []
  /-- Other words to look for. -/
  plain : List AddedWord := []
  /-- The id of each added text. -/
  addedIds : List (String × Nat) := []
  /-- The added word that an id stands for, the one added last if there were several. -/
  holders : List (Nat × AddedWord) := []
  deriving DecidableEq

namespace Vocabulary

def ofWords (words : List String) (unknown : String) : Vocabulary :=
  { words := words.zipIdx, unknown, splits := true }

def size (vocabulary : Vocabulary) : Nat :=
  (vocabulary.words.map (·.1) ++ vocabulary.addedIds.map (·.1)).eraseDups.length

def idOf? (vocabulary : Vocabulary) (word : String) : Option Nat :=
  vocabulary.addedIds.lookup word <|> vocabulary.words.lookup word

def wordOf? (vocabulary : Vocabulary) (id : Nat) : Option String :=
  match vocabulary.holders.lookup id with
  | some found => some found.text
  | none => (vocabulary.words.find? (·.2 = id)).map (·.1)

def isSpecial (vocabulary : Vocabulary) (word : String) : Bool :=
  vocabulary.special.any (·.text = word)

/-- The id of the next added word that needs one: past those of the added words, and not below the
number of words. Ids are words of 32 bits. -/
def nextId (vocabulary : Vocabulary) : Except Defect Nat :=
  let count := vocabulary.words.length
  match (vocabulary.addedIds.map (·.2)).max? with
  | none => .ok count
  | some largest =>
    if largest < count then .ok count
    else if largest + 1 < 0x100000000 then .ok (largest + 1)
    else .error .overflow

def add (vocabulary : Vocabulary) (word : AddedWord) : Except Defect Vocabulary :=
  if word.text = "" || vocabulary.holders.any (·.2 = word) then .ok vocabulary
  else do
    let id ← match vocabulary.idOf? word.text with
      | some id => pure id
      | none => vocabulary.nextId
    return { vocabulary with
      plain := if vocabulary.isSpecial word.text then vocabulary.plain else vocabulary.plain ++ [word]
      addedIds := vocabulary.addedIds.filter (·.1 ≠ word.text) ++ [(word.text, id)]
      holders := (id, word) :: vocabulary.holders.filter (·.1 ≠ id) }

def addSpecial (special : List AddedWord) (word : AddedWord) : List AddedWord :=
  if word.special && word.text ≠ "" && !special.any (·.text = word.text) then special ++ [word]
  else special

/-- Add words together: which texts are special is settled before any of them gets its id. -/
def addAll (vocabulary : Vocabulary) (words : List AddedWord) : Except Defect Vocabulary :=
  words.foldlM add { vocabulary with special := words.foldl addSpecial vocabulary.special }

def addSentinels (vocabulary : Vocabulary) (count : Nat) : Except Defect Vocabulary :=
  vocabulary.addAll ((List.range count).map fun index =>
    { text := s!"<extra_id_{index}>", special := true })

end Vocabulary

end SlotServe
