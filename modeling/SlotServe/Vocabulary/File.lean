import SlotServe.Json.Value
import SlotServe.Json.Reader
import SlotServe.Vocabulary.Piece
/-! Vocabularies in files. A file holds one object: a model of whole words and what is done to a
text before the model sees it. Only splitting into runs can be asked for. Every member must be in
order, also where a later member of the same name takes its place. -/
namespace SlotServe.Vocabulary

def distinct (members : List (String × Json)) : List (String × Json) :=
  members.foldl (fun kept member => kept.filter (·.1 ≠ member.1) ++ [member]) []

def id? (json : Json) : Option Nat := do
  let id ← json.nat?
  guard (id < 0x100000000)
  return id

def wordsOf? : Json → Option (List (String × Nat))
  | .object members => (distinct members).mapM fun member => do return (member.1, ← id? member.2)
  | _ => none

def kind? : Json → Option String
  | .string name => some name
  | .object [(name, .null)] => some name
  | _ => none

/-- The words of a model, and its word for unknown ones. Only models of whole words are read; a model
without a kind is taken for one. -/
def model? (json : Json) : Option (List (String × Nat) × String) := do
  match json with
  | .object members =>
    match members.filter (·.1 = "type") with
    | [] => pure ()
    | [kind] => guard (kind? kind.2 = some "WordLevel")
    | _ => none
  | _ => none
  return (← wordsOf? (← json.get? "vocab"), ← json.textAt? "unk_token")

def isRuns (json : Json) : Bool :=
  let kind := match json with
    | .object members => kind? (.object (distinct members))
    | other => kind? other
  kind = some "Whitespace"

def splits? (step : Json) : Option Bool :=
  match step with
  | .null => some false
  | .array [kind] => if isRuns kind then some true else none
  | _ => if (step.member? "type").any isRuns then some true else none

def single? (members : List (String × Json)) (name : String) : Option Json :=
  match members.filter (·.1 = name) with
  | [member] => some member.2
  | _ => none

def addedWord? (json : Json) : Option AddedWord := do
  match json with
  | .object members =>
    let _ ← (single? members "id").bind id?
    let flag := fun name => (single? members name).bind Json.bool?
    return { text := ← (single? members "content").bind Json.string?
             alone := ← flag "single_word", takesBefore := ← flag "lstrip"
             takesAfter := ← flag "rstrip", late := ← flag "normalized", special := ← flag "special" }
  | _ => none

structure Parts where
  model : Option (List (String × Nat) × String) := none
  splits : Bool := false
  added : List AddedWord := []

def Parts.read? (parts : Parts) (member : String × Json) : Option Parts := do
  let (name, value) := member
  if name = "version" then
    guard (value.string? = some "1.0")
    return parts
  else if name = "model" then return { parts with model := ← model? value }
  else if name = "pre_tokenizer" then return { parts with splits := ← splits? value }
  else if name = "added_tokens" then
    return { parts with added := ← (← value.array?).mapM addedWord? }
  else
    guard (["truncation", "padding", "normalizer", "post_processor", "decoder"].contains name)
    guard (value matches .null)
    return parts

def Parts.ofJson? : Json → Option Parts
  | .object members => members.foldlM Parts.read? {}
  | _ => none

def parse (text : String) : Except Fault Vocabulary := do
  match (Json.parse? text).bind Parts.ofJson? with
  | some ⟨some (words, unknown), splits, added⟩ =>
    ofDefect (({ words, unknown, splits } : Vocabulary).addAll added)
  | _ => throw (.vocabulary .unreadable)

def load (read : String → Option String) (source : VocabularySource) : Except Fault Vocabulary := do
  if !source.isConfigured then throw (.vocabulary .noPath)
  match read source.path with
  | none => throw (.vocabulary .unreadable)
  | some text => ofDefect ((← parse text).addSentinels source.extraIds)

end SlotServe.Vocabulary
