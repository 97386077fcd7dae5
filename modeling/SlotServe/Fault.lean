/-! What can go wrong in a call, by cause, with the wording of each cause in one place. -/
namespace SlotServe

/-- A broken assumption of the program itself. A call that meets one has no answer. -/
inductive Defect
  | overflow
  | divisionByZero
  | outOfBounds
  | overfilled
  | emptyRange
  | capacity
  deriving DecidableEq

def Defect.message : Defect → String
  | .overflow => "a size left the machine word"
  | .divisionByZero => "division by zero"
  | .outOfBounds => "index out of bounds"
  | .overfilled => "more tokens than the held blocks can store"
  | .emptyRange => "draw from an empty range"
  | .capacity => "a list longer than memory can address"

inductive BlockFault
  | outOfBlocks (requested available : Nat)
  | notAllocated (block : Nat)
  | unknownSlot (slot numSlots : Nat)
  deriving DecidableEq

def BlockFault.message : BlockFault → String
  | .outOfBlocks requested available =>
    s!"out of blocks: requested {requested}, available {available}"
  | .notAllocated block => s!"block {block} is not allocated"
  | .unknownSlot slot numSlots =>
    s!"slot {slot} has no block tables (valid slots: 0..{numSlots})"

def sizesText (sizes : List Nat) : String :=
  "[" ++ ", ".intercalate (sizes.map toString) ++ "]"

inductive TensorFault
  | wrongRank (expected : Nat) (shape : List Nat)
  | noAxis (axis : Nat) (shape : List Nat)
  | wrongType
  | outOfRange
  | shapeMismatch
  | empty
  | transferFailed
  | sampler (text : String)
  deriving DecidableEq

def TensorFault.message : TensorFault → String
  | .wrongRank expected shape =>
    s!"unexpected rank, expected: {expected}, got: {shape.length} ({sizesText shape})"
  | .noAxis axis shape => s!"dimension index {axis} out of range for shape {sizesText shape}"
  | .wrongType => "unexpected element type"
  | .outOfRange => "selection past the end of an axis"
  | .shapeMismatch => "shapes do not agree"
  | .empty => "empty tensor for reduce"
  | .transferFailed => "transfer failed"
  | .sampler text => text

inductive LayoutFault
  | notFlat (shape : List Nat)
  | badColumns (name : String) (first last width : Nat)
  | sharedColumns (left right : String)
  | unevenSlots (rows samples : Nat)
  | unpackable (tokens valid lengths : List Nat)
  | unevenRows (expected tokens flags : Nat)
  | logProbWidth (entries expected : Nat)
  | logProbRows (found rows : Nat)
  | noParts
  | unlikeParts
  | hostShape (copied expected : List Nat)
  | noSamples
  | sampleCount (tokens rows : Nat)
  | other (text : String)
  deriving DecidableEq

def LayoutFault.message : LayoutFault → String
  | .notFlat shape => s!"expected 2-D data, got {sizesText shape}"
  | .badColumns name first last width =>
    s!"{name} [{first}, {last}) is empty or exceeds width {width}"
  | .sharedColumns left right => s!"{left} and {right} overlap"
  | .unevenSlots rows samples =>
    s!"{rows} rows cannot be split into slots of {samples} samples"
  | .unpackable tokens valid lengths =>
    s!"cannot pack tokens {sizesText tokens}, valid {sizesText valid}, lengths {sizesText lengths}"
  | .unevenRows expected tokens flags =>
    s!"row widths differ: expected {expected}, got {tokens} tokens / {flags} flags"
  | .logProbWidth entries expected =>
    s!"log_prob row has {entries} entries, expected {expected}"
  | .logProbRows found rows => s!"log_prob has {found} rows, buffer has {rows}"
  | .noParts => "no microbatches to concatenate"
  | .unlikeParts => "microbatches disagree on layout"
  | .hostShape copied expected =>
    s!"host copy has shape {sizesText copied}, buffer has {sizesText expected}"
  | .noSamples => "num_samples must be at least 1"
  | .sampleCount tokens rows => s!"sampler returned {tokens} tokens for {rows} rows"
  | .other text => text

inductive VocabularyFault
  | noPath
  | unreadable
  | unknownWord
  | other (text : String)
  deriving DecidableEq

def VocabularyFault.message : VocabularyFault → String
  | .noPath => "tokenizer parameters carry no path"
  | .unreadable => "tokenizer file cannot be read"
  | .unknownWord => "word outside the vocabulary"
  | .other text => text

inductive ExecutorFault
  | outsideVocabulary (token vocabulary : Nat)
  | transferPanicked
  | other (text : String)
  deriving DecidableEq

def ExecutorFault.message : ExecutorFault → String
  | .outsideVocabulary token vocabulary => s!"token {token} outside vocabulary of {vocabulary}"
  | .transferPanicked => "host transfer thread panicked"
  | .other text => text

/-- Every way in which a call can fail. A `defect` is a broken assumption of the program; all
other causes are ordinary answers to a bad request or to a full cache. -/
inductive Fault
  | slotOutOfRange (slot numSlots : Nat)
  | duplicateSlot (slot : Nat)
  | tokensTooShort (paddedLength trueLength : Nat)
  | emptyPrompt
  | promptTooLong (length limit : Nat)
  | carriedMismatch (position : Nat)
  | layout (cause : LayoutFault)
  | sampleCountMismatch (expected found : Nat)
  | logProbMismatch
  | unimplemented (operation : String)
  | vocabulary (cause : VocabularyFault)
  | blocks (cause : BlockFault)
  | tensor (cause : TensorFault)
  | executor (cause : ExecutorFault)
  | stalled
  | defect (cause : Defect)
  deriving DecidableEq

namespace Fault

def message : Fault → String
  | .slotOutOfRange slot numSlots => s!"slot {slot} out of range (valid slots: 0..{numSlots})"
  | .duplicateSlot slot => s!"slot {slot} listed more than once"
  | .tokensTooShort padded length =>
    s!"padded tokens ({padded}) shorter than true length ({length})"
  | .emptyPrompt => "prefill request has no tokens to process"
  | .promptTooLong length limit =>
    s!"prefill of {length} tokens exceeds max prefill length {limit}"
  | .carriedMismatch position =>
    s!"existing prefix diverges from request tokens at position {position}"
  | .layout cause => s!"invalid result layout: {cause.message}"
  | .sampleCountMismatch expected found =>
    s!"prefix carries {found} samples but slot holds {expected}"
  | .logProbMismatch => "log probabilities present on some buffers but not others"
  | .unimplemented operation => s!"operation `{operation}` is not implemented by this engine"
  | .vocabulary cause => s!"tokenizer error: {cause.message}"
  | .blocks cause => s!"cache error: {cause.message}"
  | .tensor cause => s!"tensor error: {cause.message}"
  | .executor cause => cause.message
  | .stalled => "no progress is possible"
  | .defect cause => cause.message

def isContractViolation : Fault → Bool
  | .slotOutOfRange .. | .duplicateSlot .. | .tokensTooShort .. | .emptyPrompt
  | .promptTooLong .. | .carriedMismatch .. | .layout .. | .sampleCountMismatch .. => true
  | _ => false

def isOutOfBlocks : Fault → Bool
  | .blocks (.outOfBlocks ..) => true
  | _ => false

end Fault

def orDefect {α : Type} (cause : Defect) : Option α → Except Fault α
  | some value => .ok value
  | none => .error (.defect cause)

def ofDefect {α : Type} : Except Defect α → Except Fault α
  | .ok value => .ok value
  | .error cause => .error (.defect cause)

def ofTensor {α : Type} : Except TensorFault α → Except Fault α
  | .ok value => .ok value
  | .error cause => .error (.tensor cause)

end SlotServe
