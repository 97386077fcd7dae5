import SlotServe.Decimal.Numeral
import SlotServe.Size
import SlotServe.Tensor.Convert
/-! The arguments of a prefill, and the checks that every executor makes before it starts. Prompts are padded
on the right to one of few lengths, the buckets, so that executors meet a bounded number of shapes. A prompt
may start from the cache of an earlier prefill when it starts with the tokens that the cache covers. -/
namespace SlotServe

def defaultBuckets : List Nat := (List.range 12).map fun power => 16 * Nat.pow 2 power

def nearestLength (buckets : List Nat) (length : Nat) : Nat :=
  ((buckets.filter (length ≤ ·)).min?).getD length

def insertSize (size : Nat) : List Nat → List Nat
  | [] => [size]
  | first :: rest =>
    if size < first then size :: first :: rest
    else if size = first then first :: rest
    else first :: insertSize size rest

def bucketsUpTo (buckets : List Nat) (limit : Nat) : List Nat :=
  (buckets.filter fun bucket => 0 < bucket && bucket ≤ limit).foldr insertSize []

def padRight (tokens : List UInt32) (pad : UInt32) (length : Nat) : List UInt32 :=
  tokens ++ List.replicate (length - tokens.length) pad

/-- Tokens take 4 bytes each, and a prompt of a given length must be addressable. -/
def checkLength (length : Nat) : Except Fault Unit :=
  if Size.addressable length 4 then .ok () else .error (.defect .capacity)

def padPrompt (tokens : List UInt32) (pad : UInt32) (buckets : List Nat) :
    Except Fault (List UInt32 × Nat) := do
  if tokens.isEmpty then throw .emptyPrompt
  let length := nearestLength buckets tokens.length
  checkLength length
  return (padRight tokens pad length, tokens.length)

structure Carried (P : Type) where
  cache : P
  tokens : Tensor

def firstDifference : List UInt32 → List UInt32 → Option Nat
  | left :: lefts, right :: rights =>
    if left = right then (firstDifference lefts rights).map (· + 1) else some 0
  | _, _ => none

namespace Carried

variable {P Q : Type}

def length (carried : Carried P) : Nat := carried.tokens.numCells

def isEmpty (carried : Carried P) : Bool := carried.length = 0

def tokenIds (carried : Carried P) : List UInt32 := carried.tokens.flatten.tokens

def checkLeads (carried : Carried P) (padded : Tensor) (trueLength : Nat) : Except Fault Unit :=
  let covered := carried.tokenIds
  if trueLength < covered.length then .error (.carriedMismatch trueLength)
  else
    match padded.flatten.narrow 0 0 covered.length with
    | .error cause => .error (.tensor cause)
    | .ok lead =>
      match firstDifference covered lead.tokens with
      | some position => .error (.carriedMismatch position)
      | none => .ok ()

def mapCache (f : P → Q) (carried : Carried P) : Carried Q := ⟨f carried.cache, carried.tokens⟩

end Carried

structure RequestId where
  value : Nat
  deriving DecidableEq

namespace RequestId

def text (id : RequestId) : String :=
  let digits := Text.hexDigits 32 id.value
  let group := fun start count => String.ofList ((digits.drop start).take count)
  "-".intercalate [group 0 8, group 8 4, group 12 4, group 16 4, group 20 12]

def ofRandom (high low : Nat) : RequestId :=
  let high := high % 0x10000000000000000 / 0x10000 * 0x10000 + 0x4000 + high % 0x1000
  ⟨high * 0x10000000000000000 + (0x8000000000000000 + low % 0x4000000000000000)⟩

end RequestId

abbrev Sampler := Tensor → Except TensorFault Tensor

structure PrefillRequest (P : Type) where
  /-- Token ids; those past `trueLength` are padding. -/
  padded : Tensor
  trueLength : Nat
  carried : Option (Carried P) := none
  sampler : Option Sampler := none
  requestId : Option RequestId := none

namespace PrefillRequest

variable {P : Type}

def paddedLength (request : PrefillRequest P) : Nat := request.padded.shape.getLast?.getD 0

def carriedLength (request : PrefillRequest P) : Nat := (request.carried.map Carried.length).getD 0

def newTokens (request : PrefillRequest P) : Nat := request.trueLength - request.carriedLength

def checkCarried (request : PrefillRequest P) : Except Fault Unit :=
  match request.carried with
  | none => .ok ()
  | some carried => carried.checkLeads request.padded request.trueLength

def validate (request : PrefillRequest P) (limit : Nat) : Except Fault Unit := do
  if request.paddedLength < request.trueLength then
    throw (.tokensTooShort request.paddedLength request.trueLength)
  request.checkCarried
  if request.newTokens = 0 then throw .emptyPrompt
  if limit < request.newTokens then throw (.promptTooLong request.newTokens limit)

def optionText (value : Option String) : String :=
  match value with
  | none => "None"
  | some text => s!"Some({text})"

def summary (request : PrefillRequest P) : String :=
  let fields :=
    [("padded_len", toString request.paddedLength), ("true_length", toString request.trueLength),
     ("existing_prefix_len", optionText (request.carried.map (toString ·.length))),
     ("has_sampler", if request.sampler.isSome then "true" else "false"),
     ("request_id", optionText (request.requestId.map RequestId.text))]
  "PrefillRequest \x7b " ++ ", ".intercalate (fields.map fun field => field.1 ++ ": " ++ field.2) ++
    " \x7d"

end PrefillRequest

end SlotServe
