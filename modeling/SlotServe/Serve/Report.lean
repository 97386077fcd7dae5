import SlotServe.Json.Value
import SlotServe.Serve.Request
/-! What a run answers. -/
namespace SlotServe

structure Completion where
  id : RequestId
  promptLength : Nat
  /-- The slot that the request decoded in. -/
  slot : Nat
  /-- One token stream for each sample. -/
  samples : List (List UInt32)
  deriving DecidableEq

structure Report where
  completions : List Completion := []
  /-- Requests that never reached a slot. -/
  failed : List RequestId := []
  prefills : Nat := 0
  generateSteps : Nat := 0
  tokensGenerated : Nat := 0
  /-- Admissions put off because the cache was full. -/
  deferred : Nat := 0
  /-- Stopped before the queue was empty. -/
  interrupted : Bool := false
  deriving DecidableEq

def Completion.json (completion : Completion) : Json :=
  .object [("id", .string completion.id.text), ("prompt_len", .ofNat completion.promptLength),
    ("slot", .ofNat completion.slot),
    ("samples", .array (completion.samples.map fun tokens =>
      .array (tokens.map fun token => .ofNat token.toNat)))]

def Report.members (report : Report) (elapsed : Option Nat) : List (String × Json) :=
  [("completions", .array (report.completions.map Completion.json)),
   ("failed", .array (report.failed.map fun id => .string id.text)),
   ("prefills", .ofNat report.prefills),
   ("generate_steps", .ofNat report.generateSteps),
   ("tokens_generated", .ofNat report.tokensGenerated),
   ("deferred", .ofNat report.deferred)] ++
  (elapsed.map fun time => ("elapsed_ms", .ofNat time)).toList ++
  [("interrupted", .bool report.interrupted)]

end SlotServe
