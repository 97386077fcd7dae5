import SlotServe.Fault
import SlotServe.Sampling.Candidates
/-! The settings of an executor, and what can be wrong with settings or with the file that holds them. -/
namespace SlotServe

inductive SettingsRule
  | zero (name : String)
  | chunkSize
  | temperature
  | topP
  | maxNewTokens
  | promptLength
  | promptTooLong (length limit : Nat)
  deriving DecidableEq

def SettingsRule.message : SettingsRule → String
  | .zero name => s!"{name} must be > 0"
  | .chunkSize => "prefill_chunk_size must be > 0 when chunked prefill is enabled"
  | .temperature => "temperature must be >= 0"
  | .topP => "top_p must be in [0, 1]"
  | .maxNewTokens => "max_new_tokens must be at least 1"
  | .promptLength => "prompt_len must be at least 1"
  | .promptTooLong length limit =>
    s!"prompt_len {length} exceeds max_prefill_length {limit} without usable chunked prefill"

inductive SettingsFault
  | inaccessible
  | unparsable
  | unwritable
  | invalid (rule : SettingsRule)
  | defect (cause : Defect)
  deriving DecidableEq

def SettingsFault.message : SettingsFault → String
  | .inaccessible => "IO error"
  | .unparsable => "Parse error"
  | .unwritable => "Serialize error"
  | .invalid rule => s!"invalid config: {rule.message}"
  | .defect cause => cause.message

structure VocabularySource where
  path : String := ""
  extraIds : Nat := 0
  deriving DecidableEq

def VocabularySource.isConfigured (source : VocabularySource) : Bool := source.path ≠ ""

structure EngineSettings where
  /-- Slots in the decode state. -/
  maxConcurrentDecodes : Nat := 8
  /-- Rows owned by each slot. -/
  samplesPerSlot : Nat := 1
  maxPrefillLength : Nat := 1024
  useChunkedPrefill : Bool := false
  prefillChunkSize : Nat := 256
  vocabSize : Nat := 256
  /-- Tokens per cache block. -/
  blockSize : Nat := 16
  numBlocks : Nat := 1024
  seed : UInt64 := 0
  temperature : Float32 := 1
  topK : Nat := 0
  topP : Float32 := 1
  tokenizer : VocabularySource := {}
  deriving BEq

namespace EngineSettings

def sizes (settings : EngineSettings) : List (String × Nat) :=
  [("max_concurrent_decodes", settings.maxConcurrentDecodes),
   ("samples_per_slot", settings.samplesPerSlot),
   ("max_prefill_length", settings.maxPrefillLength),
   ("vocab_size", settings.vocabSize),
   ("block_size", settings.blockSize)]

/-- The first rule that the settings break. A temperature that is no number breaks none. -/
def brokenRule (settings : EngineSettings) : Option SettingsRule :=
  match settings.sizes.find? (·.2 = 0) with
  | some size => some (.zero size.1)
  | none =>
    if settings.useChunkedPrefill && settings.prefillChunkSize = 0 then some .chunkSize
    else if settings.temperature < 0 then some .temperature
    else if !(0 ≤ settings.topP && settings.topP ≤ 1) then some .topP
    else none

def validate (settings : EngineSettings) : Except SettingsFault Unit :=
  match settings.brokenRule with
  | some rule => .error (.invalid rule)
  | none => .ok ()

def sampling (settings : EngineSettings) (seed : Option UInt64) : Sampling.Parameters :=
  { temperature := settings.temperature, topP := settings.topP, topK := settings.topK, seed }

end EngineSettings

end SlotServe
