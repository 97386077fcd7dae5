import SlotServe.FileTree
import SlotServe.Settings.Run
import SlotServe.Toml.Value
import SlotServe.Toml.Statement
import SlotServe.Toml.Writer
/-! Settings as documents. The written document holds every field of every table; the reader takes
any document and leaves at its default what is not there. -/
namespace SlotServe

open Toml (Entry Section field size? number32? bool? string? float32?)

/-- The document of several sections. A number that does not fit is found before the texts are
looked at. -/
def documentOf (sections : List Section) : Except SettingsFault String :=
  match Toml.write? sections with
  | none => .error .unwritable
  | some text =>
    if sections.all Section.isCountable then .ok text else .error (.defect .overflow)

namespace VocabularySource

def entries (source : VocabularySource) : List (String × Entry) :=
  [("path", .string source.path), ("extra_ids", .integer source.extraIds)]

def ofToml? (value : Toml) : Option VocabularySource := do
  let members ← value.fields? ["path", "extra_ids"]
  let start : VocabularySource := {}
  return { path := ← field members "path" start.path string?
           extraIds := ← field members "extra_ids" start.extraIds number32? }

end VocabularySource

namespace EngineSettings

def entries (settings : EngineSettings) : List (String × Entry) :=
  [("max_concurrent_decodes", .integer settings.maxConcurrentDecodes),
   ("samples_per_slot", .integer settings.samplesPerSlot),
   ("max_prefill_length", .integer settings.maxPrefillLength),
   ("use_chunked_prefill", .bool settings.useChunkedPrefill),
   ("prefill_chunk_size", .integer settings.prefillChunkSize),
   ("vocab_size", .integer settings.vocabSize),
   ("block_size", .integer settings.blockSize),
   ("num_blocks", .integer settings.numBlocks),
   ("seed", .integer settings.seed.toNat),
   ("temperature", .real settings.temperature),
   ("top_k", .integer settings.topK),
   ("top_p", .real settings.topP)]

def sections (settings : EngineSettings) (path : List String) : List Section :=
  [⟨path, settings.entries⟩, ⟨path ++ ["tokenizer"], settings.tokenizer.entries⟩]

def text (settings : EngineSettings) : Except SettingsFault String :=
  documentOf (settings.sections [])

def ofToml? (value : Toml) : Option EngineSettings := do
  let start : EngineSettings := {}
  let members ← value.fields? (start.entries.map (·.1) ++ ["tokenizer"])
  return {
    maxConcurrentDecodes := ← field members "max_concurrent_decodes" start.maxConcurrentDecodes size?
    samplesPerSlot := ← field members "samples_per_slot" start.samplesPerSlot size?
    maxPrefillLength := ← field members "max_prefill_length" start.maxPrefillLength size?
    useChunkedPrefill := ← field members "use_chunked_prefill" start.useChunkedPrefill bool?
    prefillChunkSize := ← field members "prefill_chunk_size" start.prefillChunkSize size?
    vocabSize := ← field members "vocab_size" start.vocabSize size?
    blockSize := ← field members "block_size" start.blockSize size?
    numBlocks := ← field members "num_blocks" start.numBlocks size?
    seed := UInt64.ofNat (← field members "seed" start.seed.toNat size?)
    temperature := ← field members "temperature" start.temperature float32?
    topK := ← field members "top_k" start.topK number32?
    topP := ← field members "top_p" start.topP float32?
    tokenizer := ← field members "tokenizer" start.tokenizer VocabularySource.ofToml? }

def parse (text : String) : Except SettingsFault EngineSettings :=
  match (Toml.parse? text).bind fun members => ofToml? (.table members) with
  | none => .error .unparsable
  | some settings => do
    settings.validate
    return settings

end EngineSettings

namespace WorkloadSettings

def entries (settings : WorkloadSettings) : List (String × Entry) :=
  [("num_requests", .integer settings.numRequests),
   ("max_new_tokens", .integer settings.maxNewTokens),
   ("prompt_len", .integer settings.promptLength),
   ("warmup", .bool settings.warmUp),
   ("pad_id", .integer settings.padId)]

def ofToml? (value : Toml) : Option WorkloadSettings := do
  let start : WorkloadSettings := {}
  let members ← value.fields? (start.entries.map (·.1))
  return {
    numRequests := ← field members "num_requests" start.numRequests size?
    maxNewTokens := ← field members "max_new_tokens" start.maxNewTokens size?
    promptLength := ← field members "prompt_len" start.promptLength size?
    warmUp := ← field members "warmup" start.warmUp bool?
    padId := ← field members "pad_id" start.padId number32? }

end WorkloadSettings

namespace RunSettings

def sections (settings : RunSettings) : List Section :=
  settings.engine.sections ["engine"] ++ [⟨["driver"], settings.workload.entries⟩]

def text (settings : RunSettings) : Except SettingsFault String := documentOf settings.sections

def ofToml? (value : Toml) : Option RunSettings := do
  let start : RunSettings := {}
  let members ← value.fields? ["engine", "driver"]
  return { engine := ← field members "engine" start.engine EngineSettings.ofToml?
           workload := ← field members "driver" start.workload WorkloadSettings.ofToml? }

def parse (text : String) : Except SettingsFault RunSettings :=
  match (Toml.parse? text).bind fun members => ofToml? (.table members) with
  | none => .error .unparsable
  | some settings => do
    settings.validate
    return settings

end RunSettings

section

variable {m : Type → Type} [Monad m]

def loadSettings {α : Type} (parse : String → Except SettingsFault α) (files : FileAccess m)
    (path : String) : m (Except SettingsFault α) := do
  match ← files.readText path with
  | some text => return parse text
  | none => return .error .inaccessible

def EngineSettings.load (files : FileAccess m) (path : String) :
    m (Except SettingsFault EngineSettings) :=
  loadSettings EngineSettings.parse files path

namespace RunSettings

def load (files : FileAccess m) (path : String) : m (Except SettingsFault RunSettings) :=
  loadSettings RunSettings.parse files path

/-- Write the settings to a file. The directories on the way are made; the file itself is touched
only when all of the settings can be written. -/
def save (settings : RunSettings) (files : FileAccess m) (path : String) :
    m (Except SettingsFault Unit) := do
  if ← files.makeParents path then
    match settings.text with
    | .error fault => return .error fault
    | .ok text =>
      if ← files.writeText path text then return .ok () else return .error .inaccessible
  else return .error .inaccessible

end RunSettings

end

end SlotServe
