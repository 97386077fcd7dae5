import SlotServe.Proofs.Toml.Assembly
import SlotServe.Settings.Document

/-! Settings written as a document and read back. Every field of every table returns, a real number as the very
same one; what has no written form is a whole number beyond the words of a document. -/
namespace SlotServe

open Toml (Section IsPrintable IsBareKey AreKeys field values natBelow size? number32? bool? string? float32?)

section Reading

variable {members : List (String × Toml)} {name : String} {number limit : Nat}

theorem natBelow_integer (below : number < limit) : natBelow limit (.integer number) = some number := by
  simp [natBelow, below]

theorem field_size (found : members.lookup name = some (.integer number)) (below : number < Size.limit)
    (default : Nat) : field members name default size? = some number := by
  rw [field, found]
  exact natBelow_integer below

theorem field_number32 (found : members.lookup name = some (.integer number)) (below : number < 0x100000000)
    (default : Nat) : field members name default number32? = some number := by
  rw [field, found]
  exact natBelow_integer below

theorem field_real {value : Float32} (found : members.lookup name = some (.real (.written value)))
    (number : value.isNaN = false) (default : Float32) : field members name default float32? = some value := by
  rw [field, found]
  exact congrArg some (Real.toFloat32_written number)

theorem field_eq {α : Type} {value : Toml} (found : members.lookup name = some value) (default : α)
    (read : Toml → Option α) : field members name default read = read value := by
  rw [field, found]

end Reading

namespace VocabularySource

theorem areKeys (source : VocabularySource) : AreKeys (source.entries.map (·.1)) := by
  change AreKeys (({} : VocabularySource).entries.map (·.1))
  decide

theorem ofToml?_entries (source : VocabularySource) (words : source.extraIds < 0x100000000) :
    ofToml? (.table (values source.entries)) = some source := by
  have path : (values source.entries).lookup "path" = some (.string source.path) := rfl
  have extra : (values source.entries).lookup "extra_ids" = some (.integer source.extraIds) := rfl
  unfold ofToml? Toml.fields?
  dsimp only
  rw [Option.bind_eq_bind, Option.bind_some, field_eq path, field_number32 extra words]
  rfl

end VocabularySource

namespace EngineSettings

def integers (settings : EngineSettings) : List Nat :=
  [settings.maxConcurrentDecodes, settings.samplesPerSlot, settings.maxPrefillLength, settings.prefillChunkSize,
    settings.vocabSize, settings.blockSize, settings.numBlocks, settings.seed.toNat, settings.topK,
    settings.tokenizer.extraIds]

theorem areKeys (settings : EngineSettings) : AreKeys (settings.entries.map (·.1)) := by
  change AreKeys (({} : EngineSettings).entries.map (·.1))
  decide

theorem ofToml?_entries (settings : EngineSettings) (fits : ∀ number ∈ settings.integers, number < Size.limit)
    (words : settings.topK < 0x100000000 ∧ settings.tokenizer.extraIds < 0x100000000)
    (numbers : settings.temperature.isNaN = false ∧ settings.topP.isNaN = false) :
    ofToml? (.table (values settings.entries ++ [("tokenizer", .table (values settings.tokenizer.entries))])) =
      some settings := by
  simp only [integers, List.forall_mem_cons] at fits
  obtain ⟨decodes, samples, prefill, chunk, vocabulary, block, blocks, seed, -⟩ := fits
  generalize listed : values settings.entries ++ [("tokenizer", .table (values settings.tokenizer.entries))] = members
  have lookup {name : String} {entry : Toml.Entry} (found : settings.entries.lookup name = some entry) :
      members.lookup name = some entry.toml := by
    rw [← listed, List.lookup_append, Toml.lookup_values found]
    rfl
  have tokenizer : members.lookup "tokenizer" = some (.table (values settings.tokenizer.entries)) := by
    rw [← listed]
    rfl
  unfold ofToml? Toml.fields?
  dsimp only
  rw [Option.bind_eq_bind, Option.bind_some,
    field_size (@lookup "max_concurrent_decodes" _ rfl) decodes,
    field_size (@lookup "samples_per_slot" _ rfl) samples,
    field_size (@lookup "max_prefill_length" _ rfl) prefill,
    field_eq (@lookup "use_chunked_prefill" _ rfl),
    field_size (@lookup "prefill_chunk_size" _ rfl) chunk,
    field_size (@lookup "vocab_size" _ rfl) vocabulary,
    field_size (@lookup "block_size" _ rfl) block,
    field_size (@lookup "num_blocks" _ rfl) blocks,
    field_size (@lookup "seed" _ rfl) seed,
    field_real (@lookup "temperature" _ rfl) numbers.1,
    field_number32 (@lookup "top_k" _ rfl) words.1,
    field_real (@lookup "top_p" _ rfl) numbers.2,
    field_eq tokenizer, settings.tokenizer.ofToml?_entries words.2]
  simp only [Option.bind_eq_bind, Option.bind_some, Option.pure_def, Toml.Entry.toml, bool?, UInt64.ofNat_toNat]

end EngineSettings

namespace WorkloadSettings

def integers (settings : WorkloadSettings) : List Nat :=
  [settings.numRequests, settings.maxNewTokens, settings.promptLength, settings.padId]

theorem areKeys (settings : WorkloadSettings) : AreKeys (settings.entries.map (·.1)) := by
  change AreKeys (({} : WorkloadSettings).entries.map (·.1))
  decide

theorem ofToml?_entries (settings : WorkloadSettings) (fits : ∀ number ∈ settings.integers, number < Size.limit)
    (words : settings.padId < 0x100000000) : ofToml? (.table (values settings.entries)) = some settings := by
  simp only [integers, List.forall_mem_cons] at fits
  obtain ⟨requests, tokens, prompt, -⟩ := fits
  have lookup {name : String} {entry : Toml.Entry} (found : settings.entries.lookup name = some entry) :
      (values settings.entries).lookup name = some entry.toml := Toml.lookup_values found
  unfold ofToml? Toml.fields?
  dsimp only
  rw [Option.bind_eq_bind, Option.bind_some,
    field_size (@lookup "num_requests" _ rfl) requests,
    field_size (@lookup "max_new_tokens" _ rfl) tokens,
    field_size (@lookup "prompt_len" _ rfl) prompt,
    field_eq (@lookup "warmup" _ rfl),
    field_number32 (@lookup "pad_id" _ rfl) words]
  rfl

end WorkloadSettings

namespace RunSettings

def integers (settings : RunSettings) : List Nat := settings.engine.integers ++ settings.workload.integers

def members (settings : RunSettings) : List (String × Toml) :=
  [("engine", .table (values settings.engine.entries ++
      [("tokenizer", .table (values settings.engine.tokenizer.entries))])),
    ("driver", .table (values settings.workload.entries))]

theorem ofToml?_members (settings : RunSettings) (fits : ∀ number ∈ settings.integers, number < Size.limit)
    (words : settings.engine.topK < 0x100000000 ∧ settings.engine.tokenizer.extraIds < 0x100000000 ∧
      settings.workload.padId < 0x100000000)
    (numbers : settings.engine.temperature.isNaN = false ∧ settings.engine.topP.isNaN = false) :
    ofToml? (.table settings.members) = some settings := by
  rw [integers, List.forall_mem_append] at fits
  have engine : settings.members.lookup "engine" = some (.table (values settings.engine.entries ++
      [("tokenizer", .table (values settings.engine.tokenizer.entries))])) := rfl
  have workload : settings.members.lookup "driver" = some (.table (values settings.workload.entries)) := rfl
  unfold ofToml? Toml.fields?
  dsimp only
  rw [Option.bind_eq_bind, Option.bind_some, field_eq engine, field_eq workload,
    settings.engine.ofToml?_entries fits.1 ⟨words.1, words.2.1⟩ numbers,
    settings.workload.ofToml?_entries fits.2 words.2.2]
  rfl

def draft (settings : RunSettings) : Toml.Draft where
  members := [("engine", .table .header (settings.engine.entries.map Toml.member ++
      [("tokenizer", .table .header (settings.engine.tokenizer.entries.map Toml.member))])),
    ("driver", .table .header (settings.workload.entries.map Toml.member))]
  current := ["driver"]

theorem finished_draft (settings : RunSettings) : Toml.finished settings.draft.members = settings.members := by
  simp only [draft, members, Toml.finished, Toml.finishedMember, Toml.Node.toToml, Toml.finished_append,
    Toml.finished_members]

/-- The three sections are assembled one after the other, the second one inside the first. -/
theorem assembled (settings : RunSettings) :
    (settings.sections.flatMap Section.statements).foldlM Toml.Draft.add .empty = some settings.draft := by
  have inside : "tokenizer" ∉ (settings.engine.entries.map Toml.member).map (·.1) := by
    change "tokenizer" ∉ ({} : EngineSettings).entries.map (·.1)
    decide
  have engine := Toml.root_section (by simp : "engine" ∉ ([] : Toml.Members).map (·.1))
    settings.engine.areKeys.2 []
  have source := Toml.nested_section (by simp : "engine" ∉ ([] : Toml.Members).map (·.1)) inside
    settings.engine.tokenizer.areKeys.2 .header ["engine"]
  have workload (node : Toml.Node) := Toml.root_section
    (by simp : "driver" ∉ ([("engine", node)] : Toml.Members).map (·.1))
    settings.workload.areKeys.2 ["engine", "tokenizer"]
  have listed : settings.sections.flatMap Section.statements =
      Section.statements ⟨["engine"], settings.engine.entries⟩ ++
        (Section.statements ⟨["engine", "tokenizer"], settings.engine.tokenizer.entries⟩ ++
          Section.statements ⟨["driver"], settings.workload.entries⟩) := by
    simp [sections, EngineSettings.sections]
  rw [listed, List.foldlM_append, Toml.Draft.empty, engine, Option.bind_eq_bind, Option.bind_some,
    List.foldlM_append, source, Option.bind_eq_bind, Option.bind_some]
  exact workload _

theorem parse?_text (settings : RunSettings) {text : String} (writes : Toml.write? settings.sections = some text)
    (readable : ∀ part ∈ settings.sections, part.IsReadable) : Toml.parse? text = some settings.members := by
  rw [Toml.parse?, Toml.statements_of_write readable writes, Option.bind_eq_bind, Option.bind_some, assembled,
    Option.bind_eq_bind, Option.bind_some, finished_draft]
  rfl

/-- The sections can be written if no whole number is beyond the words of a document. -/
theorem isSome_write? (settings : RunSettings) :
    (Toml.write? settings.sections).isSome = true ↔ ∀ number ∈ settings.integers, number < 2 ^ 63 := by
  have string (value : String) : (Toml.Entry.string value).text?.isSome = true := rfl
  have real (value : Float32) : (Toml.Entry.real value).text?.isSome = true := rfl
  have bool (value : Bool) : (Toml.Entry.bool value).text?.isSome = true := rfl
  rw [Toml.isSome_write?]
  simp only [sections, EngineSettings.sections, EngineSettings.entries, VocabularySource.entries,
    WorkloadSettings.entries, integers, EngineSettings.integers, WorkloadSettings.integers, List.cons_append,
    List.nil_append, List.all_cons, List.all_nil, Toml.Entry.isSome_integer, string, real, bool, Bool.and_true,
    Bool.true_and, Bool.and_eq_true, decide_eq_true_eq, List.forall_mem_cons, and_assoc, List.not_mem_nil,
    false_imp_iff, implies_true, and_true]

theorem text_of_large {settings : RunSettings} (large : ∃ number ∈ settings.integers, 2 ^ 63 ≤ number) :
    settings.text = .error .unwritable := by
  have unwritten : Toml.write? settings.sections = none := by
    rw [← Option.not_isSome_iff_eq_none, isSome_write?]
    obtain ⟨number, member, large⟩ := large
    exact fun fits => absurd (fits number member) (Nat.not_lt.mpr large)
  rw [text, documentOf, unwritten]

/-- Of all texts only the path has quotes to count. -/
theorem isCountable_sections (settings : RunSettings) :
    settings.sections.all Section.isCountable = Toml.isCountable settings.engine.tokenizer.path.toList := by
  simp [sections, EngineSettings.sections, EngineSettings.entries, VocabularySource.entries, WorkloadSettings.entries,
    Section.isCountable, Toml.Entry.isCountable]

theorem isCountable_eq {text : List Char} (printable : IsPrintable text) :
    Toml.isCountable text = true ↔ ¬ List.replicate 256 '\x22' <:+: text := by
  have singles : Toml.longestRun '\x27' 0 text = 0 :=
    (Toml.longestRun_eq_zero_iff text).mpr fun member => (printable _ member).2 rfl
  have doubles := @Toml.le_longestRun_iff '\x22' 256 0 text
  rw [List.replicate_zero, List.nil_append] at doubles
  rw [← doubles, Toml.isCountable, singles]
  simp

/-- The share of the ranked tokens is compared with its bounds, so that it is a number where it is accepted. -/
theorem isNaN_topP {settings : RunSettings} (valid : settings.validate = .ok ()) :
    settings.engine.topP.isNaN = false := by
  unfold validate brokenRule EngineSettings.brokenRule at valid
  split at valid
  next => cases valid
  next sound =>
    split at sound
    next => cases sound
    next engine =>
      split at engine
      next => cases engine
      next =>
        split_ifs at engine with chunk temperature share
        rw [Bool.not_eq_true, Bool.not_eq_false', Bool.and_eq_true, decide_eq_true_eq, decide_eq_true_eq] at share
        exact (Binary32.le_iff.mp share.1).2.1

/-- What a document can hold: whole numbers that have a word in it, and the texts and numbers that read back. -/
structure IsStorable (settings : RunSettings) : Prop where
  valid : settings.validate = .ok ()
  fits : ∀ number ∈ settings.integers, number < 2 ^ 63
  -- three of the fields are words of 32 bits
  topK : settings.engine.topK < 2 ^ 32
  extraIds : settings.engine.tokenizer.extraIds < 2 ^ 32
  padId : settings.workload.padId < 2 ^ 32
  number : settings.engine.temperature.isNaN = false
  printable : IsPrintable settings.engine.tokenizer.path.toList

namespace IsStorable

variable {settings : RunSettings}

theorem readable (storable : settings.IsStorable) : ∀ part ∈ settings.sections, part.IsReadable := by
  have share := isNaN_topP storable.valid
  simp only [sections, EngineSettings.sections, List.cons_append, List.nil_append, List.forall_mem_cons]
  refine ⟨?engine, ?source, ?workload, nofun⟩
  case engine =>
    refine ⟨(by decide : ["engine"] ≠ []), (by decide : 1 < Toml.depthLimit),
      (by decide : ∀ name ∈ ["engine"], IsBareKey name), settings.engine.areKeys.1, ?_⟩
    simp only [EngineSettings.entries, List.forall_mem_cons, Toml.Entry.IsReadable, storable.number, share,
      List.not_mem_nil, false_imp_iff, implies_true, and_true]
  case source =>
    refine ⟨(by decide : ["engine", "tokenizer"] ≠ []), (by decide : 2 < Toml.depthLimit),
      (by decide : ∀ name ∈ ["engine", "tokenizer"], IsBareKey name), settings.engine.tokenizer.areKeys.1, ?_⟩
    simp [VocabularySource.entries, Toml.Entry.IsReadable, storable.printable]
  case workload =>
    refine ⟨(by decide : ["driver"] ≠ []), (by decide : 1 < Toml.depthLimit),
      (by decide : ∀ name ∈ ["driver"], IsBareKey name), settings.workload.areKeys.1, ?_⟩
    simp [WorkloadSettings.entries, Toml.Entry.IsReadable]

theorem write?_eq (storable : settings.IsStorable) :
    ∃ text, Toml.write? settings.sections = some text ∧ parse text = .ok settings := by
  obtain ⟨text, written⟩ := Option.isSome_iff_exists.mp ((isSome_write? settings).mpr storable.fits)
  refine ⟨text, written, ?_⟩
  have words (number : Nat) (member : number ∈ settings.integers) : number < Size.limit :=
    (storable.fits number member).trans (by decide)
  have read : ofToml? (.table settings.members) = some settings :=
    settings.ofToml?_members words ⟨storable.topK, storable.extraIds, storable.padId⟩
      ⟨storable.number, isNaN_topP storable.valid⟩
  rw [parse, parse?_text settings written storable.readable, Option.bind_some, read]
  dsimp only
  rw [storable.valid]
  rfl

/-- Settings that can be stored have a text, which reads as the settings, unless quotes in a row cannot be counted. -/
theorem text_eq (storable : settings.IsStorable)
    (short : ¬ List.replicate 256 '\x22' <:+: settings.engine.tokenizer.path.toList) :
    ∃ text, settings.text = .ok text ∧ parse text = .ok settings := by
  obtain ⟨text, written, read⟩ := storable.write?_eq
  refine ⟨text, ?_, read⟩
  rw [RunSettings.text, documentOf, written]
  exact if_pos ((isCountable_sections settings).trans ((isCountable_eq storable.printable).mpr short))

theorem text_overflow (storable : settings.IsStorable)
    (long : List.replicate 256 '\x22' <:+: settings.engine.tokenizer.path.toList) :
    settings.text = .error (.defect .overflow) := by
  obtain ⟨text, written, -⟩ := storable.write?_eq
  rw [RunSettings.text, documentOf, written]
  refine if_neg fun countable => ?_
  rw [isCountable_sections, isCountable_eq storable.printable] at countable
  exact countable long

end IsStorable

end RunSettings

end SlotServe
