import SlotServe.Proofs.Engine.Calls

/-! Within a slot all rows own blocks or none does. A decode step changes nothing about which rows own
blocks, however it ends; a free takes the blocks of all rows of its slot, and an insert gives blocks to
all of them or leaves none, or the slot as it was. -/
namespace SlotServe.EngineSettings

variable {settings : EngineSettings} {cache after : SlotBlocks} {slot : Nat} {start : Prefilled}
  {state : DecodeState} {requestId : Option RequestId}

theorem settle_active {row : Nat} {old : DecodeRow} (found : (settle cache state).row? slot row = some old)
    (active : old.active = true) : state.row? slot row = some old ∧ cache.isLive slot row = true := by
  rw [row?_settle] at found
  obtain ⟨before, present, settled⟩ := Option.map_eq_some_iff.mp found
  by_cases idle : (before.active && !cache.isLive slot row) = true
  · rw [if_pos idle] at settled
    subst settled
    cases active
  · rw [if_neg idle] at settled
    subst settled
    refine ⟨present, ?_⟩
    simpa [active] using idle

theorem live_stepping {entry : Nat × Nat × UInt32} (member : entry ∈ stepping (settle cache state)) :
    cache.isLive entry.1 entry.2.1 = true := by
  obtain ⟨old, found, active, -⟩ := mem_stepping.mp member
  exact (settle_active found active).2

theorem generate_sameLive (table : TransitionTable) (state : DecodeState) (sampler : Option Sampler)
    (cache : SlotBlocks) : cache.SameLive (left (settings.generate table state sampler cache)) :=
  left_generate settings (fun _ steps => SlotBlocks.sameLive_reserve (live_stepping steps) 1) fun _ _ => rfl

/-- The cache is sound, and no slot owns blocks for some of its rows only. -/
structure Level (settings : EngineSettings) (cache : SlotBlocks) : Prop where
  sound : settings.Sound cache
  even : ∀ slot row row', row < settings.samplesPerSlot → row' < settings.samplesPerSlot →
    cache.isLive slot row = cache.isLive slot row'

theorem freshCache_level : settings.Level settings.freshCache := by
  refine ⟨freshCache_sound, fun slot row row' _ _ => ?_⟩
  have idle (row : Nat) : settings.freshCache.isLive slot row = false := SlotBlocks.isLive_fresh ..
  rw [idle, idle]

theorem Level.changed (level : settings.Level cache) (sound : settings.Sound after)
    (sameBut : SlotBlocks.SameBut slot cache after)
    (same : (∀ row < settings.samplesPerSlot, after.isLive slot row = true) ∨
      ∀ row, after.isLive slot row = false) : settings.Level after := by
  refine ⟨sound, fun other row row' within within' => ?_⟩
  by_cases here : other = slot
  · subst other
    rcases same with all | none
    · rw [all row within, all row' within']
    · rw [none row, none row']
  · rw [sameBut.isLive here, sameBut.isLive here]
    exact level.even other row row' within within'

theorem level_insertRows (word : settings.blockSize < Size.limit) (fit : start.Fit) (state : DecodeState)
    (slot : Nat) (requestId : Option RequestId) :
    Keeps settings.Level (settings.insertRows start state slot requestId) := by
  intro cache level
  have sound := (sound_kept slot).insertRows settings start state requestId cache level.sound
  have sameBut := (sameBut_keptAt slot cache).insertRows settings start state requestId cache rfl
  cases ended : settings.insertRows start state slot requestId cache with
  | ok next after =>
    rw [ended] at sound sameBut
    exact level.changed sound sameBut (.inl (insertRows_success ended).2.2)
  | error fault after =>
    rw [ended] at sound sameBut
    rcases insertRows_failed ended with ⟨cause, defect⟩ | ⟨rfl, -⟩ | ⟨vacated, -⟩
    · exact absurd defect (insertRows_proper level.sound word fit.storable ended cause)
    · exact level
    · exact level.changed sound sameBut (.inr (SlotBlocks.isLive_modify_cleared vacated))

theorem level_insertEach (word : settings.blockSize < Size.limit) (fit : start.Fit) (state : DecodeState)
    (slots : List Nat) : Keeps settings.Level (settings.insertEach start state slots) := by
  induction slots generalizing state with
  | nil => exact keeps_pure state
  | cons slot rest ih => exact keeps_bind (level_insertRows word fit state slot none) fun next => ih next

theorem left_tryInsertRows (start : Prefilled) (state : DecodeState) (slot : Nat)
    (requestId : Option RequestId) (cache : SlotBlocks) :
    left (settings.tryInsertRows start state slot requestId cache) =
      left ((answer (checkSlot settings.maxConcurrentDecodes slot) >>= fun _ =>
        settings.insertRows start state slot requestId) cache) := by
  unfold tryInsertRows
  dsimp only
  split
  next ended =>
    rw [ended]
    rfl
  next ended =>
    rw [ended]
    rfl
  next ended =>
    rw [ended]
    rfl

theorem level_tryInsertRows (word : settings.blockSize < Size.limit) (fit : start.Fit) (state : DecodeState)
    (slot : Nat) (requestId : Option RequestId) :
    Keeps settings.Level (settings.tryInsertRows start state slot requestId) := by
  intro cache level
  rw [left_tryInsertRows]
  exact keeps_bind (keeps_answer _) (fun _ => level_insertRows word fit state slot requestId) cache level

theorem left_free (slot : Nat) (cache : SlotBlocks) :
    left (settings.free slot cache) =
      if slot < settings.maxConcurrentDecodes then left (SlotBlocks.freeSlot slot cache) else cache := by
  unfold free checkSlot
  split
  next =>
    simp only [bind, EStateM.bind, answer]
    cases SlotBlocks.freeSlot slot cache <;> rfl
  next => rfl

theorem free_ok (sound : settings.Sound cache) (inside : slot < settings.maxConcurrentDecodes) :
    ∃ after, settings.free slot cache = .ok () after := by
  obtain ⟨tables, present, -⟩ := sound.shaped.present inside
  have checked : answer (checkSlot settings.maxConcurrentDecodes slot) cache = .ok () cache := by
    rw [checkSlot, if_pos inside]
    rfl
  unfold free
  rw [bind_ok _ checked, bind_ok _ (sound.accounted.freeSlot_eq present)]
  exact ⟨_, rfl⟩

/-- Freeing empties the rows of its slot, whether or not there is such a slot. -/
theorem slots_free (sound : settings.Sound cache) (slot : Nat) :
    (left (settings.free slot cache)).slots = cache.slots.modify slot (·.map BlockTable.cleared) := by
  rw [left_free]
  split
  next => exact SlotBlocks.slots_freeSlot cache slot
  next outside => exact (modify_of_absent (sound.shaped.absent (Nat.not_lt.mp outside)) _).symm

theorem free_vacates (sound : settings.Sound cache) (slot : Nat) :
    (∀ row, (left (settings.free slot cache)).isLive slot row = false) ∧
      ∀ other row, other ≠ slot → (left (settings.free slot cache)).isLive other row = cache.isLive other row := by
  have emptied := slots_free sound slot
  exact ⟨SlotBlocks.isLive_modify_cleared emptied,
    fun other row different => (SlotBlocks.sameBut_of_cleared emptied).isLive different row⟩

theorem level_free (slot : Nat) : Keeps settings.Level (settings.free slot) := by
  refine keeps_bind (keeps_answer _) fun _ => keeps_bind (fun cache level => ?_) fun _ => keeps_pure _
  exact level.changed ((sound_kept slot).freeSlot cache level.sound) (SlotBlocks.sameBut_freeSlot cache slot cache rfl)
    (.inr (SlotBlocks.isLive_modify_cleared (SlotBlocks.slots_freeSlot cache slot)))

theorem level_generate (table : TransitionTable) (state : DecodeState) (sampler : Option Sampler) :
    Keeps settings.Level (settings.generate table state sampler) := by
  intro cache level
  have same : cache.SameLive (left (settings.generate table state sampler cache)) :=
    generate_sameLive table state sampler cache
  refine ⟨sound_kept.generate settings table state sampler cache level.sound, fun slot row row' within within' => ?_⟩
  rw [same, same]
  exact level.even slot row row' within within'

theorem level_call {V : Type} (build : VocabularySource → Except Fault V) (word : settings.blockSize < Size.limit)
    (call : EngineCall) (fit : ∀ start ∈ call.starts, start.Fit) (state : DecodeState) :
    Keeps settings.Level (call.perform (settings.executor build) state) := by
  cases call with
  | insert start slot requestId =>
    have fit := fit start (by simp [EngineCall.starts])
    exact keeps_consuming (keeps_bind (keeps_answer _) fun _ => level_insertRows word fit state slot requestId)
  | tryInsert start slot requestId =>
    have fit := fit start (by simp [EngineCall.starts])
    exact level_tryInsertRows word fit state slot requestId
  | insertAll start slots =>
    have fit := fit start (by simp [EngineCall.starts])
    exact keeps_consuming (keeps_bind (keeps_answer _) fun _ => level_insertEach word fit state slots)
  | generate table sampler => exact keeps_consuming (keeps_map (level_generate table state sampler) _)
  | free slot => exact keeps_beside (level_free slot) state

end SlotServe.EngineSettings
