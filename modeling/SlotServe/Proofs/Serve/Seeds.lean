import SlotServe.Proofs.Engine.Recorded
import SlotServe.Proofs.Serve.Release

/-! The seeds that first tokens are drawn from. A run with several samples for each slot prefills by
drawing only. Every try of a request, also one that only puts it off, takes the next seed, so the seed of a
request is the first one plus its place in the queue and the number of times that a request was put off
before. -/
namespace SlotServe

variable {σ ε α M P S V : Type}

namespace Scheduler

variable (scheduler : Scheduler σ M P S V)

abbrev recorded : Scheduler (Recorded σ P) M P S V := scheduler.withExecutor scheduler.executor.recorded

def drawing? (request : Request) (number : Nat) : Option (PrefillCall P) :=
  match padPrompt request.prompt scheduler.padId scheduler.buckets with
  | .error _ => none
  | .ok (tokens, trueLength) =>
    some (.drawing { padded := .ofTokens tokens, trueLength, requestId := some request.id }
      (some (scheduler.seed + UInt64.ofNat number)) scheduler.executor.limits.samplesPerSlot)

def drawings (request : Request) (number tries : Nat) : List (PrefillCall P) :=
  (List.range' number tries).filterMap (scheduler.drawing? request)

/-- The draws for a queue from the try with a number on: requests are put off as often as `refusals` says
before they are decided, and the first one without such a number has been put off `pending` times. -/
def queueDrawings : Nat → List Request → List Nat → Nat → List (PrefillCall P)
  | _, [], _, _ => []
  | number, request :: _, [], pending => scheduler.drawings request number pending
  | number, request :: waiting, count :: refusals, pending =>
    scheduler.drawings request number (count + 1) ++
      queueDrawings (number + (count + 1)) waiting refusals pending

variable {scheduler} {requests waiting : List Request} {request : Request} {refusals : List Nat}

theorem queueDrawings_tried (found : requests[refusals.length]? = some request) (number pending : Nat) :
    scheduler.queueDrawings number requests refusals (pending + 1) =
      scheduler.queueDrawings number requests refusals pending ++
        (scheduler.drawing? request (number + (refusals.length + Size.total refusals + pending))).toList := by
  induction refusals generalizing number requests with
  | nil =>
    cases requests with
    | nil => cases found
    | cons first rest =>
      obtain rfl : first = request := Option.some.inj found
      have last : List.range' number (pending + 1) = List.range' number pending ++ [number + 1 * pending] :=
        List.range'_concat
      simp only [queueDrawings, drawings, last, List.filterMap_append, List.length_nil, Size.total_nil, Nat.zero_add,
        Nat.one_mul]
      cases drawn : scheduler.drawing? first (number + pending) <;> simp [drawn]
  | cons count refusals ih =>
    cases requests with
    | nil => cases found
    | cons first rest =>
      have found : rest[refusals.length]? = some request := found
      have later := ih found (number + (count + 1))
      have place : number + ((count :: refusals).length + Size.total (count :: refusals) + pending) =
          number + (count + 1) + (refusals.length + Size.total refusals + pending) := by
        simp only [List.length_cons, Size.total_cons]
        omega
      rw [place, queueDrawings, queueDrawings, later, List.append_assoc]

theorem queueDrawings_settled (number pending : Nat) (inside : refusals.length < requests.length) :
    scheduler.queueDrawings number requests (refusals ++ [pending]) 0 =
      scheduler.queueDrawings number requests refusals (pending + 1) := by
  induction refusals generalizing number requests with
  | nil =>
    cases requests with
    | nil => cases inside
    | cons first rest => cases rest <;> simp [queueDrawings, drawings]
  | cons count refusals ih =>
    cases requests with
    | nil => cases inside
    | cons first rest =>
      simp only [List.cons_append, queueDrawings, ih _ (Nat.lt_of_succ_lt_succ inside)]

/-- The draws for the request at an index start with the try that has this index and the refusals before as
its number. -/
theorem queueDrawings_eq (number pending : Nat) :
    scheduler.queueDrawings number requests refusals pending =
      (requests.zip (refusals.map (· + 1) ++ [pending])).zipIdx.flatMap fun entry =>
        scheduler.drawings entry.1.1 (number + entry.2 + Size.total (refusals.take entry.2)) entry.1.2 := by
  induction requests generalizing number refusals with
  | nil => rfl
  | cons request rest ih =>
    cases refusals with
    | nil => simp [queueDrawings, Size.total_nil]
    | cons count refusals =>
      simp only [queueDrawings, List.map_cons, List.cons_append, List.zip_cons_cons, List.zipIdx_cons,
        List.flatMap_cons, List.take_zero, Size.total_nil, Nat.add_zero, Nat.zero_add]
      rw [ih, List.zipIdx_succ, List.flatMap_map]
      congr 2
      funext entry
      simp only [List.take_succ_cons, Size.total_cons]
      congr 1
      omega

end Scheduler

namespace Board

structure Shows (calls : List (PrefillCall P)) (deferred : Nat) (board : Board (Recorded σ P)) : Prop where
  calls : board.engine.calls = calls
  deferred : board.report.deferred = deferred

variable {calls : List (PrefillCall P)} {deferred : Nat}

theorem onEngine_shows {act : EStateM Fault (Recorded σ P) α}
    (quiet : ∀ recorded, (left (act recorded)).calls = recorded.calls) :
    Keeps (Shows calls deferred) (onEngine act) := by
  intro board shows
  rw [onEngine, left_zoom]
  exact ⟨(quiet board.engine).trans shows.calls, shows.deferred⟩

theorem note_shows {change : Report → Report} (same : ∀ report, (change report).deferred = report.deferred) :
    Keeps (Shows calls deferred) (note change : EStateM Fault (Board (Recorded σ P)) Unit) :=
  fun board shows => ⟨shows.calls, (same board.report).trans shows.deferred⟩

theorem setSlot_shows (slot : Nat) (occupant : Option Occupant) :
    Keeps (Shows calls deferred) (setSlot slot occupant : EStateM Fault (Board (Recorded σ P)) Unit) :=
  fun _ shows => ⟨shows.calls, shows.deferred⟩

end Board

namespace Scheduler

variable {scheduler : Scheduler σ M P S V} {calls : List (PrefillCall P)} {deferred : Nat}

theorem retire_shows (done : List (Nat × Occupant)) :
    Keeps (Board.Shows calls deferred) (scheduler.recorded.retire done) := by
  induction done with
  | nil => exact keeps_pure ()
  | cons first rest ih =>
    exact keeps_bind (Board.setSlot_shows _ _) fun _ =>
      keeps_bind (Board.onEngine_shows (Recorded.onInner_calls _)) fun _ =>
        keeps_bind (Board.note_shows fun _ => rfl) fun _ => ih

theorem retireAll_shows : Keeps (Board.Shows calls deferred) scheduler.recorded.retireAll :=
  keeps_get fun board shows => retire_shows board.finished board shows

theorem seat_shows (request : Request) (slot : Nat) (first : ResultBuffer) :
    Keeps (Board.Shows calls deferred) (scheduler.recorded.seat request slot first) :=
  keeps_bind (keeps_answer _) fun _ =>
    keeps_bind (Board.note_shows fun _ => rfl) fun _ =>
      keeps_bind (Board.setSlot_shows _ _) fun _ => retireAll_shows

theorem step_shows (state : S) : Keeps (Board.Shows calls deferred) (scheduler.recorded.step state) := by
  refine keeps_bind (Board.onEngine_shows (Recorded.onInner_calls _)) fun stepped => ?_
  refine keeps_bind (keeps_answer _) fun buffer => keeps_bind (Board.note_shows fun _ => rfl) fun _ => ?_
  refine keeps_get fun board shows => ?_
  have stored (slots : List (Option Occupant)) :
      Keeps (Board.Shows calls deferred) (set { board with slots } : EStateM Fault (Board (Recorded σ P)) PUnit) :=
    fun (_ : Board (Recorded σ P)) _ => ⟨shows.calls, shows.deferred⟩
  refine keeps_bind (keeps_answer _) (fun slots => keeps_bind (stored slots) fun _ => ?_) board shows
  exact keeps_bind (Board.note_shows fun _ => rfl) fun _ => keeps_bind retireAll_shows fun _ => keeps_pure _

/-- With several samples for each slot, the prefill of a request makes the draw of its try. -/
theorem prefill_calls (many : 1 < scheduler.executor.limits.samplesPerSlot) (request : Request) (tried : Nat)
    (recorded : Recorded σ P) :
    (left (scheduler.recorded.prefillAfter tried request recorded)).calls =
      recorded.calls ++ (scheduler.drawing? request tried).toList := by
  have drawn : scheduler.recorded.prefillAfter tried request =
      answer (padPrompt request.prompt scheduler.padId scheduler.buckets) >>= fun padded =>
        scheduler.recorded.executor.prefillMany scheduler.model
          { padded := .ofTokens padded.1, trueLength := padded.2, requestId := some request.id }
          (some (scheduler.seed + UInt64.ofNat tried)) scheduler.executor.limits.samplesPerSlot := by
    unfold prefillAfter prefill
    congr 1
    funext padded
    exact if_pos many
  rw [drawn, drawing?]
  cases padPrompt request.prompt scheduler.padId scheduler.buckets with
  | error fault => exact (List.append_nil _).symm
  | ok padded => exact Recorded.calling_calls _ _ recorded

def Tallied (scheduler : Scheduler σ M P S V) (requests waiting : List Request) (tried : Nat)
    (board : Board (Recorded σ P)) : Prop :=
  ∃ refusals : List Nat, ∃ pending : Nat,
    waiting = requests.drop refusals.length ∧ refusals.length ≤ requests.length ∧
      tried = refusals.length + Size.total refusals + pending ∧ (waiting = [] → pending = 0) ∧
      board.Shows (scheduler.queueDrawings 0 requests refusals pending) (Size.total refusals + pending)

def Accounted (scheduler : Scheduler σ M P S V) (requests : List Request) (board : Board (Recorded σ P)) : Prop :=
  ∃ waiting tried, scheduler.Tallied requests waiting tried board

def Tallies (scheduler : Scheduler σ M P S V) (requests : List Request) (queue : α → List Request × Nat) :
    EStateM.Result Fault (Board (Recorded σ P)) α → Prop
  | .ok value board => scheduler.Tallied requests (queue value).1 (queue value).2 board
  | .error _ board => scheduler.Accounted requests board

theorem tallies_bind {β : Type} {requests : List Request} {queue : α → List Request × Nat}
    {after : β → List Request × Nat} {act : EStateM Fault (Board (Recorded σ P)) α}
    {next : α → EStateM Fault (Board (Recorded σ P)) β} {board : Board (Recorded σ P)}
    (first : scheduler.Tallies requests queue (act board))
    (rest : ∀ value board, scheduler.Tallied requests (queue value).1 (queue value).2 board →
      scheduler.Tallies requests after (next value board)) :
    scheduler.Tallies requests after ((act >>= next) board) := by
  cases ended : act board with
  | ok value middle =>
    rw [bind_ok next ended]
    rw [ended] at first
    exact rest value middle first
  | error fault middle =>
    rw [bind_error next ended]
    rwa [ended] at first

theorem accounted_bind {β : Type} {requests : List Request} {queue : α → List Request × Nat}
    {act : EStateM Fault (Board (Recorded σ P)) α} {next : α → EStateM Fault (Board (Recorded σ P)) β}
    {board : Board (Recorded σ P)} (first : scheduler.Tallies requests queue (act board))
    (rest : ∀ value board, scheduler.Tallied requests (queue value).1 (queue value).2 board →
      scheduler.Accounted requests (left (next value board))) :
    scheduler.Accounted requests (left ((act >>= next) board)) := by
  cases ended : act board with
  | ok value middle =>
    rw [bind_ok next ended]
    rw [ended] at first
    exact rest value middle first
  | error fault middle =>
    rw [bind_error next ended]
    rwa [ended] at first

theorem Tallied.shown {requests waiting : List Request} {tried : Nat} {board later : Board (Recorded σ P)}
    (tallied : scheduler.Tallied requests waiting tried board)
    (same : later.Shows board.engine.calls board.report.deferred) :
    scheduler.Tallied requests waiting tried later := by
  obtain ⟨refusals, pending, queue, within, number, settled, shows⟩ := tallied
  exact ⟨refusals, pending, queue, within, number, settled, same.calls.trans shows.calls,
    same.deferred.trans shows.deferred⟩

/-- What makes no prefill call and puts no request off leaves the accounts as they are. -/
theorem tallies_keeps {requests waiting : List Request} {tried : Nat}
    {act : EStateM Fault (Board (Recorded σ P)) α} {board : Board (Recorded σ P)}
    (keeps : ∀ calls deferred, Keeps (Board.Shows calls deferred) act)
    (tallied : scheduler.Tallied requests waiting tried board) :
    scheduler.Tallies requests (fun _ => (waiting, tried)) (act board) := by
  have same := keeps board.engine.calls board.report.deferred board ⟨rfl, rfl⟩
  cases ended : act board with
  | ok value after =>
    rw [ended] at same
    exact tallied.shown same
  | error fault after =>
    rw [ended] at same
    exact ⟨waiting, tried, tallied.shown same⟩

/-- The call of a try is the last one for its request, unless the request is put off then. -/
theorem prefill_tallied (many : 1 < scheduler.executor.limits.samplesPerSlot) {requests waiting : List Request}
    {request : Request} {tried : Nat} {board : Board (Recorded σ P)}
    (tallied : scheduler.Tallied requests (request :: waiting) tried board) :
    ∃ outcome called, Board.onEngine (attempt (scheduler.recorded.prefillAfter tried request)) board =
        .ok outcome called ∧ scheduler.Tallied requests waiting (tried + 1) called ∧
      ∀ later : Board (Recorded σ P), later.Shows called.engine.calls (called.report.deferred + 1) →
        scheduler.Tallied requests (request :: waiting) (tried + 1) later := by
  obtain ⟨refusals, pending, queue, within, number, -, shows⟩ := tallied
  obtain ⟨outcome, attempted⟩ := attempt_ends (scheduler.recorded.prefillAfter tried request) board.engine
  have found : requests[refusals.length]? = some request := by
    rw [← List.head?_drop, ← queue]
    rfl
  have inside : refusals.length < requests.length := (List.getElem?_eq_some_iff.mp found).1
  have rest : waiting = requests.drop (refusals.length + 1) := by
    rw [← List.tail_drop, ← queue]
    rfl
  have calls : (left (scheduler.recorded.prefillAfter tried request board.engine)).calls =
      scheduler.queueDrawings 0 requests refusals (pending + 1) := by
    rw [prefill_calls many, shows.calls, queueDrawings_tried found, number, Nat.zero_add]
  refine ⟨outcome, { board with engine := left (scheduler.recorded.prefillAfter tried request board.engine) },
    Board.onEngine_ok attempted, ⟨refusals ++ [pending], 0, ?_, ?_, ?_, fun _ => rfl, ?_, ?_⟩,
    fun later put => ⟨refusals, pending + 1, queue, within, ?_, nofun, ?_, ?_⟩⟩
  · simpa using rest
  · rw [List.length_append, List.length_singleton]
    exact inside
  · simp only [List.length_append, List.length_singleton, Size.total_append, Size.total_cons, Size.total_nil]
    omega
  · rw [queueDrawings_settled _ _ inside]
    exact calls
  · simpa [Size.total_append, Size.total_cons, Size.total_nil] using shows.deferred
  · omega
  · exact put.calls.trans calls
  · have same := shows.deferred
    have more := put.deferred
    dsimp only at more
    omega

theorem fill_tallies (many : 1 < scheduler.executor.limits.samplesPerSlot) {requests waiting : List Request}
    {state : S} {tried : Nat} {board : Board (Recorded σ P)}
    (tallied : scheduler.Tallied requests waiting tried board) :
    scheduler.Tallies requests (fun filled => (filled.1, filled.2.2))
      (scheduler.recorded.fill waiting state tried board) := by
  induction waiting generalizing state tried board with
  | nil => exact tallied
  | cons request waiting ih =>
    unfold fill
    rw [get_bind]
    cases board.firstFree with
    | none => exact tallied
    | some slot =>
      obtain ⟨outcome, called, trying, decided, putOff⟩ := prefill_tallied many tallied
      have trying : Board.onEngine (attempt (scheduler.recorded.prefill request
          (scheduler.recorded.seed + UInt64.ofNat tried))) board = .ok outcome called := trying
      dsimp only
      rw [bind_ok _ trying]
      rcases outcome with fault | ⟨start, first⟩
      · exact tallies_bind (tallies_keeps (fun _ _ => Board.note_shows fun _ => rfl) decided) fun _ _ failed =>
          ih failed
      · have counting : Board.note (fun report => { report with prefills := report.prefills + 1 }) called =
          .ok () called.counted := rfl
        obtain ⟨inserted, attempted⟩ := attempt_ends
          (scheduler.recorded.executor.tryInsert start state slot (some request.id)) called.engine
        obtain ⟨after, entered, same⟩ : ∃ after, Board.onEngine (attempt
            (scheduler.recorded.executor.tryInsert start state slot (some request.id))) called.counted =
              .ok inserted after ∧ after.Shows called.engine.calls called.report.deferred :=
          ⟨_, Board.onEngine_ok attempted, Recorded.onInner_calls _ called.engine, rfl⟩
        dsimp only
        rw [bind_ok _ counting, bind_ok _ entered]
        have decided := decided.shown same
        rcases inserted with ⟨fault, _ | returned⟩ | next
        · exact ⟨waiting, tried + 1, decided⟩
        · dsimp only
          rw [get_bind]
          split
          · exact putOff _ ⟨same.calls, congrArg (· + 1) same.deferred⟩
          · exact tallies_bind (tallies_keeps (fun _ _ => Board.note_shows fun _ => rfl) decided) fun _ _ failed =>
              ih failed
        · exact tallies_bind (tallies_keeps (fun _ _ => seat_shows _ _ _) decided) fun _ _ seated => ih seated

/-- However the loop ends, its calls are accounted for. -/
theorem serveFrom_accounted (many : 1 < scheduler.executor.limits.samplesPerSlot) (stop : Nat → Bool) (steps : Nat)
    {requests waiting : List Request} {state : S} {tried : Nat} {board : Board (Recorded σ P)}
    (tallied : scheduler.Tallied requests waiting tried board) :
    scheduler.Accounted requests (left (scheduler.recorded.serveFrom stop steps waiting state tried board)) := by
  induction steps generalizing waiting state tried board with
  | zero =>
    unfold serveFrom
    rw [get_bind]
    split
    · exact ⟨waiting, tried, tallied.shown ⟨rfl, rfl⟩⟩
    · refine accounted_bind (fill_tallies many tallied) fun filled board tallied => ?_
      obtain ⟨rest, next, tries⟩ := filled
      dsimp only
      rw [get_bind]
      split <;> exact ⟨rest, tries, tallied⟩
  | succ steps ih =>
    unfold serveFrom
    rw [get_bind]
    split
    · exact ⟨waiting, tried, tallied.shown ⟨rfl, rfl⟩⟩
    · refine accounted_bind (fill_tallies many tallied) fun filled board tallied => ?_
      obtain ⟨rest, next, tries⟩ := filled
      dsimp only
      rw [get_bind]
      split
      · exact accounted_bind (tallies_keeps (fun _ _ => step_shows _) tallied) fun _ _ stepped => ih stepped
      · exact ⟨rest, tries, tallied⟩

theorem serve_accounted (many : 1 < scheduler.executor.limits.samplesPerSlot) (requests : List Request)
    (stop : Nat → Bool) (engine : σ) :
    scheduler.Accounted requests
      (left (scheduler.recorded.serve requests stop (scheduler.recorded.start ⟨[], engine⟩))) := by
  have none : scheduler.queueDrawings 0 requests [] 0 = [] := by cases requests <;> rfl
  have fresh : scheduler.Tallied requests requests 0 (scheduler.recorded.start ⟨[], engine⟩) :=
    ⟨[], 0, rfl, Nat.zero_le _, rfl, fun _ => rfl, none.symm, rfl⟩
  exact accounted_bind (tallies_keeps (fun _ _ => Board.onEngine_shows (Recorded.onInner_calls _)) fresh)
    fun _ _ tallied => serveFrom_accounted many stop _ tallied

theorem releaseSlots_calls (slots : List Nat) (board : Board (Recorded σ P)) :
    (scheduler.recorded.releaseSlots slots board).2.engine.calls = board.engine.calls := by
  induction slots generalizing board with
  | nil => rfl
  | cons slot rest ih =>
    have quiet := Recorded.onInner_calls (scheduler.executor.free slot) board.engine
    have freed : scheduler.recorded.executor.free slot board.engine =
        Recorded.onInner (scheduler.executor.free slot) board.engine := rfl
    unfold releaseSlots
    dsimp only
    rw [freed]
    cases ended : Recorded.onInner (scheduler.executor.free slot) board.engine with
    | ok _ engine =>
      rw [ended] at quiet
      exact (ih _).trans quiet
    | error fault engine =>
      rw [ended] at quiet
      exact (ih _).trans quiet

theorem conclude_calls (failure : Option Fault) (board : Board (Recorded σ P)) :
    (left (scheduler.recorded.conclude failure board)).calls = board.engine.calls := by
  unfold conclude
  dsimp only
  split <;> exact releaseSlots_calls _ board

end Scheduler

/-- With several samples for each slot, the prefill calls of a run are draws only, however the run ends, and
recording them changes nothing else. The request at an index is tried once more than it is put off, and each
of its tries draws from a seed of its own: from the run's seed plus the index plus the number of times that
requests before it, or the request itself, were put off so far. -/
theorem run_prefills_drawn {scheduler : Scheduler σ M P S V} (many : 1 < scheduler.executor.limits.samplesPerSlot)
    (requests : List Request) (stop : Nat → Bool) (engine : σ) :
    let recorded := scheduler.recorded.run requests stop ⟨[], engine⟩
    SameEnd Recorded.Watches (scheduler.run requests stop engine) recorded ∧
      ∃ refusals : List Nat, ∃ pending : Nat, refusals.length ≤ requests.length ∧
        (refusals.length = requests.length → pending = 0) ∧
        (left recorded).calls =
          (requests.zip (refusals.map (· + 1) ++ [pending])).zipIdx.flatMap (fun ((request, tries), index) =>
            scheduler.drawings request (index + Size.total (refusals.take index)) tries) ∧
        ∀ report after, recorded = .ok report after → report.deferred = Size.total refusals + pending := by
  intro recorded
  have same : SameEnd Recorded.Watches (scheduler.run requests stop engine) recorded :=
    Scheduler.run_mirrors (Scheduler.mirrored_withExecutor scheduler.executor.recorded_mirrored) requests stop _ _ rfl
  obtain ⟨waiting, tried, refusals, pending, queue, within, -, settled, shows⟩ :=
    Scheduler.serve_accounted many requests stop engine
  refine ⟨same, refusals, pending, within, fun all => settled ?_, ?_, fun report after ok => ?_⟩
  · rw [queue, all, List.drop_length]
  · have calls : (left recorded).calls =
        (left (scheduler.recorded.serve requests stop (scheduler.recorded.start ⟨[], engine⟩))).engine.calls := by
      rw [show recorded = _ from Scheduler.run_eq scheduler.recorded requests stop ⟨[], engine⟩]
      cases scheduler.recorded.serve requests stop (scheduler.recorded.start ⟨[], engine⟩) <;>
        exact Scheduler.conclude_calls _ _
    rw [calls, shows.calls, Scheduler.queueDrawings_eq]
    simp only [Nat.zero_add]
  · obtain ⟨board, served, rfl, -⟩ := Scheduler.run_links ok
    rw [served] at shows
    exact shows.deferred

def EngineSettings.doubled (blocks : Nat) : EngineSettings :=
  { maxConcurrentDecodes := 2, samplesPerSlot := 2, maxPrefillLength := 4, vocabSize := 1, blockSize := 4,
    numBlocks := blocks, temperature := 0 }

def doubledScheduler (blocks : Nat) : Scheduler (Front SlotBlocks) TransitionTable Prefilled DecodeState Unit :=
  { executor := ((EngineSettings.doubled blocks).executor fun _ => .ok ()).front
    model := ⟨⟨[1, 1], .ofReals [0]⟩⟩
    buckets := []
    padId := 0
    seed := 5 }

def doubledRequests : List Request := [⟨⟨1⟩, [0], 2⟩, ⟨⟨2⟩, [0], 1⟩]

theorem doubled_run_prefills_drawn :
    1 < (doubledScheduler 2).executor.limits.samplesPerSlot ∧
      let recorded := (doubledScheduler 2).recorded.run doubledRequests (fun _ => false)
        ⟨[], .cold (EngineSettings.doubled 2).freshCache⟩
      ∃ refusals : List Nat, ∃ pending : Nat, (left recorded).calls =
        (doubledRequests.zip (refusals.map (· + 1) ++ [pending])).zipIdx.flatMap (fun ((request, tries), index) =>
          (doubledScheduler 2).drawings request (index + Size.total (refusals.take index)) tries) := by
  have many : 1 < (doubledScheduler 2).executor.limits.samplesPerSlot := by decide
  obtain ⟨-, refusals, pending, -, -, calls, -⟩ := run_prefills_drawn many doubledRequests (fun _ => false)
    (.cold (EngineSettings.doubled 2).freshCache)
  exact ⟨many, refusals, pending, calls⟩

def doubledCalls (blocks : Nat) : List (Option RequestId × Option UInt64) :=
  let ended := (doubledScheduler blocks).recorded.run doubledRequests (fun _ => false)
    ⟨[], .cold (EngineSettings.doubled blocks).freshCache⟩
  (left ended).calls.map fun call => (call.request.requestId, call.seed?)

/-- With room for both requests the second one draws from the seed of its index. With room for one it is put
off until the first one is done, and then draws from the seed after that. -/
theorem deferral_moves_seed :
    doubledCalls 4 = [(some ⟨1⟩, some 5), (some ⟨2⟩, some (5 + 1))] ∧
      doubledCalls 2 = [(some ⟨1⟩, some 5), (some ⟨2⟩, some (5 + 1)), (some ⟨2⟩, some (5 + 2))] := by
  constructor <;> decide +kernel

end SlotServe
