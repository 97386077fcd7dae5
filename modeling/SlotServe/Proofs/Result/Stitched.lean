import SlotServe.Proofs.Result.Layout
import SlotServe.Proofs.Tensor.Stacked
import SlotServe.Result.Buffer

/-! Microbatches stitched into one buffer. The rows of a part follow those of the parts before it, in its
data and in its log probabilities alike, and every part comes in whole slots: slot `s` of a part is slot
`s` of the whole, counted from the slots of the parts before it. -/
namespace SlotServe

namespace ResultBuffer

/-- A buffer as the constructors make them, over cells of any type. The tensors at hand are as long as their
shapes ask for, and so is what a copy delivers. Every other way to make a buffer lays out its matrix with
the first of these and may attach log probabilities with the second. -/
inductive Built : ResultBuffer → Prop
  | ofData {data : Tensor} {tokensAt validAt lengthAt : ColumnRange} {samplesPerSlot : Nat}
      {buffer : ResultBuffer} (fits : data.Fits)
      (ok : ofData data tokensAt validAt lengthAt samplesPerSlot = .ok buffer) : Built buffer
  | withLogProb {buffer after : ResultBuffer} {logProb : Tensor} (built : Built buffer) (fits : logProb.Fits)
      (ok : buffer.withLogProb logProb = .ok after) : Built after
  | completeHostCopy {buffer after : ResultBuffer} {transfer : HostTransfer} (built : Built buffer)
      (fits : ∀ data, transfer.wait = .ok data → data.Fits)
      (ok : buffer.completeHostCopy transfer = .ok after) : Built after

structure WellLaid (buffer : ResultBuffer) : Prop where
  fits : buffer.data.Fits
  laid : ∃ rows width, buffer.data.shape = [rows, width] ∧
    Layout rows width buffer.tokensAt buffer.validAt buffer.lengthAt buffer.samplesPerSlot
  scored : ∀ logProb, buffer.logProb = some logProb → logProb.Fits ∧ logProb.height = buffer.data.height

theorem ofData_links {data : Tensor} {tokensAt validAt lengthAt : ColumnRange} {samplesPerSlot : Nat}
    {buffer : ResultBuffer} (ok : ofData data tokensAt validAt lengthAt samplesPerSlot = .ok buffer) :
    (∃ rows width, data.shape = [rows, width] ∧ Layout rows width tokensAt validAt lengthAt samplesPerSlot) ∧
      buffer = ⟨data, tokensAt, validAt, lengthAt, samplesPerSlot, none⟩ := by
  obtain ⟨shape, cells⟩ := data
  match shape, ok with
  | [rows, width], ok =>
    obtain ⟨layout, rfl⟩ := ofData_eq_ok_iff.mp ok
    exact ⟨⟨rows, width, rfl, layout⟩, rfl⟩

theorem numRows_eq {buffer : ResultBuffer} {rows width : Nat} (shape : buffer.data.shape = [rows, width]) :
    buffer.numRows = .ok buffer.data.height := by
  simp [numRows, Tensor.size, Tensor.height, shape, ofTensor]

theorem withLogProb_iff {buffer after : ResultBuffer} {rows width : Nat} {logProb : Tensor}
    (shape : buffer.data.shape = [rows, width]) :
    buffer.withLogProb logProb = .ok after ↔
      logProb.height = buffer.data.height ∧ after = { buffer with logProb := some logProb } := by
  unfold withLogProb
  rw [numRows_eq shape, ← Tensor.height]
  by_cases same : logProb.height = buffer.data.height
  · simp [same, bind, Except.bind, pure, Except.pure, eq_comm]
  · simp [same, bind, Except.bind, throw, throwThe, MonadExceptOf.throw]

theorem Built.wellLaid {buffer : ResultBuffer} (built : buffer.Built) : buffer.WellLaid := by
  induction built with
  | ofData fits ok =>
    obtain ⟨laid, rfl⟩ := ofData_links ok
    exact ⟨fits, laid, fun _ scored => by cases scored⟩
  | withLogProb _ fits ok ih =>
    obtain ⟨rows, width, shape, layout⟩ := ih.laid
    obtain ⟨height, rfl⟩ := (withLogProb_iff shape).mp ok
    refine ⟨ih.fits, ih.laid, ?_⟩
    rintro _ ⟨⟩
    exact ⟨fits, height⟩
  | @completeHostCopy buffer after transfer _ fits ok ih =>
    obtain ⟨data, arrived, rest⟩ := except_links ok
    split at rest
    next => cases rest
    next same =>
      cases rest
      have same : data.shape = buffer.data.shape := Decidable.not_not.mp same
      have height : data.height = buffer.data.height := congrArg (·.head?.getD 0) same
      refine ⟨fits data arrived, ?_, ?_⟩
      · dsimp only
        rw [same]
        exact ih.laid
      · intro logProb held
        exact ⟨(ih.scored logProb held).1, (ih.scored logProb held).2.trans height.symm⟩

def slotScores (buffer : ResultBuffer) (slot : Nat) : Except Fault (Option Tensor) :=
  match buffer.logProb with
  | none => .ok none
  | some tensor => some <$> ofTensor (tensor.narrow 0 (slot * buffer.samplesPerSlot) buffer.samplesPerSlot)

theorem slotView_eq_scores (buffer : ResultBuffer) (slot : Nat) :
    buffer.slotView slot = (do
      buffer.checkSlot slot
      let rows ← ofTensor (buffer.data.narrow 0 (slot * buffer.samplesPerSlot) buffer.samplesPerSlot)
      let scores ← buffer.slotScores slot
      buffer.cutColumns rows scores) := by
  unfold slotView slotScores
  cases buffer.logProb <;> rfl

structure FullSlot (buffer : ResultBuffer) (view : SlotView) : Prop where
  tokens : view.tokens.shape = [buffer.samplesPerSlot, buffer.tokensAt.length]
  valid : view.valid.shape = [buffer.samplesPerSlot, buffer.validAt.length]
  lengths : view.lengths.shape = [buffer.samplesPerSlot]
  logProb : view.logProb.map Tensor.height = buffer.logProb.map fun _ => buffer.samplesPerSlot

section

variable {buffer : ResultBuffer} {rows width slot : Nat}
  (layout : Layout rows width buffer.tokensAt buffer.validAt buffer.lengthAt buffer.samplesPerSlot)

include layout

theorem cutColumns_ok (cells : Cells) {scores : Option Tensor}
    (cut : scores.map Tensor.height = buffer.logProb.map fun _ => buffer.samplesPerSlot) :
    ∃ view, buffer.cutColumns ⟨[buffer.samplesPerSlot, width], cells⟩ scores = .ok view ∧ buffer.FullSlot view := by
  have some : buffer.samplesPerSlot ≠ 0 := Nat.ne_of_gt layout.positive
  have lengths : ¬ width < buffer.lengthAt.start + 1 := by
    have ends := layout.lengths
    unfold ColumnRange.Within at ends
    omega
  have tokens := Nat.not_lt.mpr layout.tokens.reaches
  have valid := Nat.not_lt.mpr layout.valid.reaches
  simp only [cutColumns, Tensor.size, Tensor.narrow, Tensor.squeeze, List.getElem?_cons_zero,
    List.getElem?_cons_succ, List.set_cons_succ, List.set_cons_zero, bind, Except.bind, ofTensor, some, lengths,
    tokens, valid, if_false, if_true]
  exact ⟨_, rfl, rfl, rfl, rfl, cut⟩

theorem slotScores_ok (scored : ∀ logProb, buffer.logProb = some logProb → logProb.height = rows)
    (inside : slot < rows / buffer.samplesPerSlot) :
    ∃ scores, buffer.slotScores slot = .ok scores ∧
      scores.map Tensor.height = buffer.logProb.map fun _ => buffer.samplesPerSlot := by
  have reach := layout.reaches inside
  have positive := layout.positive
  unfold slotScores
  cases held : buffer.logProb with
  | none => exact ⟨none, rfl, rfl⟩
  | some tensor =>
    have height := scored tensor held
    cases shape : tensor.shape with
    | nil =>
      -- Log probabilities without rows stand next to a matrix without rows, which has no slot.
      rw [Tensor.height, shape] at height
      simp only [List.head?_nil, Option.getD_none] at height
      omega
    | cons size rest =>
      obtain rfl : rows = size := height.symm.trans (congrArg (·.head?.getD 0) shape)
      obtain ⟨part, narrowed, cut⟩ := Tensor.narrow_ok shape reach
      have kept : part.height = buffer.samplesPerSlot := congrArg (·.head?.getD 0) cut
      refine ⟨some part, ?_, congrArg some kept⟩
      dsimp only
      rw [narrowed]
      rfl

theorem slotView_within (shape : buffer.data.shape = [rows, width])
    (scored : ∀ logProb, buffer.logProb = some logProb → logProb.height = rows)
    (inside : slot < rows / buffer.samplesPerSlot) : ∃ view, buffer.slotView slot = .ok view ∧ buffer.FullSlot view := by
  have checked : buffer.checkSlot slot = .ok () := by
    rw [checkSlot_laid shape layout, if_neg (Nat.not_le.mpr inside)]
  obtain ⟨⟨_, cells⟩, narrowed, cut⟩ := Tensor.narrow_ok shape (layout.reaches inside)
  obtain rfl : _ = [buffer.samplesPerSlot, width] := cut
  obtain ⟨scores, kept, sized⟩ := slotScores_ok layout scored inside
  obtain ⟨view, ok, full⟩ := cutColumns_ok layout cells sized
  rw [slotView_eq_scores, checked, narrowed, kept]
  exact ⟨view, ok, full⟩

end

def slots (buffer : ResultBuffer) : Nat := buffer.data.height / buffer.samplesPerSlot

namespace WellLaid

variable {buffer : ResultBuffer} (wellLaid : buffer.WellLaid)

include wellLaid

theorem positive : 0 < buffer.samplesPerSlot := by
  obtain ⟨rows, width, -, layout⟩ := wellLaid.laid
  exact layout.positive

theorem whole : buffer.slots * buffer.samplesPerSlot = buffer.data.height := by
  obtain ⟨rows, width, shape, layout⟩ := wellLaid.laid
  have rows : buffer.data.height = rows := congrArg (·.head?.getD 0) shape
  unfold slots
  rw [rows]
  exact Nat.div_mul_cancel layout.whole

theorem numSlots_eq : buffer.numSlots = .ok buffer.slots := by
  obtain ⟨rows, width, shape, layout⟩ := wellLaid.laid
  have height : buffer.data.height = rows := congrArg (·.head?.getD 0) shape
  rw [numSlots_laid shape layout, slots, height]

theorem checkSlot_ok {slot : Nat} (inside : slot < buffer.slots) : buffer.checkSlot slot = .ok () := by
  unfold checkSlot
  rw [wellLaid.numSlots_eq]
  exact if_neg (Nat.not_le.mpr inside)

theorem slotView_ok {slot : Nat} (inside : slot < buffer.slots) : ∃ view, buffer.slotView slot = .ok view := by
  obtain ⟨rows, width, shape, layout⟩ := wellLaid.laid
  have height : buffer.data.height = rows := congrArg (·.head?.getD 0) shape
  rw [slots, height] at inside
  have scored (logProb : Tensor) (held : buffer.logProb = some logProb) : logProb.height = rows :=
    (wellLaid.scored logProb held).2.trans height
  obtain ⟨view, ok, -⟩ := slotView_within layout shape scored inside
  exact ⟨view, ok⟩

end WellLaid

structure Alike (left right : ResultBuffer) : Prop where
  tokens : left.tokensAt = right.tokensAt
  valid : left.validAt = right.validAt
  lengths : left.lengthAt = right.lengthAt
  samplesPerSlot : left.samplesPerSlot = right.samplesPerSlot

theorem sameLayout_iff {left right : ResultBuffer} : left.sameLayout right = true ↔ left.Alike right := by
  simp only [sameLayout, Bool.and_eq_true, decide_eq_true_eq]
  exact ⟨fun ⟨⟨⟨tokens, valid⟩, lengths⟩, samples⟩ => ⟨tokens, valid, lengths, samples⟩,
    fun ⟨tokens, valid, lengths, samples⟩ => ⟨⟨⟨tokens, valid⟩, lengths⟩, samples⟩⟩

theorem Alike.refl (buffer : ResultBuffer) : buffer.Alike buffer := ⟨rfl, rfl, rfl, rfl⟩

theorem Alike.symm {left right : ResultBuffer} (alike : left.Alike right) : right.Alike left :=
  ⟨alike.tokens.symm, alike.valid.symm, alike.lengths.symm, alike.samplesPerSlot.symm⟩

theorem Alike.trans {left middle right : ResultBuffer} (alike : left.Alike middle) (also : middle.Alike right) :
    left.Alike right :=
  ⟨alike.tokens.trans also.tokens, alike.valid.trans also.valid, alike.lengths.trans also.lengths,
    alike.samplesPerSlot.trans also.samplesPerSlot⟩

theorem Alike.cutColumns_eq {left right : ResultBuffer} (alike : left.Alike right) (rows : Tensor)
    (logProb : Option Tensor) : left.cutColumns rows logProb = right.cutColumns rows logProb := by
  unfold cutColumns
  rw [alike.tokens, alike.valid, alike.lengths]

/-- A buffer that holds the rows of another, a number of slots further on, has its views there. -/
theorem Alike.slotView_eq {whole part : ResultBuffer} {before slot : Nat} {view : SlotView}
    (alike : whole.Alike part) (data : whole.data.Holds (before * part.samplesPerSlot) part.data)
    (logProb : Option.Rel (Tensor.Holds · (before * part.samplesPerSlot) ·) whole.logProb part.logProb)
    (covered : whole.checkSlot (before + slot) = .ok ()) (ok : part.slotView slot = .ok view) :
    whole.slotView (before + slot) = .ok view := by
  rw [slotView_eq_scores] at ok ⊢
  obtain ⟨-, -, rest⟩ := except_links ok
  obtain ⟨rows, cut, rest⟩ := except_links rest
  obtain ⟨scores, scored, rest⟩ := except_links rest
  have found := data _ _ _ (ofTensor_success cut)
  have kept : whole.slotScores (before + slot) = .ok scores := by
    unfold slotScores at scored ⊢
    rw [alike.samplesPerSlot, Nat.add_mul]
    generalize whole.logProb = upper at logProb
    generalize part.logProb = lower at logProb scored
    cases logProb with
    | none => exact scored
    | @some _ lower holds =>
      dsimp only at scored ⊢
      cases own : lower.narrow 0 (slot * part.samplesPerSlot) part.samplesPerSlot with
      | error fault =>
        rw [own] at scored
        cases scored
      | ok entries =>
        rw [own] at scored
        rw [holds _ _ _ own]
        exact scored
  rw [covered, alike.samplesPerSlot, Nat.add_mul, found, kept]
  exact (alike.cutColumns_eq rows scores).trans rest

section

variable {parts : List ResultBuffer}

theorem scores_none_iff : parts.filterMap (·.logProb) = [] ↔ ∀ part ∈ parts, part.logProb = none := by
  simp [List.filterMap_eq_nil_iff]

theorem scores_all_iff :
    (parts.filterMap (·.logProb)).length = parts.length ↔
      parts.map (·.logProb) = (parts.filterMap (·.logProb)).map some := by
  induction parts with
  | nil => simp
  | cons first rest ih =>
    have short := List.length_filterMap_le (·.logProb) rest
    cases scored : first.logProb with
    | none =>
      have fewer : (rest.filterMap (·.logProb)).length ≠ rest.length + 1 := by omega
      simp only [List.filterMap_cons, List.map_cons, List.length_cons, scored, fewer, false_iff]
      cases rest.filterMap (·.logProb) <;> simp
    | some logProb => simp [scored, ih]

def joinScores (parts : List ResultBuffer) (buffer : ResultBuffer) : Except Fault ResultBuffer :=
  let logProbs := parts.filterMap (·.logProb)
  if logProbs.isEmpty then .ok buffer
  else if logProbs.length ≠ parts.length then .error .logProbMismatch
  else ofTensor (Tensor.concat 0 logProbs) >>= buffer.withLogProb

theorem concat_eq (first : ResultBuffer) (rest : List ResultBuffer) :
    concat (first :: rest) =
      if rest.all first.sameLayout then (do
        let data ← ofTensor (Tensor.concat 0 ((first :: rest).map (·.data)))
        let buffer ← ofData data first.tokensAt first.validAt first.lengthAt first.samplesPerSlot
        joinScores (first :: rest) buffer)
      else .error (.layout .unlikeParts) := by
  rw [concat]
  cases rest.all first.sameLayout with
  | false => rfl
  | true => rfl

theorem joinScores_iff {buffer whole : ResultBuffer} :
    joinScores parts buffer = .ok whole ↔
      (∀ part ∈ parts, part.logProb = none) ∧ whole = buffer ∨
        ∃ logProbs logProb, parts.map (·.logProb) = logProbs.map some ∧
          Tensor.concat 0 logProbs = .ok logProb ∧ buffer.withLogProb logProb = .ok whole := by
  unfold joinScores
  rw [← scores_none_iff]
  dsimp only
  constructor
  · intro ok
    split at ok
    next empty =>
      cases ok
      exact .inl ⟨List.isEmpty_iff.mp empty, rfl⟩
    next =>
      split at ok
      next => cases ok
      next all =>
        obtain ⟨logProb, stacked, attached⟩ := except_links ok
        exact .inr ⟨_, logProb, scores_all_iff.mp (Decidable.not_not.mp all), ofTensor_success stacked, attached⟩
  · rintro (⟨none, rfl⟩ | ⟨logProbs, logProb, all, stacked, attached⟩)
    · rw [none]
      rfl
    · have held : parts.filterMap (·.logProb) = logProbs := by
        have kept := congrArg (List.filterMap id) all
        simpa [List.filterMap_map] using kept
      have size : logProbs.length = parts.length := by simpa using (congrArg List.length all).symm
      have some : logProbs ≠ [] := by
        rintro rfl
        cases stacked
      rw [held, if_neg (by simpa using some), if_neg (by simpa using size), stacked]
      exact attached

structure Joined (parts : List ResultBuffer) (whole : ResultBuffer) : Prop where
  built : whole.Built
  alike : ∀ part ∈ parts, whole.Alike part
  data : Tensor.Stacked (parts.map (·.data)) whole.data
  logProb : (∀ part ∈ parts, part.logProb = none) ∧ whole.logProb = none ∨
    ∃ logProbs logProb, parts.map (·.logProb) = logProbs.map some ∧ whole.logProb = some logProb ∧
      Tensor.Stacked logProbs logProb

theorem fits_data (laid : ∀ part ∈ parts, part.WellLaid) : ∀ tensor ∈ parts.map (·.data), tensor.Fits := by
  intro tensor member
  obtain ⟨part, present, rfl⟩ := List.mem_map.mp member
  exact (laid part present).fits

section

variable {logProbs : List Tensor} (laid : ∀ part ∈ parts, part.WellLaid)
  (all : parts.map (·.logProb) = logProbs.map some)

include laid all

theorem fits_scores : ∀ tensor ∈ logProbs, tensor.Fits := by
  intro tensor member
  have held : some tensor ∈ parts.map (·.logProb) := by
    rw [all]
    exact List.mem_map_of_mem member
  obtain ⟨part, present, scored⟩ := List.mem_map.mp held
  exact ((laid part present).scored tensor scored).1

theorem heights_scores : logProbs.map Tensor.height = parts.map (·.data.height) := by
  induction parts generalizing logProbs with
  | nil =>
    cases logProbs with
    | nil => rfl
    | cons logProb more => cases all
  | cons part rest ih =>
    cases logProbs with
    | nil => cases all
    | cons logProb more =>
      rw [List.forall_mem_cons] at laid
      obtain ⟨own, following⟩ := List.cons.inj all
      rw [List.map_cons, List.map_cons, (laid.1.scored logProb own).2, ih laid.2 following]

end

theorem concat_joined {whole : ResultBuffer} (built : ∀ part ∈ parts, part.Built)
    (ok : concat parts = .ok whole) : Joined parts whole := by
  have laid : ∀ part ∈ parts, part.WellLaid := fun part member => (built part member).wellLaid
  cases parts with
  | nil => cases ok
  | cons first rest =>
    rw [concat_eq] at ok
    split at ok
    next agreed =>
      obtain ⟨data, stacked, ok⟩ := except_links ok
      obtain ⟨buffer, based, ok⟩ := except_links ok
      have stack := Tensor.concat_stacked (fits_data laid) (ofTensor_success stacked)
      have base : buffer.Built := .ofData stack.fits based
      obtain ⟨-, rfl⟩ := ofData_links based
      have alike : ∀ part ∈ first :: rest, first.Alike part := by
        rw [List.forall_mem_cons]
        exact ⟨.refl first, fun part member => sameLayout_iff.mp (List.all_eq_true.mp agreed part member)⟩
      rcases joinScores_iff.mp ok with ⟨none, rfl⟩ | ⟨logProbs, logProb, all, joined, attached⟩
      · exact ⟨base, fun part member => ⟨(alike part member).1, (alike part member).2, (alike part member).3,
          (alike part member).4⟩, stack, .inl ⟨none, rfl⟩⟩
      · obtain ⟨rows, width, shape, -⟩ := base.wellLaid.laid
        have scores := Tensor.concat_stacked (fits_scores laid all) joined
        have built := base.withLogProb scores.fits attached
        obtain ⟨-, rfl⟩ := (withLogProb_iff shape).mp attached
        exact ⟨built, fun part member => ⟨(alike part member).1, (alike part member).2, (alike part member).3,
          (alike part member).4⟩, stack, .inr ⟨logProbs, logProb, all, rfl, scores⟩⟩
    next => cases ok

end

theorem total_take_add_le {counts : List Nat} {place count : Nat} (found : counts[place]? = some count) :
    Size.total (counts.take place) + count ≤ Size.total counts := by
  have split := congrArg Size.total (List.take_append_drop place counts)
  rw [Size.total_append, List.drop_eq_getElem?_toList_append, found] at split
  change _ + (count + _) = _ at split
  omega

/-- Rows in whole slots: together the parts have as many as their slots ask for. -/
theorem total_heights {parts : List ResultBuffer} {samplesPerSlot : Nat}
    (laid : ∀ part ∈ parts, part.WellLaid ∧ part.samplesPerSlot = samplesPerSlot) :
    Size.total (parts.map (·.data.height)) = Size.total (parts.map slots) * samplesPerSlot := by
  induction parts with
  | nil => exact (Nat.zero_mul samplesPerSlot).symm
  | cons part rest ih =>
    rw [List.forall_mem_cons] at laid
    obtain ⟨⟨wellLaid, rfl⟩, following⟩ := laid
    rw [List.map_cons, List.map_cons, Size.total_cons, Size.total_cons, ih following, Nat.add_mul, wellLaid.whole]

namespace Joined

variable {parts : List ResultBuffer} {whole : ResultBuffer} (laid : ∀ part ∈ parts, part.WellLaid)
  (joined : Joined parts whole)

include laid joined

theorem slots_eq : whole.slots = Size.total (parts.map slots) := by
  have each : ∀ part ∈ parts, part.WellLaid ∧ part.samplesPerSlot = whole.samplesPerSlot :=
    fun part member => ⟨laid part member, (joined.alike part member).samplesPerSlot.symm⟩
  have height := joined.data.height
  rw [List.map_map] at height
  unfold slots
  rw [height]
  exact (congrArg (· / whole.samplesPerSlot) (total_heights each)).trans
    (Nat.mul_div_cancel _ joined.built.wellLaid.positive)

theorem before_eq (place : Nat) :
    Size.total ((parts.map (·.data.height)).take place) =
      Size.total ((parts.map slots).take place) * whole.samplesPerSlot := by
  rw [← List.map_take, ← List.map_take]
  exact total_heights fun part member => ⟨laid part (List.mem_of_mem_take member),
    (joined.alike part (List.mem_of_mem_take member)).samplesPerSlot.symm⟩

theorem slotView_eq {place slot : Nat} {part : ResultBuffer} {view : SlotView}
    (found : parts[place]? = some part) (inside : slot < part.slots) (ok : part.slotView slot = .ok view) :
    whole.slotView (Size.total ((parts.map slots).take place) + slot) = .ok view := by
  have alike := joined.alike part (List.mem_of_getElem? found)
  have before := joined.before_eq laid place
  rw [alike.samplesPerSlot] at before
  refine alike.slotView_eq ?_ ?_ ?_ ok
  · have data : (parts.map (·.data))[place]? = some part.data := by
      rw [List.getElem?_map, found]
      rfl
    have held := joined.data.holds place part.data data
    rw [List.map_take, List.map_map] at held
    exact before ▸ held
  · rcases joined.logProb with ⟨none, absent⟩ | ⟨logProbs, logProb, all, present, stacked⟩
    · rw [absent, none part (List.mem_of_getElem? found)]
      exact .none
    · have own := congrArg (·[place]?) all
      simp only [List.getElem?_map, found, Option.map_some] at own
      obtain ⟨scores, at_, scored⟩ := Option.map_eq_some_iff.mp own.symm
      have held := stacked.holds place scores at_
      rw [List.map_take, heights_scores laid all, before] at held
      rw [present, ← scored]
      exact .some held
  · apply joined.built.wellLaid.checkSlot_ok
    rw [joined.slots_eq laid]
    have own : (parts.map slots)[place]? = some part.slots := by
      rw [List.getElem?_map, found]
      rfl
    have below := total_take_add_le own
    omega

end Joined

/-- What a stitched buffer shows: as many slots as the parts have together, their layout, log probabilities
if all of them have some, and each of their slots under its number counted from the slots before. -/
structure Stitched (parts : List ResultBuffer) (counts : List Nat) (whole : ResultBuffer) : Prop where
  counted : List.Forall₂ (fun part count => part.numSlots = .ok count) parts counts
  total : whole.numSlots = .ok (Size.total counts)
  alike : ∀ part ∈ parts, whole.Alike part
  scored : whole.logProb.isSome ↔ ∀ part ∈ parts, part.logProb.isSome
  shows : ∀ place part count, parts[place]? = some part → counts[place]? = some count → ∀ slot < count,
    ∃ view, part.slotView slot = .ok view ∧ whole.slotView (Size.total (counts.take place) + slot) = .ok view

theorem Joined.stitched {parts : List ResultBuffer} {whole : ResultBuffer}
    (laid : ∀ part ∈ parts, part.WellLaid) (some : parts ≠ []) (joined : Joined parts whole) :
    Stitched parts (parts.map slots) whole where
  counted := by
    rw [List.forall₂_map_right_iff, List.forall₂_same]
    exact fun part member => (laid part member).numSlots_eq
  total := by
    rw [joined.built.wellLaid.numSlots_eq, joined.slots_eq laid]
  alike := joined.alike
  scored := by
    obtain ⟨first, member⟩ := List.exists_mem_of_ne_nil parts some
    rcases joined.logProb with ⟨none, absent⟩ | ⟨logProbs, logProb, all, present, -⟩
    · rw [absent]
      refine ⟨fun scored => (by cases scored), fun scored => ?_⟩
      have own := scored first member
      rwa [none first member] at own
    · rw [present]
      refine ⟨fun _ part member => ?_, fun _ => rfl⟩
      have held : part.logProb ∈ logProbs.map Option.some := by
        rw [← all]
        exact List.mem_map_of_mem member
      obtain ⟨logProb, -, scored⟩ := List.mem_map.mp held
      rw [← scored]
      rfl
  shows := by
    intro place part count found counted slot inside
    rw [List.getElem?_map, found] at counted
    obtain rfl : part.slots = count := by simpa using counted
    obtain ⟨view, ok⟩ := (laid part (List.mem_of_getElem? found)).slotView_ok inside
    exact ⟨view, ok, joined.slotView_eq laid found inside ok⟩

/-- Parts of one type and width under one layout stitch, if none or all of them have log probabilities and
these are of one type and width too. -/
theorem concat_ok {first : ResultBuffer} {rest : List ResultBuffer} {type : ElementType} {width : Nat}
    (laid : ∀ part ∈ first :: rest, part.WellLaid) (alike : ∀ part ∈ first :: rest, first.Alike part)
    (even : ∀ part ∈ first :: rest, part.data.Matrix type width)
    (scored : (∀ part ∈ first :: rest, part.logProb = none) ∨ ∃ kind entries, ∀ part ∈ first :: rest,
      ∃ logProb, part.logProb = some logProb ∧ logProb.Matrix kind entries) :
    ∃ whole, concat (first :: rest) = .ok whole := by
  have agreed : rest.all first.sameLayout = true :=
    List.all_eq_true.mpr fun part member => sameLayout_iff.mpr (alike part (List.mem_cons_of_mem first member))
  have matrices : ∀ tensor ∈ (first :: rest).map (·.data), tensor.Matrix type width :=
    List.forall_mem_map.mpr even
  obtain ⟨⟨_, cells⟩, stacked, matrix⟩ := Tensor.concat_matrices (by simp) matrices
  obtain ⟨rows, shape⟩ := matrix.shape
  obtain rfl : _ = [rows, width] := shape
  have stack := Tensor.concat_stacked (fits_data laid) stacked
  have height : rows = Size.total ((first :: rest).map (·.data.height)) := by
    have all := stack.height
    rw [List.map_map] at all
    exact all
  have layout : Layout rows width first.tokensAt first.validAt first.lengthAt first.samplesPerSlot := by
    obtain ⟨own, across, shape, layout⟩ := (laid first (by simp)).laid
    obtain ⟨_, same⟩ := (even first (by simp)).shape
    obtain rfl : across = width := by
      rw [shape] at same
      simp only [List.cons.injEq] at same
      exact same.2.1
    have each : ∀ part ∈ first :: rest, part.WellLaid ∧ part.samplesPerSlot = first.samplesPerSlot :=
      fun part member => ⟨laid part member, (alike part member).samplesPerSlot.symm⟩
    -- The rows of all parts together come in whole slots too.
    exact { layout with whole := ⟨_, height.trans ((total_heights each).trans (Nat.mul_comm _ _))⟩ }
  have based : ofData ⟨[rows, width], cells⟩ first.tokensAt first.validAt first.lengthAt first.samplesPerSlot =
      .ok ⟨⟨[rows, width], cells⟩, first.tokensAt, first.validAt, first.lengthAt, first.samplesPerSlot, none⟩ :=
    ofData_eq_ok_iff.mpr ⟨layout, rfl⟩
  rw [concat_eq, if_pos agreed, stacked]
  simp only [ofTensor, bind, Except.bind, based]
  rcases scored with none | ⟨kind, entries, scored⟩
  · exact ⟨_, joinScores_iff.mpr (.inl ⟨none, rfl⟩)⟩
  · have all : (first :: rest).map (·.logProb) =
        ((first :: rest).map fun part => part.logProb.getD part.data).map some := by
      rw [List.map_map]
      refine List.map_congr_left fun part member => ?_
      obtain ⟨logProb, held, -⟩ := scored part member
      simp [held]
    have scores : ∀ tensor ∈ (first :: rest).map (fun part => part.logProb.getD part.data),
        tensor.Matrix kind entries := by
      refine List.forall_mem_map.mpr fun part member => ?_
      obtain ⟨logProb, held, matrix⟩ := scored part member
      rwa [held]
    obtain ⟨logProb, joined, -⟩ := Tensor.concat_matrices (by simp) scores
    have above := Tensor.concat_stacked (fits_scores laid all) joined
    refine ⟨_, joinScores_iff.mpr (.inr ⟨_, logProb, all, joined, (withLogProb_iff rfl).mpr ⟨?_, rfl⟩⟩)⟩
    rw [above.height, heights_scores laid all, ← height]
    rfl

/-- Microbatches address as one batch. Whatever buffers are stitched, the whole shows the slots of the parts
one after the other, each with the view that it has in its part. Parts of one type and width, without log
probabilities or all with such, stitch exactly when they agree on the layout. -/
theorem microbatches_address_as_one {parts : List ResultBuffer} (some : parts ≠ [])
    (built : ∀ part ∈ parts, part.Built) :
    (∀ whole, concat parts = .ok whole → ∃ counts, Stitched parts counts whole) ∧
    ∀ type width, (∀ part ∈ parts, part.data.Matrix type width) →
      ((∀ part ∈ parts, part.logProb = none) ∨ ∃ kind entries, ∀ part ∈ parts,
        ∃ logProb, part.logProb = Option.some logProb ∧ logProb.Matrix kind entries) →
      ((∃ whole, concat parts = .ok whole) ↔ ∀ left ∈ parts, ∀ right ∈ parts, left.Alike right) := by
  have laid : ∀ part ∈ parts, part.WellLaid := fun part member => (built part member).wellLaid
  refine ⟨fun whole ok => ⟨_, (concat_joined built ok).stitched laid some⟩, ?_⟩
  intro type width even scored
  constructor
  · rintro ⟨whole, ok⟩ left member right also
    have alike := (concat_joined built ok).alike
    exact (alike left member).symm.trans (alike right also)
  · intro agree
    cases parts with
    | nil => exact absurd rfl some
    | cons first rest => exact concat_ok laid (agree first (by simp)) even scored

def unevenParts : List ResultBuffer :=
  [⟨⟨[2, 3], .i64 [7, 1, 1, 9, 1, 1]⟩, ⟨0, 1⟩, ⟨1, 2⟩, ⟨2, 3⟩, 2, some ⟨[2, 1], .ofReals [0, 1]⟩⟩,
    ⟨⟨[0, 3], .i64 []⟩, ⟨0, 1⟩, ⟨1, 2⟩, ⟨2, 3⟩, 2, some ⟨[0, 1], .f32 []⟩⟩,
    ⟨⟨[4, 3], .i64 [5, 1, 4, 6, 1, 4, 0, 0, 0, 8, 1, 2]⟩, ⟨0, 1⟩, ⟨1, 2⟩, ⟨2, 3⟩, 2,
      some ⟨[4, 1], .ofReals [2, 3, 4, 5]⟩⟩]

theorem uneven_microbatches_address_as_one :
    (∀ part ∈ unevenParts, part.Built) ∧
      ∃ whole counts, concat unevenParts = .ok whole ∧ Stitched unevenParts counts whole := by
  have made {data scores : Tensor} (fits : data.Fits) (scored : scores.Fits)
      (laid : ofData data ⟨0, 1⟩ ⟨1, 2⟩ ⟨2, 3⟩ 2 = .ok ⟨data, ⟨0, 1⟩, ⟨1, 2⟩, ⟨2, 3⟩, 2, none⟩)
      (attached : withLogProb ⟨data, ⟨0, 1⟩, ⟨1, 2⟩, ⟨2, 3⟩, 2, none⟩ scores =
        .ok ⟨data, ⟨0, 1⟩, ⟨1, 2⟩, ⟨2, 3⟩, 2, some scores⟩) :
      Built ⟨data, ⟨0, 1⟩, ⟨1, 2⟩, ⟨2, 3⟩, 2, some scores⟩ := .withLogProb (.ofData fits laid) scored attached
  have built : ∀ part ∈ unevenParts, part.Built := by
    simp only [unevenParts, List.forall_mem_cons]
    exact ⟨made rfl rfl rfl rfl, made rfl rfl rfl rfl, made rfl rfl rfl rfl, by simp⟩
  have alike : ∀ part ∈ unevenParts, Alike ⟨.zeros [0, 3], ⟨0, 1⟩, ⟨1, 2⟩, ⟨2, 3⟩, 2, none⟩ part := by
    simp only [unevenParts, List.forall_mem_cons]
    exact ⟨⟨rfl, rfl, rfl, rfl⟩, ⟨rfl, rfl, rfl, rfl⟩, ⟨rfl, rfl, rfl, rfl⟩, by simp⟩
  have even : ∀ part ∈ unevenParts, part.data.Matrix .i64 3 := by
    simp only [unevenParts, List.forall_mem_cons]
    exact ⟨⟨rfl, 2, rfl⟩, ⟨rfl, 0, rfl⟩, ⟨rfl, 4, rfl⟩, by simp⟩
  have scored : ∀ part ∈ unevenParts, ∃ logProb, part.logProb = some logProb ∧ logProb.Matrix .f32 1 := by
    simp only [unevenParts, List.forall_mem_cons]
    exact ⟨⟨_, rfl, rfl, 2, rfl⟩, ⟨_, rfl, rfl, 0, rfl⟩, ⟨_, rfl, rfl, 4, rfl⟩, by simp⟩
  obtain ⟨stitched, succeeds⟩ := microbatches_address_as_one (by simp [unevenParts]) built
  obtain ⟨whole, ok⟩ := (succeeds .i64 3 even (.inr ⟨.f32, 1, scored⟩)).mpr
    fun left member right also => (alike left member).symm.trans (alike right also)
  obtain ⟨counts, shown⟩ := stitched whole ok
  exact ⟨built, whole, counts, ok, shown⟩

end ResultBuffer

end SlotServe
