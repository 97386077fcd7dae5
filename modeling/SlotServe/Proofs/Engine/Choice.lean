import SlotServe.Proofs.Engine.Generate
import SlotServe.Proofs.Engine.Successor

/-! The tokens that follow several ones at once. A sampler has a say through its answer to one tensor, that of
all score rows in order; each token that it answers is then scored under its own row. -/
namespace SlotServe.EngineSettings

def choice (sampler : Option Sampler) (vocabulary : Nat) (rows : List (List UInt32)) :
    Except TensorFault (List UInt32) :=
  match sampler with
  | some sampler => Tensor.tokens <$> sampler ⟨[rows.length, vocabulary], .f32 rows.flatten⟩
  | none => .ok (rows.map bestToken)

variable {vocabulary : Nat} {rows : List (List UInt32)} {table : TransitionTable} {cells : List UInt32}
  {tokens : List UInt32}

/-- Just as many tokens as there are rows are taken. -/
theorem pickTokens_eq (uniform : OfWidth vocabulary rows) (some : rows ≠ []) (positive : 0 < vocabulary)
    (sampler : Option Sampler) :
    pickTokens ⟨[rows.length, vocabulary], .f32 rows.flatten⟩ sampler =
      ofTensor (choice sampler vocabulary rows) >>= fun chosen =>
        if chosen.length = rows.length then .ok chosen
        else .error (.layout (.sampleCount chosen.length rows.length)) := by
  have checked (chosen : List UInt32) :
      (if chosen.length ≠ rows.length then throw (.layout (.sampleCount chosen.length rows.length))
        else pure chosen : Except Fault (List UInt32)) =
      if chosen.length = rows.length then .ok chosen
      else .error (.layout (.sampleCount chosen.length rows.length)) := ite_not ..
  cases sampler with
  | none =>
    have greedy := greedyTokens_eq uniform
    rw [if_neg (by simpa [Nat.ne_of_gt positive] using some)] at greedy
    unfold pickTokens
    dsimp only
    rw [greedy]
    exact checked _
  | some sampler =>
    unfold pickTokens choice
    dsimp only
    cases sampler ⟨[rows.length, vocabulary], .f32 rows.flatten⟩ with
    | error fault => rfl
    | ok chosen => exact checked _

theorem nextTokens_eq (square : table.Square vocabulary cells) (some : tokens ≠ [])
    (inside : ∀ token ∈ tokens, token.toNat < vocabulary) (sampler : Option Sampler) :
    nextTokens table sampler tokens =
      ofTensor (choice sampler vocabulary (tokens.map (scoreRow vocabulary cells))) >>= fun chosen =>
        if chosen.length = tokens.length then
          .ok (chosen, List.zipWith Sampling.tokenLogProb (tokens.map (scoreRow vocabulary cells)) chosen)
        else .error (.layout (.sampleCount chosen.length tokens.length)) := by
  have uniform := square.ofWidth inside
  have positive : 0 < vocabulary := by
    obtain ⟨token, rest, rfl⟩ := List.exists_cons_of_ne_nil some
    exact Nat.zero_lt_of_lt (inside token (by simp))
  have nonempty : tokens.map (scoreRow vocabulary cells) ≠ [] := by simpa using some
  unfold nextTokens
  rw [square.rowsOf_eq inside, ← List.length_map (scoreRow vocabulary cells)]
  generalize tokens.map (scoreRow vocabulary cells) = rows at *
  have scored (chosen : List UInt32) :
      Sampling.tokenLogProbs ⟨[rows.length, vocabulary], .f32 rows.flatten⟩ chosen =
        .ok (List.zipWith Sampling.tokenLogProb rows chosen) :=
    congrArg (fun rows => Except.ok (List.zipWith Sampling.tokenLogProb rows chosen)) uniform.pieces_flatten
  change (pickTokens _ sampler >>= fun next => ofTensor (Sampling.tokenLogProbs _ next) >>= _) = _
  simp only [pickTokens_eq uniform nonempty positive, scored, bind_assoc]
  refine bind_congr fun chosen => ?_
  split <;> rfl

end SlotServe.EngineSettings
