import SlotServe.Proofs.Toml.Lines

/-! Sections assembled into a document. A section adds its table after what the table around it holds, and its
entries one after the other; a focus says where in the whole that table stands. -/
namespace SlotServe.Toml

variable {members inner front : Members} {name : String} {path : List String} {wrap : Members → Members}

section Alter

variable {change : Option Node → Option Node}

theorem alter_new (new : name ∉ members.map (·.1)) :
    alter name change members = (change none).map fun node => members ++ [(name, node)] := by
  induction members with
  | nil => rfl
  | cons member members ih =>
    rw [List.map_cons, List.mem_cons, not_or] at new
    rw [alter, if_neg (Ne.symm new.1), ih new.2, Option.map_map]
    rfl

theorem alter_old (new : name ∉ front.map (·.1)) (node : Node) (members : Members) :
    alter name change (front ++ (name, node) :: members) =
      (change (some node)).map fun node => front ++ (name, node) :: members := by
  induction front with
  | nil => exact if_pos rfl
  | cons member front ih =>
    rw [List.map_cons, List.mem_cons, not_or] at new
    rw [List.cons_append, alter, if_neg (Ne.symm new.1), ih new.2, Option.map_map]
    rfl

end Alter

/-- The way to a table leads first to the tables around it. -/
theorem within_append (dotted : Bool) (change : Origin → Members → Option Members) (last : List String)
    (path : List String) (origin : Origin) (members : Members) :
    within dotted change (path ++ last) origin members =
      within dotted (within dotted change last) path origin members := by
  induction path generalizing origin members with
  | nil => rw [List.nil_append, within]
  | cons name path ih =>
    rw [List.cons_append, within, within]
    congr
    funext node
    cases node with
    | none => simp only [ih]
    | some node =>
      cases node with
      | value value => rfl
      | table origin members => simp only [ih]
      | items tables =>
        rw [funext (ih .header)]

/-- That `wrap` puts the members of the table at a path into the document around them. -/
def Focus (path : List String) (wrap : Members → Members) : Prop :=
  ∀ (change : Members → Option Members) (origin : Origin) (inner : Members),
    within false (fun _ => change) path origin (wrap inner) = (change inner).map wrap

namespace Focus

theorem root : Focus [] id := fun change origin inner => by
  rw [within, Option.map_id]
  rfl

/-- A table that is the last one of its parent. -/
theorem child (focus : Focus path wrap) (new : name ∉ inner.map (·.1)) (origin : Origin) :
    Focus (path ++ [name]) fun members => wrap (inner ++ [(name, .table origin members)]) := by
  intro change outer members
  have last : within false (fun _ => change) [name] = fun _ => within false (fun _ => change) [name] .header := rfl
  rw [within_append, last, focus, within, alter_old new]
  simp only [Bool.false_and, Bool.false_eq_true, if_false, within, Option.map_map]
  rfl

end Focus

theorem splitLast_append (path : List String) (name : String) : splitLast (path ++ [name]) = some (path, name) := by
  induction path with
  | nil => rfl
  | cons first path ih =>
    obtain ⟨next, others, written⟩ :=
      List.exists_cons_of_ne_nil (List.append_ne_nil_of_right_ne_nil path (List.cons_ne_nil name []))
    rw [written] at ih
    rw [List.cons_append, written, splitLast, ih]
    · rfl
    · exact List.cons_ne_nil _ _

theorem assign_new (new : name ∉ members.map (·.1)) (value : Toml) :
    assign [name] value members = some (members ++ [(name, .value value)]) :=
  alter_new new

def member (entry : String × Entry) : String × Node := (entry.1, .value entry.2.toml)

namespace Focus

theorem openTable (focus : Focus path wrap) (new : name ∉ inner.map (·.1)) :
    openTable (path ++ [name]) (wrap inner) = some (wrap (inner ++ [(name, .table .header [])])) := by
  unfold Toml.openTable
  rw [splitLast_append]
  change within false (fun _ => alter name _) path .header (wrap inner) = _
  rw [focus, alter_new new]
  rfl

theorem assign (focus : Focus path wrap) (new : name ∉ inner.map (·.1)) (value : Toml) :
    Draft.add ⟨wrap inner, path⟩ (.assign [name] value) = some ⟨wrap (inner ++ [(name, .value value)]), path⟩ := by
  change (within false (fun _ => Toml.assign [name] value) path .header (wrap inner)).bind _ = _
  rw [focus, assign_new new]
  rfl

theorem entries (focus : Focus path wrap) {entries : List (String × Entry)}
    (new : ∀ entry ∈ entries, entry.1 ∉ inner.map (·.1)) (distinct : (entries.map (·.1)).Nodup) :
    (entries.map assignment).foldlM Draft.add ⟨wrap inner, path⟩ =
      some ⟨wrap (inner ++ entries.map member), path⟩ := by
  induction entries generalizing inner with
  | nil => simp
  | cons entry entries ih =>
    rw [List.forall_mem_cons] at new
    rw [List.map_cons, List.nodup_cons] at distinct
    have later (other : String × Entry) (within : other ∈ entries) :
        other.1 ∉ (inner ++ [member entry]).map (·.1) := by
      rw [List.map_append, List.mem_append, not_or]
      refine ⟨new.2 other within, fun same => distinct.1 ?_⟩
      have equal : other.1 = entry.1 := List.mem_singleton.mp same
      exact equal ▸ List.mem_map_of_mem within
    rw [List.map_cons, List.foldlM_cons, assignment, focus.assign new.1]
    change (entries.map assignment).foldlM Draft.add ⟨wrap (inner ++ [member entry]), path⟩ = _
    rw [ih later distinct.2, List.map_cons, List.append_assoc]
    rfl

theorem section_new (focus : Focus path wrap) (new : name ∉ inner.map (·.1)) {entries : List (String × Entry)}
    (distinct : (entries.map (·.1)).Nodup) (current : List String) :
    (Section.statements ⟨path ++ [name], entries⟩).foldlM Draft.add ⟨wrap inner, current⟩ =
      some ⟨wrap (inner ++ [(name, .table .header (entries.map member))]), path ++ [name]⟩ := by
  have opened := focus.openTable new
  have empty (entry : String × Entry) (_ : entry ∈ entries) : entry.1 ∉ ([] : Members).map (·.1) := List.not_mem_nil
  have filled := (focus.child new .header).entries empty distinct
  rw [Section.statements, List.foldlM_cons, Draft.add, opened]
  exact filled

end Focus

theorem root_section (new : name ∉ members.map (·.1)) {entries : List (String × Entry)}
    (distinct : (entries.map (·.1)).Nodup) (current : List String) :
    (Section.statements ⟨[name], entries⟩).foldlM Draft.add ⟨members, current⟩ =
      some ⟨members ++ [(name, .table .header (entries.map member))], [name]⟩ :=
  Focus.root.section_new new distinct current

theorem nested_section {outer : String} (outerNew : outer ∉ front.map (·.1)) (new : name ∉ inner.map (·.1))
    {entries : List (String × Entry)} (distinct : (entries.map (·.1)).Nodup) (origin : Origin) (current : List String) :
    (Section.statements ⟨[outer, name], entries⟩).foldlM Draft.add ⟨front ++ [(outer, .table origin inner)], current⟩ =
      some ⟨front ++ [(outer, .table origin (inner ++ [(name, .table .header (entries.map member))]))],
        [outer, name]⟩ :=
  (Focus.root.child outerNew origin).section_new new distinct current

theorem finished_append (members others : Members) :
    finished (members ++ others) = finished members ++ finished others := by
  induction members with
  | nil => rw [List.nil_append, finished, List.nil_append]
  | cons member members ih => rw [List.cons_append, finished, finished, ih, List.cons_append]

def values (entries : List (String × Entry)) : List (String × Toml) := entries.map fun entry => (entry.1, entry.2.toml)

theorem lookup_values {entries : List (String × Entry)} {entry : Entry} (found : entries.lookup name = some entry) :
    (values entries).lookup name = some entry.toml := by
  induction entries with
  | nil => cases found
  | cons first entries ih =>
    rw [values, List.map_cons, List.lookup_cons] at *
    split
    next same =>
      rw [same] at found
      cases found
      rfl
    next other =>
      rw [other] at found
      exact ih found

theorem finished_members (entries : List (String × Entry)) : finished (entries.map member) = values entries := by
  induction entries with
  | nil => rw [List.map_nil, finished, values, List.map_nil]
  | cons entry entries ih =>
    rw [List.map_cons, finished, ih, member, finishedMember, Node.toToml]
    rfl

end SlotServe.Toml
