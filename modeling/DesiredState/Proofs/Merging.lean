import DesiredState.Proofs.Row

/-! Merging one row into another, also where it fails. Both rows are read before anything is written,
and each value goes to the slot that it has been read from; the first slot that is rejected ends the
merge, and what has been written by then stays. -/
namespace DesiredState

section
variable {α : Type} [Preorder α] {l as bs : List α} {a b : α}

lemma lt_of_ascending_split (hascend : (as ++ a :: bs).Pairwise (· < ·)) :
    (∀ b ∈ as, b < a) ∧ ∀ b ∈ a :: bs, ¬b < a := by
  obtain ⟨-, hrest, hbefore⟩ := List.pairwise_append.1 hascend
  refine ⟨fun b hb => hbefore b hb a (.head _), fun b hb => ?_⟩
  rcases List.mem_cons.1 hb with rfl | hb
  · exact lt_irrefl b
  · exact (List.rel_of_pairwise_cons hrest hb).not_gt

lemma mem_before_iff (hsplit : l = as ++ a :: bs) (hascend : l.Pairwise (· < ·)) :
    b ∈ as ↔ b ∈ l ∧ b < a := by
  subst hsplit
  obtain ⟨hbefore, hafter⟩ := lt_of_ascending_split hascend
  refine ⟨fun hb => ⟨List.mem_append_left _ hb, hbefore b hb⟩, fun ⟨hb, hlt⟩ => ?_⟩
  exact (List.mem_append.1 hb).resolve_right fun hb => hafter b hb hlt

lemma countP_lt_of_split [DecidableLT α] (hascend : (as ++ a :: bs).Pairwise (· < ·)) :
    (as ++ a :: bs).countP (· < a) = as.length := by
  obtain ⟨hbefore, hafter⟩ := lt_of_ascending_split hascend
  rw [List.countP_append, List.countP_eq_length.2 fun b hb => decide_eq_true (hbefore b hb),
    List.countP_eq_zero.2 fun b hb => by simpa using hafter b hb, Nat.add_zero]

end

namespace Outcome
variable {ε σ β γ : Type} {act : β → σ → Outcome ε σ} {as bs : List β} {b : β} {s t u : σ} {e : ε}

lemma walk_map (act : β → σ → Outcome ε σ) (f : γ → β) (cs : List γ) (s : σ) :
    walk act (cs.map f) s = walk (fun c => act (f c)) cs s := by
  induction cs generalizing s with
  | nil => rfl
  | cons c cs ih =>
    rw [List.map_cons, walk, walk]
    rcases act (f c) s with ⟨t, _ | e⟩
    · exact ih t
    · rfl

/-- A walk that fails has got to the end of what comes before the element at which it fails. -/
lemma exists_split_of_failed (h : walk act bs s = ⟨t, some e⟩) :
    ∃ as b cs u, bs = as ++ b :: cs ∧ walk act as s = ⟨u, none⟩ ∧ act b u = ⟨t, some e⟩ := by
  induction bs generalizing s with
  | nil => cases h
  | cons b bs ih =>
    rcases hact : act b s with ⟨u, _ | e'⟩
    · rw [walk_cons_of_done bs hact] at h
      obtain ⟨as, c, cs, v, rfl, hwalk, hfailed⟩ := ih h
      exact ⟨b :: as, c, cs, v, rfl, (walk_cons_of_done as hact).trans hwalk, hfailed⟩
    · rw [walk_cons_of_failed bs hact] at h
      exact ⟨[], b, bs, s, rfl, rfl, hact.trans h⟩

lemma walk_of_split (hwalk : walk act as s = ⟨u, none⟩) (hact : act b u = ⟨t, some e⟩)
    (cs : List β) : walk act (as ++ b :: cs) s = ⟨t, some e⟩ := by
  rw [walk_append, hwalk]
  exact walk_cons_of_failed cs hact

end Outcome

lemma FieldType.inField_of_read {type : FieldType} {v : Value} {e : SchemaError}
    (h : type.read v = .error e) (name : String) : e.inField name = .field name e := by
  induction type with
  | any => cases h
  | optional type ih =>
    have inner (hread : (type.read v).map some = .error e) : e.inField name = .field name e := by
      cases hb : type.read v with
      | ok b => rw [hb] at hread; cases hread
      | error e' => rw [hb] at hread; cases hread; exact ih hb
    cases v with
    | null => cases h
    | _ => exact inner h
  | int32 =>
    cases v with
    | integer i =>
      rw [read] at h
      split at h <;> cases h
      rfl
    | _ => cases h; rfl
  | uint32 =>
    cases v with
    | integer i =>
      rw [read] at h
      split at h <;> cases h
      rfl
    | _ => cases h; rfl
  | _ => cases v <;> cases h <;> rfl

namespace Column
variable {c : Column} {v : Value} {e : SchemaError}

lemma accepts_iff : c.accepts v = true ↔ ∃ a, c.type.read v = .ok a := by
  rw [accepts, accept, FieldType.accept]
  cases c.type.read v <;> simp [Except.map, Except.mapError, Except.isOk, Except.toBool]

lemma accept_eq_error_iff :
    c.accept v = .error e ↔ ∃ source, c.type.read v = .error source ∧ e = .field c.name source := by
  rw [accept, FieldType.accept]
  cases hread : c.type.read v with
  | ok a => simp [Except.map, Except.mapError]
  | error source =>
    simp [Except.map, Except.mapError, FieldType.inField_of_read hread, eq_comm]

end Column

namespace Table
variable {t : Table} {stored desired row : t.Row} {e : SchemaError}

lemma pairwise_compared (t : Table) : t.compared.Pairwise (· < ·) :=
  (List.pairwise_lt_finRange t.width).filter _

/-- Whether merging a row fails with an error: that of the first compared column that rejects its slot
of the row. -/
def Refuses (t : Table) (desired : t.Row) (e : SchemaError) : Prop :=
  ∃ as i bs, t.compared = as ++ i :: bs ∧
    (∀ j ∈ as, (t.column j).accepts (get desired j) = true) ∧
    (t.column i).accept (get desired i) = .error e

lemma write_eq_error_iff {i : Fin t.width} {v : Value} :
    t.write row i v = .error e ↔ (t.column i).accept v = .error e := by
  rw [write]
  cases (t.column i).accept v <;> simp [Except.map]

/-- Copying that fails does so at the first slot that is rejected, and leaves what copying the slots
before has made. -/
lemma copy_of_failed {columns : List (Fin t.width)}
    (h : t.copy desired columns stored = ⟨row, some e⟩) :
    ∃ as i bs, columns = as ++ i :: bs ∧ t.copy desired as stored = ⟨row, none⟩ ∧
      (t.column i).accept (get desired i) = .error e := by
  obtain ⟨as, i, bs, u, hsplit, hcopy, hfailed⟩ := Outcome.exists_split_of_failed h
  cases hwrite : t.write u i (get desired i) with
  | ok row => simp [hwrite] at hfailed
  | error e' =>
    simp only [hwrite, Outcome.mk.injEq, Option.some.injEq] at hfailed
    obtain ⟨rfl, rfl⟩ := hfailed
    exact ⟨as, i, bs, hsplit, hcopy, write_eq_error_iff.1 hwrite⟩

lemma refuses_of_merge (h : t.policy.merge stored desired = ⟨row, some e⟩) :
    t.Refuses desired e := by
  obtain ⟨as, i, bs, hsplit, hcopy, hrejects⟩ := copy_of_failed h
  refine ⟨as, i, bs, hsplit, (error?_copy_eq_none_iff desired as stored).1 ?_, hrejects⟩
  exact congrArg Outcome.error? hcopy

/-- The fields of two rows side by side, without those that are ignored. -/
def pairedFields (t : Table) (stored desired : t.Row) : List (Field × Field) :=
  ((t.fields stored).zip (t.fields desired)).filter fun p => !p.1.column.ignored

lemma pairedFields_eq_map (stored desired : t.Row) :
    t.pairedFields stored desired = t.compared.map fun i =>
      (⟨i, t.column i, get stored i⟩, ⟨i, t.column i, get desired i⟩) := by
  rw [pairedFields, fields, fields, List.zip_map', List.filter_map]
  rfl

/-- Merging field by field: what one row has at an index is written at the index of the other. -/
def mergeFields (t : Table) (stored desired : t.Row) : Outcome SchemaError t.Row :=
  if (t.fields stored).length ≠ (t.fields desired).length then
    ⟨stored, some (.fieldCount (t.fields stored).length (t.fields desired).length)⟩
  else
    Outcome.walk
      (fun p row =>
        match t.set row p.1.index p.2.value with
        | .ok row => ⟨row, none⟩
        | .error e => ⟨row, some e⟩)
      (t.pairedFields stored desired) stored

/-- Two rows have the same fields, and no index is out of the table. -/
theorem mergeFields_eq_merge (stored desired : t.Row) :
    t.mergeFields stored desired = t.policy.merge stored desired := by
  have hlength (row : t.Row) : (t.fields row).length = t.indices.length := List.length_map _
  have hset (row : t.Row) (i : Fin t.width) (v : Value) : t.set row i v = t.write row i v :=
    dif_pos i.isLt
  rw [mergeFields, if_neg (by simp [hlength]), pairedFields_eq_map, Outcome.walk_map]
  simp only [hset]
  rfl

/-- A row that a merge has made. -/
structure Merged (t : Table) (stored desired row : t.Row) : Prop where
  taken : ∀ i, (t.column i).ignored = false → get row i = get desired i
  kept : ∀ i, (t.column i).ignored = true → get row i = get stored i
  again : t.policy.merge row desired = ⟨row, none⟩
  equals_iff : t.policy.equals row desired = true ↔
    ∀ i, (t.column i).ignored = false → (get desired i).isNaN = false

/-- A row that a merge has left when it failed, at a column that is the first one to reject its slot. -/
structure HalfMerged (t : Table) (stored desired row : t.Row) (e : SchemaError) (i : Fin t.width) :
    Prop where
  compared : (t.column i).ignored = false
  error_eq : ∃ source, (t.column i).type.read (get desired i) = .error source ∧
    e = .field (t.column i).name source
  accepted : ∀ j < i, (t.column j).ignored = false →
    ∃ a, (t.column j).type.read (get desired j) = .ok a
  slots : ∀ j, get row j =
    if j < i ∧ (t.column j).ignored = false then get desired j else get stored j

lemma merged_of_merge (h : t.policy.merge stored desired = ⟨row, none⟩) :
    t.Merged stored desired row := by
  obtain ⟨haccepts, rfl⟩ := merge_eq_done_iff.1 h
  have hagree (i) (hi : i ∈ t.compared) := get_overlay_of_compared stored desired hi
  refine ⟨fun i hi => hagree i (mem_compared.2 hi), fun i hi => ?_, ?_, ?_⟩
  · rw [get_overlay, if_pos hi]
  · exact merge_eq_done_iff.2 ⟨haccepts, (overlay_eq_self hagree).symm⟩
  · rw [policy_equals_of_agree hagree, Bool.not_eq_true', holdsNaN_eq_false_iff]
    simp only [mem_compared]

lemma halfMerged_of_merge (h : t.policy.merge stored desired = ⟨row, some e⟩) :
    ∃ i, t.HalfMerged stored desired row e i := by
  obtain ⟨as, i, bs, hsplit, hcopy, hrejects⟩ := copy_of_failed h
  have hmem (j) : j ∈ as ↔ j < i ∧ (t.column j).ignored = false := by
    rw [mem_before_iff hsplit t.pairwise_compared, mem_compared, and_comm]
  have hdone := congrArg Outcome.error? hcopy
  have hstate : (t.copy desired as stored).state = row := congrArg Outcome.state hcopy
  have hnodup : as.Nodup := by
    have hcompared : t.compared.Nodup := nodup_indices.filter _
    rw [hsplit] at hcompared
    exact hcompared.of_append_left
  refine ⟨i, mem_compared.1 (by simp [hsplit]), Column.accept_eq_error_iff.1 hrejects,
    fun j hj hcompared => ?_, fun j => ?_⟩
  · exact Column.accepts_iff.1
      ((error?_copy_eq_none_iff desired as stored).1 hdone j ((hmem j).2 ⟨hj, hcompared⟩))
  · rw [← hstate]
    split
    · next hj => exact get_copy_of_mem hnodup hdone ((hmem j).2 hj)
    · next hj => exact get_copy_of_notMem desired (mt (hmem j).1 hj) stored

/-- Merging one row into another. It does what merging field by field does, and succeeds exactly if
each column that is not ignored accepts its slot of the desired row. Where it succeeds, it takes these
slots and keeps the others; merging again changes nothing, and the rows are equal unless the desired one
holds a real number that is no number. Where it fails, it does so at the first column that rejects its
slot, with what the type of the column finds wrong; the slots before have been taken and all others
kept. -/
theorem merge_faithful (t : Table) (stored desired : t.Row) :
    let out := t.policy.merge stored desired
    t.mergeFields stored desired = out ∧
    (out.error? = none ↔ ∀ i, (t.column i).ignored = false →
      ∃ a, (t.column i).type.read (get desired i) = .ok a) ∧
    (out.error? = none → t.Merged stored desired out.state) ∧
    ∀ e, out.error? = some e → ∃ i, t.HalfMerged stored desired out.state e i := by
  intro out
  have hdone : out.error? = none ↔ ∀ i ∈ t.compared, (t.column i).accepts (get desired i) = true :=
    error?_copy_eq_none_iff desired t.compared stored
  refine ⟨mergeFields_eq_merge stored desired, ?_, fun h => merged_of_merge ?_,
    fun e h => halfMerged_of_merge ?_⟩
  · simpa only [mem_compared, Column.accepts_iff] using hdone
  · exact congrArg (Outcome.mk out.state) h
  · exact congrArg (Outcome.mk out.state) h

end Table
end DesiredState
