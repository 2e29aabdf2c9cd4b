import DesiredState.Proofs.Merging

/-! Writing slots of a row one after another, where a write that is refused does not keep the next ones
from being made. How a write ends can be told from the write alone, and what a slot holds in the end from
the writes for it that have been taken. Records with typed fields behave as the rows that are read of
them. -/
namespace DesiredState

namespace Outcome
variable {ε σ τ β : Type}

/-- Acts for each of a list in turn, also after errors. It is kept how each action has ended. -/
def each (act : β → σ → Outcome ε σ) : List β → σ → List (Option ε) × σ
  | [], s => ([], s)
  | b :: bs, s =>
    let out := act b s
    let rest := each act bs out.state
    (out.error? :: rest.1, rest.2)

/-- Actions on what is seen of a state are seen of the actions on the state. -/
lemma each_view {act : β → σ → Outcome ε σ} {act' : β → τ → Outcome ε τ} {view : σ → τ}
    (h : ∀ b s, act' b (view s) = ⟨view (act b s).state, (act b s).error?⟩) (bs : List β) (s : σ) :
    each act' bs (view s) = ((each act bs s).1, view (each act bs s).2) := by
  induction bs generalizing s with
  | nil => rfl
  | cons b bs ih => simp only [each, h, ih]

end Outcome

namespace Table
variable {t : Table} {i : Fin t.width} {v : Value} {e : SchemaError}

/-- Writes the slot at an index. A write that is refused leaves the row as it was. -/
def attempt (t : Table) (w : Nat × Value) (row : t.Row) : Outcome SchemaError t.Row :=
  match t.set row w.1 w.2 with
  | .ok row => ⟨row, none⟩
  | .error e => ⟨row, some e⟩

/-- What is wrong with a write: the table ends before its index, or the column there rejects its value. -/
def fault? (t : Table) (w : Nat × Value) : Option SchemaError :=
  if h : w.1 < t.width then
    match (t.column ⟨w.1, h⟩).type.read w.2 with
    | .ok _ => none
    | .error source => some (.field (t.column ⟨w.1, h⟩).name source)
  else some (.noColumn w.1 t.width)

/-- The last value for an index among the writes that nothing is wrong with. -/
def lastTaken (t : Table) (writes : List (Nat × Value)) (index : Nat) : Option Value :=
  ((writes.filter fun w => w.1 = index ∧ t.fault? w = none).getLast?).map (·.2)

lemma set_of_lt (row : t.Row) (i : Fin t.width) (v : Value) : t.set row i v = t.write row i v :=
  dif_pos i.isLt

lemma set_eq_error_iff {row : t.Row} : t.set row i v = .error e ↔
    ∃ source, (t.column i).type.read v = .error source ∧ e = .field (t.column i).name source := by
  rw [set_of_lt, write_eq_error_iff, Column.accept_eq_error_iff]

lemma set_eq_noColumn_iff {row : t.Row} {index : Nat} :
    t.set row index v = .error (.noColumn index t.width) ↔ t.width ≤ index := by
  by_cases h : index < t.width
  · refine iff_of_false (fun hset => ?_) (by omega)
    obtain ⟨source, -, hfield⟩ := (set_eq_error_iff (i := ⟨index, h⟩)).1 hset
    cases hfield
  · rw [set, dif_neg h]
    exact iff_of_true rfl (by omega)

lemma set_eq_ok_iff {row row' : t.Row} :
    t.set row i v = .ok row' ↔ (∃ a, (t.column i).type.read v = .ok a) ∧ row' = put row i v := by
  rw [set_of_lt, write_eq_ok_iff, Column.accepts_iff]

lemma get_setIfInBounds (row : t.Row) (index : Nat) (v : Value) (i : Fin t.width) :
    get (row.setIfInBounds index v) i = if index = i then v else get row i := by
  simp [get, Vector.getElem_setIfInBounds]

lemma put_eq_setIfInBounds (row : t.Row) (i : Fin t.width) (v : Value) :
    put row i v = row.setIfInBounds i v := by
  refine row_ext fun j => ?_
  rw [get_put, get_setIfInBounds]
  exact if_congr Fin.ext_iff rfl rfl

lemma attempt_eq (w : Nat × Value) (row : t.Row) : t.attempt w row =
    ⟨if t.fault? w = none then row.setIfInBounds w.1 w.2 else row, t.fault? w⟩ := by
  obtain ⟨index, v⟩ := w
  by_cases h : index < t.width
  · cases hread : (t.column ⟨index, h⟩).type.read v with
    | ok a =>
      have hset : t.set row index v = .ok (put row ⟨index, h⟩ v) := set_eq_ok_iff.2 ⟨⟨a, hread⟩, rfl⟩
      simp [attempt, fault?, h, hread, hset, put_eq_setIfInBounds]
    | error source =>
      have hset : t.set row index v = .error (.field (t.column ⟨index, h⟩).name source) :=
        set_eq_error_iff.2 ⟨source, hread, rfl⟩
      simp [attempt, fault?, h, hread, hset]
  · have hset : t.set row index v = .error (.noColumn index t.width) :=
      set_eq_noColumn_iff.2 (Nat.le_of_not_lt h)
    simp [attempt, fault?, h, hset]

lemma lastTaken_cons (w : Nat × Value) (writes : List (Nat × Value)) (index : Nat) (v : Value) :
    (t.lastTaken (w :: writes) index).getD v = (t.lastTaken writes index).getD
      (if w.1 = index ∧ t.fault? w = none then w.2 else v) := by
  by_cases h : w.1 = index ∧ t.fault? w = none
  · have hfilter : (w :: writes).filter (fun w => w.1 = index ∧ t.fault? w = none) =
        w :: writes.filter fun w => w.1 = index ∧ t.fault? w = none :=
      List.filter_cons_of_pos (decide_eq_true h)
    rw [if_pos h, lastTaken, hfilter, List.getLast?_cons, lastTaken]
    cases List.getLast? _ <;> rfl
  · have hfilter : (w :: writes).filter (fun w => w.1 = index ∧ t.fault? w = none) =
        writes.filter fun w => w.1 = index ∧ t.fault? w = none :=
      List.filter_cons_of_neg (by simpa using h)
    rw [if_neg h, lastTaken, hfilter, lastTaken]

/-- After any writes a slot holds the last value that was taken for it. -/
theorem get_each (writes : List (Nat × Value)) (row : t.Row) (i : Fin t.width) :
    get (Outcome.each t.attempt writes row).2 i = (t.lastTaken writes i).getD (get row i) := by
  induction writes generalizing row with
  | nil => rfl
  | cons w writes ih =>
    have hslot : get (t.attempt w row).state i =
        if w.1 = i ∧ t.fault? w = none then w.2 else get row i := by
      rw [attempt_eq]
      by_cases hfault : t.fault? w = none <;> simp [hfault, get_setIfInBounds]
    rw [lastTaken_cons, ← hslot]
    exact ih _

lemma each_results (writes : List (Nat × Value)) (row : t.Row) :
    (Outcome.each t.attempt writes row).1 = writes.map t.fault? := by
  induction writes generalizing row with
  | nil => rfl
  | cons w writes ih =>
    simp only [Outcome.each, List.map_cons, ih]
    rw [attempt_eq]

lemma lastTaken_filter (writes : List (Nat × Value)) (index : Nat) :
    t.lastTaken (writes.filter (·.1 = index)) index = t.lastTaken writes index := by
  rw [lastTaken, lastTaken, List.filter_filter]
  congr 3
  funext w
  by_cases hw : w.1 = index <;> simp [hw]

/-- A record as it is held: in each field there is what the type of its column says. -/
structure Record (t : Table) where
  field : (i : Fin t.width) → (t.column i).type.Carrier

namespace Record

def row (r : t.Record) : t.Row := Vector.ofFn fun i => (t.column i).type.write (r.field i)

/-- Puts into the field at an index what is read from a value. A value that cannot be read leaves the
record as it was. -/
def attempt (w : Nat × Value) (r : t.Record) : Outcome SchemaError t.Record :=
  if h : w.1 < t.width then
    match (t.column ⟨w.1, h⟩).type.read w.2 with
    | .ok a => ⟨⟨Function.update r.field ⟨w.1, h⟩ a⟩, none⟩
    | .error e => ⟨r, some (e.inField (t.column ⟨w.1, h⟩).name)⟩
  else ⟨r, some (.noColumn w.1 t.width)⟩

lemma row_update (r : t.Record) {a : (t.column i).type.Carrier}
    (hread : (t.column i).type.read v = .ok a) :
    row ⟨Function.update r.field i a⟩ = put r.row i v := by
  refine row_ext fun j => ?_
  rw [get_put]
  by_cases hj : i = j
  · subst hj
    simp [row, get, FieldType.write_of_read hread]
  · simp [row, get, hj, Function.update_of_ne (Ne.symm hj)]

lemma attempt_row (w : Nat × Value) (r : t.Record) :
    t.attempt w r.row = ⟨(r.attempt w).state.row, (r.attempt w).error?⟩ := by
  obtain ⟨index, v⟩ := w
  rw [attempt_eq]
  by_cases h : index < t.width
  · cases hread : (t.column ⟨index, h⟩).type.read v with
    | ok a => simp [fault?, attempt, h, hread, row_update r hread, put_eq_setIfInBounds]
    | error source => simp [fault?, attempt, h, hread, FieldType.inField_of_read hread]
  · simp [fault?, attempt, h]

end Record

/-- Writes to the slots of a row, one after another. A write is refused with the index and the length of
the table exactly if the index is not below the length, and else with what the type of the column finds
wrong with the value, under the name of the column; in all other cases it is taken. A write that is
refused changes nothing. In the end each slot holds the last value that was taken for it, or what it held
at the start. So what counts is the order of the writes for each index, and not that of writes for
different ones. All this holds of records with typed fields, by what is read of them. -/
theorem fields_each (t : Table) :
    (∀ (row : t.Row) index v, t.set row index v = .error (.noColumn index t.width) ↔ t.width ≤ index) ∧
    (∀ (row : t.Row) (i : Fin t.width) v e, t.set row i v = .error e ↔
      ∃ source, (t.column i).type.read v = .error source ∧ e = .field (t.column i).name source) ∧
    (∀ (row : t.Row) (i : Fin t.width) v, (∃ row', t.set row i v = .ok row') ↔
      ∃ a, (t.column i).type.read v = .ok a) ∧
    (∀ w (row : t.Row), (t.attempt w row).error? ≠ none → (t.attempt w row).state = row) ∧
    (∀ writes (row : t.Row),
      (Outcome.each t.attempt writes row).1 = writes.map t.fault? ∧
      t.fields (Outcome.each t.attempt writes row).2 =
        t.indices.map fun i => ⟨i, t.column i, (t.lastTaken writes i).getD (get row i)⟩) ∧
    (∀ as bs : List (Nat × Value),
      (∀ index, as.filter (·.1 = index) = bs.filter (·.1 = index)) → ∀ row : t.Row,
        (Outcome.each t.attempt as row).2 = (Outcome.each t.attempt bs row).2) ∧
    ∀ writes (r : t.Record), Outcome.each t.attempt writes r.row =
      ((Outcome.each Record.attempt writes r).1, (Outcome.each Record.attempt writes r).2.row) := by
  refine ⟨fun row index v => set_eq_noColumn_iff, fun row i v e => set_eq_error_iff,
    fun row i v => ?_, fun w row h => ?_, fun writes row => ⟨each_results writes row, ?_⟩,
    fun as bs h row => ?_, fun writes r => ?_⟩
  · simp only [set_eq_ok_iff, exists_and_left, exists_eq, and_true]
  · rw [attempt_eq] at h ⊢
    exact if_neg h
  · simp only [fields, get_each]
  · refine row_ext fun i => ?_
    rw [get_each, get_each, ← lastTaken_filter as, ← lastTaken_filter bs, h]
  · exact Outcome.each_view (fun w r => Record.attempt_row w r) writes r

end Table
end DesiredState
