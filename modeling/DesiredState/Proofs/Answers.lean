import DesiredState.Proofs.AbortLaw
import DesiredState.Proofs.Agenda

/-! What a store answers to writes, kept or refused. A write reaches the row of its own key alone, and
a refused one reaches no row. Numbers are given out one after another, and an insertion that fails at
some column has used up those of the columns before. -/
namespace DesiredState

namespace Store
variable {table : Table}

/-- How many of some columns in turn accept the numbers from a number on, up to the first that does
not. -/
def taking (table : Table) : List (Fin table.width) → Int64 → Nat
  | [], _ => 0
  | i :: columns, n =>
    if (table.column i).accepts (.integer n) then taking table columns (n + 1) + 1 else 0

/-- Whether the assigned columns of a new row all accept the numbers from a number on. -/
def Admits (table : Table) (n : Int64) : Prop := taking table (assigned table) n = span table

/-- Numbering uses up a number for each column that it gets to, and gets through if that is all of
them. -/
lemma walk_assign_taking (columns : List (Fin table.width)) (n : Numbering table) :
    let out := Outcome.walk Numbering.assign columns n
    out.state.nextId = n.nextId + Int64.ofNat (taking table columns n.nextId) ∧
      (out.error? = none ↔ taking table columns n.nextId = columns.length) := by
  induction columns generalizing n with
  | nil => exact ⟨(Int64.add_zero n.nextId).symm, iff_of_true rfl rfl⟩
  | cons i columns ih =>
    by_cases h : (table.column i).accepts (.integer n.nextId) = true
    · have hassign := assign_eq_done_iff.2 ⟨h, rfl⟩
      obtain ⟨hnext, hdone⟩ := ih ⟨Table.put n.row i (.integer n.nextId), n.nextId + 1⟩
      rw [Outcome.walk_cons_of_done columns hassign, taking, if_pos h]
      exact ⟨hnext.trans (add_one_add_ofNat _ _), hdone.trans Nat.succ_inj.symm⟩
    · -- A number that is rejected stays the next one.
      cases hwrite : table.write n.row i (.integer n.nextId) with
      | ok row => exact absurd (Table.write_eq_ok_iff.1 hwrite).1 h
      | error e =>
        have hassign : n.assign i = ⟨n, some e⟩ := by rw [Numbering.assign, hwrite]
        rw [Outcome.walk_cons_of_failed columns hassign, taking, if_neg h]
        exact ⟨(Int64.add_zero n.nextId).symm, by simp⟩

lemma nextId_number (row : table.Row) (n : Int64) :
    (number row n).state.nextId = n + Int64.ofNat (taking table (assigned table) n) :=
  (walk_assign_taking (assigned table) ⟨row, n⟩).1

lemma error?_number_eq_none_iff (row : table.Row) (n : Int64) :
    (number row n).error? = none ↔ Admits table n :=
  (walk_assign_taking (assigned table) ⟨row, n⟩).2

end Store

/-- Whether a write is refused for its key, as being there already or as not being there. -/
def StoreError.concernsKey : StoreError → Bool
  | duplicate _ _ => true
  | notFound _ _ => true
  | model _ => false

/-- Whether a write has the key that its kind asks for: one that is free if it is an insertion, and
else one that is there. -/
def Write.Suits (schema : Schema) (s : Store schema.table) (w : Write schema.table.Row) : Prop :=
  s.get? (schema.key w.record) = none ↔ w.kind = .insert

/-- How many numbers a store gives out for a write, whether it keeps it or not. -/
def Write.taken (schema : Schema) (s : Store schema.table) : Write schema.table.Row → Nat
  | insert row =>
    if s.config.strict && s.rows.contains (schema.key row) then 0
    else Store.taking schema.table (Store.assigned schema.table) s.nextId
  | update _ => 0
  | delete _ => 0

namespace Store
variable {schema : Schema} {s t : Store schema.table} {w : Write schema.table.Row}

/-- What a store can answer to a write. If it is strict, it refuses one that has not the key for it. It
refuses an insertion if some column rejects its number, and has used up the numbers before. It keeps all
others. -/
inductive Answered (schema : Schema) (s : Store schema.table) (w : Write schema.table.Row) :
    Reply StoreError (Store schema.table) → Prop
  | unsuited {e} (hstrict : s.config.strict = true) (hsuits : ¬w.Suits schema s)
    (hkey : e.concernsKey = true) : Answered schema s w ⟨s, some e, []⟩
  | unnumbered {row n source} (hw : w = .insert row)
    (hsuits : s.config.strict = true → w.Suits schema s)
    (hnumber : number row s.nextId = ⟨n, some source⟩) :
    Answered schema s w ⟨{ s with nextId := n.nextId }, some (.model source), []⟩
  | kept {events} (hsuits : s.config.strict = true → w.Suits schema s)
    (hnumber : ∀ row, w = .insert row → (number row s.nextId).error? = none) :
    Answered schema s w ⟨written schema w s, none, events⟩

lemma contains_iff {k : String} : s.rows.contains k = true ↔ s.get? k ≠ none :=
  Option.isSome_iff_ne_none

lemma suits_insert_iff {row : schema.table.Row} :
    (Write.insert row).Suits schema s ↔ ¬s.rows.contains (schema.key row) = true := by
  rw [contains_iff, not_not]
  exact iff_true_right rfl

lemma suits_iff_contains (hkind : w.kind ≠ .insert) :
    w.Suits schema s ↔ s.rows.contains (schema.key w.record) = true := by
  rw [contains_iff]
  exact iff_false_right hkind

lemma answered_unless_missing {e : StoreError} {events : List Event} (hkind : w.kind ≠ .insert)
    (hkey : e.concernsKey = true) :
    Answered schema s w (if s.config.strict && !s.rows.contains (schema.key w.record)
      then ⟨s, some e, []⟩ else ⟨written schema w s, none, events⟩) := by
  have hsuits : w.Suits schema s ↔ s.rows.contains (schema.key w.record) = true :=
    suits_iff_contains hkind
  split
  · next h =>
    obtain ⟨hstrict, hmissing⟩ := Bool.and_eq_true_iff.1 h
    exact .unsuited hstrict (fun hs => by simp [hsuits.1 hs] at hmissing) hkey
  · next h =>
    refine .kept (fun hstrict => hsuits.2 (by simpa [hstrict] using h)) ?_
    rintro row rfl
    exact absurd rfl hkind

theorem answered (w : Write schema.table.Row) (s : Store schema.table) :
    Answered schema s w ((backend schema).answer w s) := by
  cases w with
  | insert row =>
    simp only [backend, insert]
    split
    · next h =>
      obtain ⟨hstrict, hthere⟩ := Bool.and_eq_true_iff.1 h
      exact .unsuited hstrict (fun hs => suits_insert_iff.1 hs hthere) rfl
    · next h =>
      have hsuits (hstrict : s.config.strict = true) : (Write.insert row).Suits schema s :=
        suits_insert_iff.2 fun hthere => h (Bool.and_eq_true_iff.2 ⟨hstrict, hthere⟩)
      rcases hn : number row s.nextId with ⟨n, _ | source⟩
      · obtain rfl := eq_of_number hn
        refine .kept hsuits ?_
        rintro _ ⟨⟩
        rw [hn]
      · exact .unnumbered rfl hsuits hn
  | update row =>
    have hkept : s.keep .update (schema.key row) (s.rows.insert (schema.key row) row) s.nextId =
        ⟨written schema (.update row) s, none, [.kept .update schema.table.name (schema.key row)]⟩ := by
      simp [keep, written, Write.filed, Write.used, Write.kind, Write.record]
    simp only [backend, update, hkept]
    exact answered_unless_missing (by simp [Write.kind]) rfl
  | delete row =>
    have hkept : s.keep .delete (schema.key row) (s.rows.erase (schema.key row)) s.nextId =
        ⟨written schema (.delete row) s, none, [.kept .delete schema.table.name (schema.key row)]⟩ := by
      simp [keep, written, Write.filed, Write.used, Write.kind, Write.record]
    simp only [backend, delete, hkept]
    exact answered_unless_missing (by simp [Write.kind]) rfl

lemma suits_of_kept (hstrict : s.config.strict = true)
    (h : ((backend schema).answer w s).error? = none) : w.Suits schema s := by
  have hreply := answered w s
  generalize (backend schema).answer w s = reply at h hreply
  cases hreply with
  | unsuited => cases h
  | unnumbered => cases h
  | kept hsuits => exact hsuits hstrict

lemma answer_of_concernsKey {e : StoreError} (h : ((backend schema).answer w s).error? = some e)
    (hkey : e.concernsKey = true) : ((backend schema).answer w s).state = s := by
  have hreply := answered w s
  generalize (backend schema).answer w s = reply at h hreply ⊢
  cases hreply with
  | unsuited => rfl
  | unnumbered => cases h; cases hkey
  | kept => cases h

lemma concernsKey_eq_false {e : StoreError} (hlenient : s.config.strict = false)
    (h : ((backend schema).answer w s).error? = some e) : e.concernsKey = false := by
  have hreply := answered w s
  generalize (backend schema).answer w s = reply at h hreply
  cases hreply with
  | unsuited hstrict => simp [hlenient] at hstrict
  | unnumbered => cases h; rfl
  | kept => cases h

lemma answer_insert_iff {row : schema.table.Row} (h : s.get? (schema.key row) = none) :
    ((backend schema).answer (.insert row) s).error? = none ↔ Admits schema.table s.nextId := by
  have hfree : s.rows.contains (schema.key row) = false :=
    Option.isSome_eq_false_iff.2 (Option.isNone_iff_eq_none.2 h)
  rw [← error?_number_eq_none_iff row]
  simp only [backend, insert, hfree, Bool.and_false, Bool.false_eq_true, if_false]
  rcases number row s.nextId with ⟨n, _ | e⟩ <;> simp [keep]

lemma answer_delete {row : schema.table.Row} (h : s.get? (schema.key row) ≠ none) :
    ((backend schema).answer (.delete row) s).error? = none := by
  have hcontains : s.rows.contains (schema.key row) = true := Option.isSome_iff_ne_none.2 h
  simp [backend, delete, hcontains, keep]

/-- Where what is to be inserted is free, and what is not is there, only numbers can be refused. -/
lemma answer_eq_none_iff (h : s.get? (schema.key w.record) = none ↔ w.kind = .insert) :
    ((backend schema).answer w s).error? = none ↔
      (w.kind = .insert → Admits schema.table s.nextId) := by
  cases w with
  | insert row =>
    have hfree : s.get? (schema.key row) = none := h.2 rfl
    rw [answer_insert_iff hfree]
    exact ⟨fun h _ => h, fun h => h rfl⟩
  | update row => exact iff_of_true (answer_update fun hnone => nomatch h.1 hnone) fun hk => nomatch hk
  | delete row => exact iff_of_true (answer_delete fun hnone => nomatch h.1 hnone) fun hk => nomatch hk

lemma taken_of_unsuited (hstrict : s.config.strict = true) (h : ¬w.Suits schema s) :
    w.taken schema s = 0 := by
  cases w with
  | insert row =>
    have hthere := not_not.1 fun hfree => h (suits_insert_iff.2 hfree)
    rw [Write.taken, if_pos (Bool.and_eq_true_iff.2 ⟨hstrict, hthere⟩)]
  | update row => rfl
  | delete row => rfl

lemma taken_insert {row : schema.table.Row}
    (h : s.config.strict = true → (Write.insert row).Suits schema s) :
    (Write.insert row).taken schema s = taking schema.table (assigned schema.table) s.nextId := by
  rw [Write.taken, if_neg]
  intro hrefused
  obtain ⟨hstrict, hthere⟩ := Bool.and_eq_true_iff.1 hrefused
  exact suits_insert_iff.1 (h hstrict) hthere

/-- A refused write uses up numbers at most. -/
theorem answer_of_refused (h : ((backend schema).answer w s).error? ≠ none) :
    ((backend schema).answer w s).state =
      { s with nextId := s.nextId + Int64.ofNat (w.taken schema s) } := by
  have hreply := answered w s
  generalize (backend schema).answer w s = reply at h hreply ⊢
  cases hreply with
  | unsuited hstrict hsuits =>
    rw [taken_of_unsuited hstrict hsuits, show Int64.ofNat 0 = 0 from rfl, Int64.add_zero]
  | @unnumbered row n source hw hsuits hnumber =>
    subst hw
    have hnext := nextId_number row s.nextId
    rw [hnumber] at hnext
    rw [taken_insert hsuits]
    exact congrArg (fun next => { s with nextId := next }) hnext
  | kept => exact absurd rfl h

lemma taken_of_kept (h : ((backend schema).answer w s).error? = none) :
    w.taken schema s = w.used := by
  have hreply := answered w s
  generalize (backend schema).answer w s = reply at h hreply
  cases hreply with
  | unsuited => cases h
  | unnumbered => cases h
  | kept hsuits hnumber =>
    cases w with
    | insert row =>
      rw [taken_insert hsuits]
      exact (error?_number_eq_none_iff row s.nextId).1 (hnumber row rfl)
    | update row => rfl
    | delete row => rfl

lemma nextId_answer (w : Write schema.table.Row) (s : Store schema.table) :
    ((backend schema).answer w s).state.nextId =
      s.nextId + Int64.ofNat (w.taken schema s) := by
  by_cases h : ((backend schema).answer w s).error? = none
  · rw [answer_eq_written h, taken_of_kept h]
    rfl
  · rw [answer_of_refused h]

/-- A key holds what a write for it has left there, if the write was kept, and else what it held. -/
lemma get?_answer (w : Write schema.table.Row) (s : Store schema.table) (k : String) :
    ((backend schema).answer w s).state.get? k =
      if ((backend schema).answer w s).error? = none ∧ schema.key w.record = k
        then w.filed s.nextId else s.get? k := by
  by_cases h : ((backend schema).answer w s).error? = none
  · rw [answer_eq_written h, get?_written]
    simp [h]
  · rw [answer_of_refused h]
    simp [h, get?]

lemma get?_answer_of_ne {k : String} (hk : schema.key w.record ≠ k) :
    ((backend schema).answer w s).state.get? k = s.get? k := by
  rw [get?_answer, if_neg fun h => hk h.2]

lemma get?_after_of_notMem {writes : List (Write schema.table.Row)} {k : String}
    (hk : k ∉ writes.map fun w => schema.key w.record) :
    ((backend schema).after writes s).get? k = s.get? k := by
  induction writes generalizing s with
  | nil => rfl
  | cons w writes ih =>
    rw [List.map_cons, List.mem_cons, not_or] at hk
    exact (ih hk.2).trans (get?_answer_of_ne (Ne.symm hk.1))

lemma config_answer (w : Write schema.table.Row) (s : Store schema.table) :
    ((backend schema).answer w s).state.config = s.config := by
  by_cases h : ((backend schema).answer w s).error? = none
  · rw [answer_eq_written h]
    rfl
  · rw [answer_of_refused h]

lemma config_after (writes : List (Write schema.table.Row)) (s : Store schema.table) :
    ((backend schema).after writes s).config = s.config := by
  induction writes generalizing s with
  | nil => rfl
  | cons w writes ih => exact (ih _).trans (config_answer w s)

lemma Filed.answer (hkey : schema.KeyUnassigned) (hfiled : s.Filed schema)
    (w : Write schema.table.Row) : ((backend schema).answer w s).state.Filed schema := by
  by_cases h : ((backend schema).answer w s).error? = none
  · rw [answer_eq_written h]
    exact hfiled.written_of_unassigned hkey w
  · rw [answer_of_refused h]
    exact hfiled

lemma Filed.after (hkey : schema.KeyUnassigned) (hfiled : s.Filed schema)
    (writes : List (Write schema.table.Row)) : ((backend schema).after writes s).Filed schema := by
  induction writes generalizing s with
  | nil => exact hfiled
  | cons w writes ih => exact ih (hfiled.answer hkey w)

end Store
end DesiredState
