import DesiredState.Proofs.Row
import DesiredState.Proofs.Script
import DesiredState.Store

/-! What a store holds after a run. A write that is kept changes what is filed under one key, and an
insertion moves the next number on. Hence, where no key is written to twice, each key holds what the
one write for it has left there, and the number of insertions before it tells which numbers a new
row has got. -/
namespace DesiredState

namespace Outcome
variable {ε σ β : Type}

lemma walk_append_eq_done_iff {act : β → σ → Outcome ε σ} {as bs : List β} {s t : σ} :
    walk act (as ++ bs) s = ⟨t, none⟩ ↔
      ∃ u, walk act as s = ⟨u, none⟩ ∧ walk act bs u = ⟨t, none⟩ := by
  rw [walk_append]
  rcases walk act as s with ⟨u, _ | e⟩
  · simp
  · simp

lemma walk_cons_eq_done_iff {act : β → σ → Outcome ε σ} {b : β} {bs : List β} {s t : σ} :
    walk act (b :: bs) s = ⟨t, none⟩ ↔ ∃ u, act b s = ⟨u, none⟩ ∧ walk act bs u = ⟨t, none⟩ := by
  rw [walk]
  rcases act b s with ⟨u, _ | e⟩
  · simp
  · simp

end Outcome

namespace Store
variable {table : Table}

@[ext] lemma ext {s t : Store table} (hconfig : s.config = t.config)
    (hrows : ∀ k, s.get? k = t.get? k) (hnext : s.nextId = t.nextId)
    (hjournal : s.journal = t.journal) : s = t := by
  obtain ⟨config, rows, nextId, journal⟩ := s
  obtain ⟨config', rows', nextId', journal'⟩ := t
  obtain rfl : rows = rows' := KeyMap.ext hrows
  simp_all

/-- How many numbers a new row takes. -/
def span (table : Table) : Nat := (assigned table).length

/-- A row with its assigned slots numbered from a number on, in the order of the columns. -/
def numbered (row : table.Row) (n : Int64) : table.Row :=
  Vector.ofFn fun i => if (table.column i).isAssigned
    then .integer (n + Int64.ofNat ((assigned table).idxOf i)) else Table.get row i

lemma get_numbered (row : table.Row) (n : Int64) (i : Fin table.width) :
    Table.get (numbered row n) i = if (table.column i).isAssigned
      then .integer (n + Int64.ofNat ((assigned table).idxOf i)) else Table.get row i := by
  simp [Table.get, numbered]

lemma get_numbered_of_compared (row : table.Row) (n : Int64) {i : Fin table.width}
    (hi : i ∈ table.compared) : Table.get (numbered row n) i = Table.get row i := by
  have hassigned : ¬(table.column i).isAssigned = true := fun h =>
    Bool.eq_false_iff.1 (Table.mem_compared.1 hi) (Column.ignored_of_isAssigned h)
  rw [get_numbered, if_neg hassigned]

lemma mem_assigned {i : Fin table.width} :
    i ∈ assigned table ↔ (table.column i).isAssigned = true := by
  simp [assigned]

lemma nodup_assigned : (assigned table).Nodup := Table.nodup_indices.filter _

lemma assign_eq_done_iff {i : Fin table.width} {n m : Numbering table} :
    n.assign i = ⟨m, none⟩ ↔ (table.column i).accepts (.integer n.nextId) = true ∧
      m = ⟨Table.put n.row i (.integer n.nextId), n.nextId + 1⟩ := by
  rw [Numbering.assign]
  cases hwrite : table.write n.row i (.integer n.nextId) with
  | ok row =>
    obtain ⟨haccepts, rfl⟩ := Table.write_eq_ok_iff.1 hwrite
    simp [haccepts, eq_comm]
  | error e =>
    have hrejects : ¬(table.column i).accepts (.integer n.nextId) = true := fun haccepts => by
      rw [Table.write_eq_ok_iff.2 ⟨haccepts, rfl⟩] at hwrite
      cases hwrite
    simp [hrejects]

lemma add_one_add_ofNat (n : Int64) (k : Nat) : n + 1 + Int64.ofNat k = n + Int64.ofNat (k + 1) := by
  rw [Int64.add_assoc, Nat.add_comm k 1, Int64.ofNat_add]
  rfl

lemma walk_assign {columns : List (Fin table.width)} (hnodup : columns.Nodup)
    {n m : Numbering table} (h : Outcome.walk Numbering.assign columns n = ⟨m, none⟩) :
    m.nextId = n.nextId + Int64.ofNat columns.length ∧
      ∀ i, Table.get m.row i = if i ∈ columns
        then .integer (n.nextId + Int64.ofNat (columns.idxOf i)) else Table.get n.row i := by
  induction columns generalizing n with
  | nil =>
    cases h
    simp
  | cons j columns ih =>
    obtain ⟨hj, hnodup⟩ := List.nodup_cons.1 hnodup
    obtain ⟨u, hu, hwalk⟩ := Outcome.walk_cons_eq_done_iff.1 h
    obtain ⟨-, rfl⟩ := assign_eq_done_iff.1 hu
    obtain ⟨hnext, hslots⟩ := ih hnodup hwalk
    refine ⟨by rw [hnext, add_one_add_ofNat, List.length_cons], fun i => ?_⟩
    rw [hslots, Table.get_put]
    by_cases hij : j = i
    · subst hij
      simp [hj]
    · rw [if_neg hij, List.idxOf_cons_ne columns hij, add_one_add_ofNat]
      simp only [List.mem_cons, Ne.symm hij, false_or]

lemma eq_of_number {row : table.Row} {nextId : Int64} {m : Numbering table}
    (h : number row nextId = ⟨m, none⟩) :
    m = ⟨numbered row nextId, nextId + Int64.ofNat (span table)⟩ := by
  obtain ⟨hnext, hslots⟩ := walk_assign nodup_assigned h
  obtain ⟨row', nextId'⟩ := m
  obtain rfl : nextId' = _ := hnext
  obtain rfl : row' = numbered row nextId := Table.row_ext fun i => by
    rw [get_numbered, hslots i]
    exact if_congr mem_assigned rfl rfl
  rfl

end Store

namespace Write
variable {table : Table}

/-- What is filed under the key of a write afterwards, if it is kept. -/
def filed (nextId : Int64) : Write table.Row → Option table.Row
  | insert row => some (Store.numbered row nextId)
  | update row => some row
  | delete _ => none

/-- How many numbers a write uses up. -/
def used : Write table.Row → Nat
  | insert _ => Store.span table
  | update _ => 0
  | delete _ => 0

end Write

namespace Store
variable (schema : Schema)

/-- A store after a write that it has kept. -/
def written (w : Write schema.table.Row) (s : Store schema.table) : Store schema.table where
  config := s.config
  rows := match w.filed s.nextId with
    | some row => s.rows.insert (schema.key w.record) row
    | none => s.rows.erase (schema.key w.record)
  nextId := s.nextId + Int64.ofNat w.used
  journal := s.journal ++ [⟨w.kind, schema.key w.record⟩]

variable {schema}
variable {s t : Store schema.table} {w : Write schema.table.Row}

lemma get?_written (w : Write schema.table.Row) (s : Store schema.table) (k : String) :
    (written schema w s).get? k =
      if schema.key w.record = k then w.filed s.nextId else s.get? k := by
  rw [get?, written]
  cases w.filed s.nextId with
  | some row => exact KeyMap.get?_insert s.rows _ k row
  | none => exact KeyMap.get?_erase s.rows _ k

lemma insert_eq_written {row : schema.table.Row} (h : (insert schema row s).error? = none) :
    (insert schema row s).state = written schema (.insert row) s := by
  simp only [insert] at h ⊢
  split at h
  · cases h
  · next hfree =>
    rw [if_neg hfree]
    rcases hn : number row s.nextId with ⟨n, _ | e⟩
    · obtain rfl := eq_of_number hn
      rfl
    · rw [hn] at h
      cases h

lemma update_eq_written {row : schema.table.Row} (h : (update schema row s).error? = none) :
    (update schema row s).state = written schema (.update row) s := by
  simp only [update] at h ⊢
  split at h
  · cases h
  · next hthere =>
    rw [if_neg hthere]
    simp [keep, written, Write.filed, Write.used, Write.kind, Write.record]

lemma delete_eq_written {row : schema.table.Row} (h : (delete schema row s).error? = none) :
    (delete schema row s).state = written schema (.delete row) s := by
  simp only [delete] at h ⊢
  split at h
  · cases h
  · next hthere =>
    rw [if_neg hthere]
    simp [keep, written, Write.filed, Write.used, Write.kind, Write.record]

/-- A store keeps a write whole or refuses it. -/
theorem answer_eq_written (h : ((backend schema).answer w s).error? = none) :
    ((backend schema).answer w s).state = written schema w s := by
  cases w with
  | insert row => exact insert_eq_written h
  | update row => exact update_eq_written h
  | delete row => exact delete_eq_written h

lemma answer_update {row : schema.table.Row} (h : s.get? (schema.key row) ≠ none) :
    ((backend schema).answer (.update row) s).error? = none := by
  have hcontains : s.rows.contains (schema.key row) = true := Option.isSome_iff_ne_none.2 h
  simp [backend, update, hcontains, keep]

end Store

namespace Step
variable {α : Type} {schema : Schema}

/-- A step asks, if for anything, for a write of its phase, and for one that is filed under its key. -/
def Fits (schema : Schema) (step : Step schema.table.Row) : Prop :=
  ∀ w, step.call = .ok w → w.kind = step.phase.kind ∧ schema.key w.record = step.key

def entry (step : Step α) : JournalEntry := ⟨step.phase.kind, step.key⟩

/-- The numbers that the insertions among some steps use up. -/
def used (table : Table) (steps : List (Step table.Row)) : Nat :=
  (tally steps).added * Store.span table

lemma used_cons {step : Step schema.table.Row} (hfits : step.Fits schema)
    {w : Write schema.table.Row} (hw : step.call = .ok w) (steps : List (Step schema.table.Row)) :
    used schema.table (step :: steps) = w.used + used schema.table steps := by
  have hkind := (hfits w hw).1
  cases w <;> cases hphase : step.phase <;>
    simp_all [used, tally, Write.used, Write.kind, Phase.kind, Nat.add_mul, Nat.add_comm]

end Step

namespace Store
variable {schema : Schema} {s t : Store schema.table} {step : Step schema.table.Row}
  {steps : List (Step schema.table.Row)}

lemma eq_written_of_attempt (h : step.attempt (backend schema) s = ⟨t, none⟩) :
    ∃ w, step.call = .ok w ∧ t = written schema w s := by
  obtain ⟨w, hw, hnone, rfl⟩ := Step.attempt_eq_done_iff.1 h
  exact ⟨w, hw, answer_eq_written hnone⟩

/-- A run to the end uses up the numbers for its insertions, enters each step in the journal, and
leaves alone what is filed under the keys of no step. -/
structure Ran (schema : Schema) (steps : List (Step schema.table.Row))
    (s t : Store schema.table) : Prop where
  config_eq : t.config = s.config
  nextId_eq : t.nextId = s.nextId + Int64.ofNat (Step.used schema.table steps)
  journal_eq : t.journal = s.journal ++ steps.map Step.entry
  get?_eq : ∀ k, k ∉ steps.map Step.key → t.get? k = s.get? k

theorem ran_of_walk (hfits : ∀ step ∈ steps, step.Fits schema)
    (h : Outcome.walk (Step.attempt (backend schema)) steps s = ⟨t, none⟩) :
    Ran schema steps s t := by
  induction steps generalizing s with
  | nil =>
    cases h
    exact ⟨rfl, by simp [Step.used, Step.tally], (List.append_nil _).symm, fun _ _ => rfl⟩
  | cons step steps ih =>
    obtain ⟨u, hstep, hwalk⟩ := Outcome.walk_cons_eq_done_iff.1 h
    obtain ⟨w, hw, rfl⟩ := eq_written_of_attempt hstep
    obtain ⟨hkind, hkey⟩ := hfits step (.head _) w hw
    have hran := ih (fun st hst => hfits st (.tail _ hst)) hwalk
    refine ⟨hran.config_eq, ?_, ?_, fun k hk => ?_⟩
    · rw [hran.nextId_eq, Step.used_cons (hfits step (.head _)) hw, Int64.ofNat_add, ← Int64.add_assoc]
      rfl
    · rw [hran.journal_eq, written, List.map_cons, Step.entry, hkind, hkey, List.append_assoc]
      rfl
    · rw [List.map_cons, List.mem_cons, not_or] at hk
      rw [hran.get?_eq k hk.2, get?_written, if_neg (by rw [hkey]; exact Ne.symm hk.1)]

/-- Where no key has two steps, a run to the end leaves under the key of a step what its write files
there, with the numbers that come after those of the insertions before. -/
theorem get?_of_walk {as bs : List (Step schema.table.Row)}
    (hfits : ∀ st ∈ as ++ step :: bs, st.Fits schema)
    (hnodup : ((as ++ step :: bs).map Step.key).Nodup)
    (h : Outcome.walk (Step.attempt (backend schema)) (as ++ step :: bs) s = ⟨t, none⟩) :
    ∃ w, step.call = .ok w ∧
      t.get? step.key = w.filed (s.nextId + Int64.ofNat (Step.used schema.table as)) := by
  obtain ⟨u, has, hrest⟩ := Outcome.walk_append_eq_done_iff.1 h
  obtain ⟨v, hstep, hbs⟩ := Outcome.walk_cons_eq_done_iff.1 hrest
  obtain ⟨w, hw, rfl⟩ := eq_written_of_attempt hstep
  have hkey : schema.key w.record = step.key := (hfits step (by simp) w hw).2
  have hbefore := ran_of_walk (fun st hst => hfits st (by simp [hst])) has
  have hafter := ran_of_walk (fun st hst => hfits st (by simp [hst])) hbs
  have hlater : step.key ∉ bs.map Step.key := by
    rw [List.map_append, List.map_cons] at hnodup
    exact (List.nodup_cons.1 hnodup.of_append_right).1
  refine ⟨w, hw, ?_⟩
  rw [hafter.get?_eq step.key hlater, get?_written, if_pos hkey, hbefore.nextId_eq]

lemma written_update_self {row : schema.table.Row} (h : s.get? (schema.key row) = some row) :
    written schema (.update row) s =
      { s with journal := s.journal ++ [⟨.update, schema.key row⟩] } := by
  refine ext rfl (fun k => ?_) (Int64.add_zero s.nextId) rfl
  rw [get?_written]
  split
  · next hk => rw [← hk]; exact h.symm
  · rfl

/-- Rows that are there already can be put in their own places. -/
lemma walk_of_rewrites (h : ∀ step ∈ steps, step.phase = .update ∧ ∃ row,
    step.call = .ok (.update row) ∧ schema.key row = step.key ∧ s.get? step.key = some row) :
    Outcome.walk (Step.attempt (backend schema)) steps s =
      ⟨{ s with journal := s.journal ++ steps.map Step.entry }, none⟩ := by
  induction steps generalizing s with
  | nil => simp
  | cons step steps ih =>
    obtain ⟨hphase, row, hcall, hkey, hget⟩ := h step (.head _)
    rw [← hkey] at hget
    have hthere : s.get? (schema.key row) ≠ none := by
      rw [hget]
      exact Option.some_ne_none row
    have hnone := answer_update hthere
    have hattempt : step.attempt (backend schema) s =
        ⟨{ s with journal := s.journal ++ [step.entry] }, none⟩ := by
      refine Step.attempt_eq_done_iff.2 ⟨.update row, hcall, hnone, ?_⟩
      rw [answer_eq_written hnone, written_update_self hget, Step.entry, hphase, hkey]
      rfl
    have hrest := ih (s := { s with journal := s.journal ++ [step.entry] })
      fun st hst => h st (.tail _ hst)
    rw [Outcome.walk_cons_of_done steps hattempt, hrest, List.map_cons, List.append_assoc]
    rfl

end Store
end DesiredState
