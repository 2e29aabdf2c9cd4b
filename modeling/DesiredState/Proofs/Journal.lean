import DesiredState.Proofs.Agenda
import DesiredState.Proofs.Answers

/-! What the journal of a store tells about its rows. The writes that are kept, in their order, explain
the whole of a store that has begun without rows: the journal is the list of them, and under each key
there is what the last of them that is for the key has left. A strict store lets the rows of one key
live one after another, each from an insertion to a deletion. -/
namespace DesiredState

namespace WriteKind
open RegularExpression

/-- The writes for a row that stays: it is inserted, and may be updated. -/
def life : RegularExpression WriteKind := char .insert * star (char .update)

/-- The writes for rows that have come one after another, and have all been deleted. -/
def gone : RegularExpression WriteKind := star (life * char .delete)

/-- The writes for rows that have come one after another, of which the last one may stay. -/
def lives : RegularExpression WriteKind := gone * (1 + life)

variable {kinds : List WriteKind}

lemma concat_insert_mem (h : kinds ∈ gone.matches') : kinds ++ [.insert] ∈ (gone * life).matches' := by
  have hinsert : [.insert] ∈ life.matches' := by
    rw [life, matches'_mul, matches'_star, matches'_char]
    exact Language.append_mem_mul (a := [WriteKind.insert]) (b := []) rfl (Language.nil_mem_kstar _)
  exact Language.append_mem_mul h hinsert

lemma concat_update_mem (h : kinds ∈ (gone * life).matches') :
    kinds ++ [.update] ∈ (gone * life).matches' := by
  have hle : (gone * life).matches' * {[.update]} ≤ (gone * life).matches' := by
    simp only [life, matches'_mul, matches'_star, matches'_char, mul_assoc]
    gcongr
    exact kstar_mul_le_kstar
  exact hle (Language.append_mem_mul h rfl)

lemma concat_delete_mem (h : kinds ∈ (gone * life).matches') :
    kinds ++ [.delete] ∈ gone.matches' := by
  have hle : (gone * life).matches' * {[.delete]} ≤ gone.matches' := by
    rw [gone, matches'_mul, matches'_star, matches'_mul, matches'_char, mul_assoc]
    exact kstar_mul_le_kstar
  exact hle (Language.append_mem_mul h rfl)

lemma mem_lives_of_gone (h : kinds ∈ gone.matches') : kinds ∈ lives.matches' := by
  rw [lives, matches'_mul, matches'_add, matches'_epsilon, mul_add, mul_one]
  exact .inl h

lemma mem_lives_of_life (h : kinds ∈ (gone * life).matches') : kinds ∈ lives.matches' := by
  rw [lives, matches'_mul, matches'_add, matches'_epsilon, mul_add, mul_one]
  exact .inr h

end WriteKind

namespace Store
variable {schema : Schema} {s t : Store schema.table} {w : Write schema.table.Row}

variable (schema) in
/-- A write that a store has kept, with the store as the write found it. -/
structure Kept where
  store : Store schema.table
  write : Write schema.table.Row

namespace Kept

def entry (kept : Kept schema) : JournalEntry := ⟨kept.write.kind, schema.key kept.write.record⟩

def key (kept : Kept schema) : String := schema.key kept.write.record

/-- Whether a row is what a write has left: the record itself, or the record with the numbers in its
assigned slots that have been taken for it. -/
def Leaves (kept : Kept schema) (row : schema.table.Row) : Prop :=
  match kept.write with
  | .insert record =>
    (∀ i, Table.get row i = if (schema.table.column i).isAssigned
      then .integer (kept.store.nextId + Int64.ofNat ((assigned schema.table).idxOf i))
      else Table.get record i) ∧
    ((backend schema).answer kept.write kept.store).state.nextId =
      kept.store.nextId + Int64.ofNat (span schema.table)
  | .update record => row = record
  | .delete _ => False

end Kept

/-- The writes that a store keeps of those that it is asked for. -/
def history (schema : Schema) : List (Write schema.table.Row) → Store schema.table → List (Kept schema)
  | [], _ => []
  | w :: writes, s =>
    let reply := (backend schema).answer w s
    match reply.error? with
    | none => ⟨s, w⟩ :: history schema writes reply.state
    | some _ => history schema writes reply.state

/-- The last write of all is kept or not, by the store that the others have left. -/
lemma history_concat (writes : List (Write schema.table.Row)) (w : Write schema.table.Row)
    (s : Store schema.table) :
    let t := (backend schema).after writes s
    history schema (writes ++ [w]) s = history schema writes s ++
      if ((backend schema).answer w t).error? = none then [⟨t, w⟩] else [] := by
  induction writes generalizing s with
  | nil =>
    rcases hw : ((backend schema).answer w s).error? with _ | e <;>
      simp [history, Backend.after, hw]
  | cons v writes ih =>
    have hafter : (backend schema).after (v :: writes) s =
        (backend schema).after writes ((backend schema).answer v s).state := rfl
    rcases hreply : (backend schema).answer v s with ⟨t, _ | e, events⟩ <;>
      simp [history, hafter, hreply, ih t]

/-- Kept writes explain a store if its journal is the list of them, and if each key holds what the last
of them that is for the key has left. -/
structure Explained (kept : List (Kept schema)) (t : Store schema.table) : Prop where
  journal_eq : t.journal = kept.map Kept.entry
  get?_eq : ∀ k, t.get? k =
    (lastOf Kept.key kept k).bind fun last => last.write.filed last.store.nextId

namespace Explained
variable {kept : List (Kept schema)}

lemma answer_kept (h : Explained kept s) (hw : ((backend schema).answer w s).error? = none) :
    Explained (kept ++ [⟨s, w⟩]) ((backend schema).answer w s).state := by
  rw [answer_eq_written hw]
  refine ⟨?_, fun k => ?_⟩
  · rw [List.map_append, ← h.journal_eq]
    rfl
  · rw [get?_written, lastOf_concat, h.get?_eq]
    by_cases hk : schema.key w.record = k <;> simp [hk, Kept.key]

lemma answer_refused (h : Explained kept s) (hw : ((backend schema).answer w s).error? ≠ none) :
    Explained kept ((backend schema).answer w s).state := by
  rw [answer_of_refused hw]
  exact ⟨h.journal_eq, h.get?_eq⟩

end Explained

/-- The writes that a store has kept since it was empty explain it. -/
theorem explained_history (config : StoreConfig) (writes : List (Write schema.table.Row)) :
    Explained (history schema writes (empty config))
      ((backend schema).after writes (empty config)) := by
  induction writes using List.reverseRec with
  | nil => exact ⟨rfl, fun _ => rfl⟩
  | append_singleton writes w ih =>
    rw [Backend.after_concat, history_concat]
    by_cases hw : ((backend schema).answer w
        ((backend schema).after writes (empty config))).error? = none
    · rw [if_pos hw]
      exact ih.answer_kept hw
    · rw [if_neg hw, List.append_nil]
      exact ih.answer_refused hw

lemma kept_of_mem_history {writes : List (Write schema.table.Row)} {kept : Kept schema}
    (h : kept ∈ history schema writes s) :
    ((backend schema).answer kept.write kept.store).error? = none := by
  induction writes generalizing s with
  | nil => cases h
  | cons w writes ih =>
    rcases hw : ((backend schema).answer w s).error? with _ | e
    · simp only [history, hw, List.mem_cons] at h
      rcases h with rfl | h
      · exact hw
      · exact ih h
    · simp only [history, hw] at h
      exact ih h

lemma map_write_history (writes : List (Write schema.table.Row)) (s : Store schema.table) :
    (history schema writes s).map Kept.write =
      (((backend schema).observed.after writes ⟨[], s⟩).calls.filter (·.2.isNone)).map (·.1) := by
  induction writes using List.reverseRec with
  | nil => rfl
  | append_singleton writes w ih =>
    obtain ⟨hinner, -⟩ := (backend schema).after_observed writes s
    rw [history_concat, List.map_append, ih, Backend.after_observed_concat, hinner]
    simp only [List.filter_append, List.map_append]
    rcases hw : ((backend schema).answer w ((backend schema).after writes s)).error? with _ | e <;>
      simp

lemma Kept.leaves_of_filed {kept : Kept schema} {row : schema.table.Row}
    (h : ((backend schema).answer kept.write kept.store).error? = none)
    (hrow : kept.write.filed kept.store.nextId = some row) : kept.Leaves row := by
  obtain ⟨store, write⟩ := kept
  cases write with
  | insert record =>
    obtain rfl := Option.some_inj.1 hrow
    refine ⟨fun i => get_numbered record store.nextId i, ?_⟩
    rw [answer_eq_written h]
    rfl
  | update record => exact (Option.some_inj.1 hrow).symm
  | delete record => cases hrow

lemma Kept.exists_filed_iff {kept : Kept schema} :
    (∃ row, kept.write.filed kept.store.nextId = some row) ↔
      kept.entry.kind = .insert ∨ kept.entry.kind = .update := by
  obtain ⟨store, write⟩ := kept
  cases write <;> simp [Kept.entry, Write.filed, Write.kind]

def kindsOf (s : Store schema.table) (k : String) : List WriteKind :=
  (s.journal.filter (·.key = k)).map (·.kind)

lemma kindsOf_written (w : Write schema.table.Row) (s : Store schema.table) (k : String) :
    (written schema w s).kindsOf k =
      if schema.key w.record = k then s.kindsOf k ++ [w.kind] else s.kindsOf k := by
  by_cases hk : schema.key w.record = k <;> simp [kindsOf, written, hk]

/-- Under every key, the rows of the past have come and gone, and one is there if it has come last. -/
def Lived (s : Store schema.table) : Prop := ∀ k,
  (s.get? k = none → s.kindsOf k ∈ WriteKind.gone.matches') ∧
    (s.get? k ≠ none → s.kindsOf k ∈ (WriteKind.gone * WriteKind.life).matches')

lemma lived_empty (config : StoreConfig) : (empty config : Store schema.table).Lived := fun _ =>
  ⟨fun _ => Language.nil_mem_kstar _, fun h => absurd rfl h⟩

lemma Lived.answer (hstrict : s.config.strict = true) (h : s.Lived)
    (w : Write schema.table.Row) : ((backend schema).answer w s).state.Lived := by
  by_cases hw : ((backend schema).answer w s).error? = none
  · have hfree := suits_of_kept hstrict hw
    rw [answer_eq_written hw]
    intro k
    rw [kindsOf_written, get?_written]
    by_cases hk : schema.key w.record = k
    · subst hk
      obtain ⟨hgone, hlife⟩ := h (schema.key w.record)
      rw [if_pos rfl, if_pos rfl]
      cases w with
      | insert row =>
        exact ⟨fun hnone => (nomatch hnone), fun _ =>
          WriteKind.concat_insert_mem (hgone (hfree.2 rfl))⟩
      | update row =>
        refine ⟨fun hnone => (nomatch hnone), fun _ =>
          WriteKind.concat_update_mem (hlife fun hnone => ?_)⟩
        cases hfree.1 hnone
      | delete row =>
        refine ⟨fun _ => WriteKind.concat_delete_mem (hlife fun hnone => ?_), fun hne =>
          absurd rfl hne⟩
        cases hfree.1 hnone
    · rw [if_neg hk, if_neg hk]
      exact h k
  · rw [answer_of_refused hw]
    exact h

lemma Lived.after (hstrict : s.config.strict = true) (h : s.Lived)
    (writes : List (Write schema.table.Row)) : ((backend schema).after writes s).Lived := by
  induction writes generalizing s with
  | nil => exact h
  | cons w writes ih => exact ih ((config_answer w s).symm ▸ hstrict) (h.answer hstrict w)

lemma Lived.kindsOf_mem_lives (h : s.Lived) (k : String) : s.kindsOf k ∈ WriteKind.lives.matches' := by
  by_cases hk : s.get? k = none
  · exact WriteKind.mem_lives_of_gone ((h k).1 hk)
  · exact WriteKind.mem_lives_of_life ((h k).2 hk)

/-- The journal of a store that was empty once, after any writes, taken or refused. It lists the writes
that were taken, each under the key of its record. A key holds a row exactly if the last entry for it
is an insertion or an update, and the row is what that write has left. Where the store is strict, the
entries for a key are those of rows that have lived one after another. -/
theorem journal_explains (config : StoreConfig) (writes : List (Write schema.table.Row)) :
    let t := (backend schema).after writes (empty config)
    let calls := ((backend schema).observed.after writes ⟨[], empty config⟩).calls
    let kept := history schema writes (empty config)
    calls.map (·.1) = writes ∧
    kept.map Kept.write = (calls.filter (·.2.isNone)).map (·.1) ∧
    t.journal = kept.map Kept.entry ∧
    (∀ k, (∃ row, t.get? k = some row) ↔ ∃ entry, lastOf JournalEntry.key t.journal k = some entry ∧
      (entry.kind = .insert ∨ entry.kind = .update)) ∧
    (∀ k row, t.get? k = some row → ∃ last, lastOf Kept.key kept k = some last ∧
      lastOf JournalEntry.key t.journal k = some last.entry ∧ last.Leaves row) ∧
    (config.strict = true → ∀ k,
      (t.journal.filter (·.key = k)).map (·.kind) ∈ WriteKind.lives.matches') := by
  intro t calls kept
  have hexplained : Explained kept t := explained_history config writes
  have hlast (k : String) : lastOf JournalEntry.key t.journal k =
      (lastOf Kept.key kept k).map Kept.entry := by
    rw [hexplained.journal_eq, lastOf_map]
    rfl
  refine ⟨((backend schema).after_observed writes (empty config)).2, map_write_history writes _,
    hexplained.journal_eq, fun k => ?_, fun k row hrow => ?_, fun hstrict k => ?_⟩
  · rw [hlast, hexplained.get?_eq]
    cases lastOf Kept.key kept k with
    | none => simp
    | some last => simp [Kept.exists_filed_iff]
  · rw [hexplained.get?_eq] at hrow
    obtain ⟨last, hk, hfiled⟩ := Option.bind_eq_some_iff.1 hrow
    refine ⟨last, hk, by rw [hlast, hk, Option.map_some], Kept.leaves_of_filed ?_ hfiled⟩
    exact kept_of_mem_history (mem_of_lastOf hk).1
  · exact ((lived_empty config).after hstrict writes).kindsOf_mem_lives k

/-- A host comes, changes and goes, and comes again with the next number. Three writes are refused: a
second insertion, an update and a deletion of what is not there. -/
theorem journal_explains_hosts :
    let config : StoreConfig := { firstId := 7 }
    let writes := [.insert (host "a" "" (.ofNat 1)), .insert (host "a" "" (.ofNat 2)),
      .update (host "b" "" (.ofNat 3)), .update (host "a" "" (.ofNat 4)),
      .delete (host "a" "" (.ofNat 5)), .insert (host "b" "" (.ofNat 6)),
      .delete (host "c" "" (.ofNat 7)), .insert (host "a" "" (.ofNat 8))]
    let t := (backend hosts).after writes (empty config)
    config.strict = true ∧
    t.journal = [⟨.insert, "a"⟩, ⟨.update, "a"⟩, ⟨.delete, "a"⟩, ⟨.insert, "b"⟩, ⟨.insert, "a"⟩] ∧
    (t.get? "a").map (fun row => Schema.keyPart (Table.get row ⟨1, by decide⟩)) = some "9" ∧
    (∃ row last, t.get? "a" = some row ∧
      lastOf Kept.key (history hosts writes (empty config)) "a" = some last ∧ last.Leaves row) ∧
    (t.journal.filter (·.key = "a")).map (·.kind) ∈ WriteKind.lives.matches' := by
  intro config writes t
  obtain ⟨-, -, -, hpresent, hrow, hlives⟩ := @journal_explains hosts config writes
  have hlast : lastOf JournalEntry.key t.journal "a" = some ⟨.insert, "a"⟩ := by decide +kernel
  obtain ⟨row, ha⟩ := (hpresent "a").2 ⟨_, hlast, .inl rfl⟩
  obtain ⟨last, hkept, -, hleaves⟩ := hrow "a" row ha
  exact ⟨rfl, by decide +kernel, by decide +kernel, ⟨row, last, ha, hkept, hleaves⟩, hlives rfl "a"⟩

end Store
end DesiredState
