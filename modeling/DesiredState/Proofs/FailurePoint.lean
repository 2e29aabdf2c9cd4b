import DesiredState.Proofs.Convergence
import DesiredState.Proofs.Imprint
import DesiredState.Proofs.Merging

/-! Where reconciling the rows of a store stops. Deletions have nothing to fail at, insertions fail at
their numbers alone, and updates where a slot of the desired row is rejected. So whether a run gets to
its end can be told from the store and the desired rows; and where it does not, so can the key that it
stops at and what has been done by then. -/
namespace DesiredState

namespace Step
variable {α ε σ : Type}

lemma accepted_of_split {backend : Backend α ε σ} {as : List (Step α)} {step : Step α} {s t u : σ}
    {e : ReconcileError ε} (hwalk : Outcome.walk (attempt backend) as s = ⟨u, none⟩)
    (hstep : step.attempt backend u = ⟨t, some e⟩) (cs : List (Step α)) :
    accepted backend (as ++ step :: cs) s = as := by
  induction as generalizing s with
  | nil =>
    cases hwalk
    simp [accepted, hstep]
  | cons st as ih =>
    obtain ⟨v, hst, hrest⟩ := Outcome.walk_cons_eq_done_iff.1 hwalk
    simp [accepted, hst, ih hrest]

lemma tally_eq (steps : List (Step α)) : tally steps =
    ⟨(keysIn .add steps).length, (keysIn .update steps).length, (keysIn .delete steps).length⟩ := by
  simp [tally, keysIn, List.countP_eq_length_filter]

end Step

namespace Store
variable {table : Table}

/-- Whether the assigned columns accept the numbers of so many new rows, from a number on. -/
def Numberable (table : Table) (n : Int64) (rows : Nat) : Prop :=
  ∀ j < rows, ∀ i c, (assigned table)[i]? = some c →
    (table.column c).accepts (.integer (n + Int64.ofNat (j * span table + i))) = true

lemma taking_eq_length_iff {columns : List (Fin table.width)} {n : Int64} :
    taking table columns n = columns.length ↔ ∀ i c, columns[i]? = some c →
      (table.column c).accepts (.integer (n + Int64.ofNat i)) = true := by
  induction columns generalizing n with
  | nil => simp [taking]
  | cons j columns ih =>
    have hzero : n + Int64.ofNat 0 = n := Int64.add_zero n
    constructor
    · intro h i c hc
      rw [taking] at h
      split at h
      · next haccepts =>
        cases i with
        | zero =>
          cases hc
          rwa [hzero]
        | succ i =>
          rw [← add_one_add_ofNat]
          exact ih.1 (Nat.succ_inj.1 h) i c hc
      · cases h
    · intro h
      have hfirst := h 0 j rfl
      rw [hzero] at hfirst
      rw [taking, if_pos hfirst, List.length_cons, ih.2 fun i c hc => ?_]
      rw [add_one_add_ofNat]
      exact h (i + 1) c hc

lemma numberable_iff {n : Int64} {rows : Nat} :
    Numberable table n rows ↔ ∀ j < rows, Admits table (n + Int64.ofNat (j * span table)) := by
  refine forall₂_congr fun j _ => ?_
  rw [Admits, span, taking_eq_length_iff]
  simp only [Int64.ofNat_add, Int64.add_assoc]

/-- Numbering that fails does so at the first column that rejects its number, and has used up the
numbers of the columns before. -/
lemma walk_assign_of_failed {columns : List (Fin table.width)} {n m : Numbering table}
    {e : SchemaError} (h : Outcome.walk Numbering.assign columns n = ⟨m, some e⟩) :
    ∃ i c, columns[i]? = some c ∧
      (∀ i' < i, ∀ c', columns[i']? = some c' →
        (table.column c').accepts (.integer (n.nextId + Int64.ofNat i')) = true) ∧
      (table.column c).accept (.integer (n.nextId + Int64.ofNat i)) = .error e ∧
      m.nextId = n.nextId + Int64.ofNat i := by
  obtain ⟨as, c, bs, u, rfl, has, hfailed⟩ := Outcome.exists_split_of_failed h
  obtain ⟨hnext, hdone⟩ := walk_assign_taking as n
  have htaking := hdone.1 (congrArg Outcome.error? has)
  rw [has, htaking] at hnext
  have hu : u.nextId = n.nextId + Int64.ofNat as.length := hnext
  refine ⟨as.length, c, by simp, fun i' hi' c' hc' => ?_, ?_⟩
  · rw [List.getElem?_append_left hi'] at hc'
    exact taking_eq_length_iff.1 htaking i' c' hc'
  · rw [Numbering.assign, hu] at hfailed
    cases hwrite : table.write u.row c (.integer (n.nextId + Int64.ofNat as.length)) with
    | ok row => simp [hwrite] at hfailed
    | error e' =>
      simp only [hwrite, Outcome.mk.injEq, Option.some.injEq] at hfailed
      obtain ⟨rfl, rfl⟩ := hfailed
      exact ⟨Table.write_eq_error_iff.1 hwrite, hu⟩

variable {schema : Schema} {s t u : Store schema.table} {desired : List schema.table.Row}
  {step : Step schema.table.Row} {e : ReconcileError StoreError}

/-- How a step fails: at its merge, before the store is asked, or at the numbers of its row, of which
those that were accepted are used up. -/
inductive Failing (schema : Schema) (s : Store schema.table) (step : Step schema.table.Row) :
    ReconcileError StoreError → Store schema.table → Prop
  | merge {source} (hphase : step.phase = .update) (hcall : step.call = .error source) :
    Failing schema s step (.schema step.key source) s
  | number {row : schema.table.Row} {m : Numbering schema.table} {source}
    (hphase : step.phase = .add) (hnumber : number row s.nextId = ⟨m, some source⟩) :
    Failing schema s step (.transaction .add step.key (.model source)) { s with nextId := m.nextId }

/-- A step that the store is ready for fails in no other way. -/
lemma failing_of_attempt (hfits : step.Fits schema) (hready : s.Ready step)
    (hmerges : ∀ e, step.call = .error e → step.phase = .update)
    (h : step.attempt (backend schema) s = ⟨t, some e⟩) : Failing schema s step e t := by
  rcases hcall : step.call with source | w
  · simp only [Step.attempt, hcall, Outcome.mk.injEq, Option.some.injEq] at h
    obtain ⟨rfl, rfl⟩ := h
    exact .merge (hmerges source hcall) hcall
  · obtain ⟨hkind, hkey⟩ := hfits w hcall
    rw [Ready, ← hkey] at hready
    simp only [Step.attempt, hcall, Outcome.mk.injEq, Option.map_eq_some_iff] at h
    obtain ⟨rfl, refusal, hrefusal, rfl⟩ := h
    cases w with
    | insert row =>
      have hphase : step.phase = .add := Phase.kind_eq_insert_iff.1 hkind.symm
      have hfree : s.rows.contains (schema.key row) = false :=
        Option.isSome_eq_false_iff.2 (Option.isNone_iff_eq_none.2 (hready.2 hphase))
      rcases hn : number row s.nextId with ⟨m, _ | source⟩
      · simp [backend, insert, hfree, hn, keep] at hrefusal
      · simp only [backend, insert, hfree, hn, Bool.and_false, Bool.false_eq_true, if_false,
          Option.some.injEq] at hrefusal ⊢
        rw [← hrefusal, hphase]
        exact .number hphase hn
    | update row =>
      have hthere : s.get? (schema.key row) ≠ none := fun hnone => by
        rw [hready.1 hnone] at hkind
        cases hkind
      rw [answer_update hthere] at hrefusal
      cases hrefusal
    | delete row =>
      have hthere : s.get? (schema.key row) ≠ none := fun hnone => by
        rw [hready.1 hnone] at hkind
        cases hkind
      rw [answer_delete hthere] at hrefusal
      cases hrefusal

/-- Whether each stored row that the last desired one does not match can be merged with it. -/
def Mergeable (schema : Schema) (s : Store schema.table) (desired : List schema.table.Row) : Prop :=
  ∀ k r d, s.get? k = some r → lastOf schema.key desired k = some d →
    schema.table.policy.equals r d = false →
    ∀ i ∈ schema.table.compared, (schema.table.column i).accepts (Table.get d i) = true

lemma keysIn_due (phase phase' : Phase) : Step.keysIn phase' (s.due schema desired phase) =
    if phase = phase' then (s.due schema desired phase).map Step.key else [] := by
  rw [due_eq_schedule]
  exact keysIn_schedule phase phase'

/-- A run that has stopped at the numbers of the new row at a place among the added ones, at the number
of the column at a place among the assigned ones. -/
structure NumberRefused (schema : Schema) (s : Store schema.table)
    (desired : List schema.table.Row) (deleted added : List String)
    (out : Performed schema.table.Row StoreError (Store schema.table) Unit) (j i : Nat) : Prop where
  rows_before : Numberable schema.table s.nextId j
  columns_before : ∀ i' < i, ∀ c, (assigned schema.table)[i']? = some c →
    (schema.table.column c).accepts
      (.integer (s.nextId + Int64.ofNat (j * span schema.table + i'))) = true
  result_eq : ∃ k c e, added[j]? = some k ∧ (assigned schema.table)[i]? = some c ∧
    (schema.table.column c).accept
      (.integer (s.nextId + Int64.ofNat (j * span schema.table + i))) = .error e ∧
    out.result = .error (.transaction .add k (.model e))
  counts_eq : out.collection.counts = ⟨j, 0, deleted.length⟩
  nextId_eq : out.collection.state.nextId = s.nextId + Int64.ofNat (j * span schema.table + i)
  imprinted : Imprinted schema s desired deleted (added.take j) [] out.collection.state

/-- A run that has stopped at the merge for the key at a place among the updated ones. -/
structure MergeRefused (schema : Schema) (s : Store schema.table)
    (desired : List schema.table.Row) (deleted added updated : List String)
    (out : Performed schema.table.Row StoreError (Store schema.table) Unit) (m : Nat) : Prop where
  merges_before : ∀ k ∈ updated.take m, ∀ d, lastOf schema.key desired k = some d →
    ∀ i ∈ schema.table.compared, (schema.table.column i).accepts (Table.get d i) = true
  result_eq : ∃ k d e, updated[m]? = some k ∧ lastOf schema.key desired k = some d ∧
    schema.table.Refuses d e ∧ out.result = .error (.schema k e)
  counts_eq : out.collection.counts = ⟨added.length, m, deleted.length⟩
  nextId_eq : out.collection.state.nextId =
    s.nextId + Int64.ofNat (added.length * span schema.table)
  imprinted : Imprinted schema s desired deleted added (updated.take m) out.collection.state

lemma NumberRefused.not_numberable {deleted added : List String}
    {out : Performed schema.table.Row StoreError (Store schema.table) Unit} {j i : Nat}
    (h : NumberRefused schema s desired deleted added out j i) :
    ¬Numberable schema.table s.nextId added.length := by
  intro hall
  obtain ⟨k, c, e, hj, hi, hrejects, -⟩ := h.result_eq
  have haccepts := hall j (List.getElem?_eq_some_iff.1 hj).1 i c hi
  rw [Column.accept_eq_ok_iff.2 ⟨haccepts, rfl⟩] at hrejects
  cases hrejects

lemma MergeRefused.not_mergeable {deleted added updated : List String}
    {out : Performed schema.table.Row StoreError (Store schema.table) Unit} {m : Nat}
    (h : MergeRefused schema s desired deleted added updated out m)
    (htasks : Tasks schema s desired deleted added updated) : ¬Mergeable schema s desired := by
  intro hall
  obtain ⟨k, d, e, hm, hd, ⟨as, i, bs, hsplit, -, hrejects⟩, -⟩ := h.result_eq
  obtain ⟨r, d', hr, hd', hne⟩ := (htasks.mem_updated k).1 (List.mem_of_getElem? hm)
  have haccepts := hall k r d' hr hd' hne i (by simp [hsplit])
  rw [hd] at hd'
  cases hd'
  rw [Column.accept_eq_ok_iff.2 ⟨haccepts, rfl⟩] at hrejects
  cases hrejects

lemma pending_of_mem_due {phase : Phase} (h : step ∈ s.due schema desired phase) :
    pending schema.table.policy s.get? (lastOf schema.key desired) phase step.key = some step := by
  obtain ⟨k, -, hpending⟩ := List.mem_filterMap.1 h
  rw [(phase_and_key_of_pending hpending).2]
  exact hpending

lemma exists_call_iff {k : String} {r d : schema.table.Row}
    (h : step = ⟨.update, k, (schema.table.policy.merge r d).toExcept.map .update⟩) :
    (∃ w, step.call = .ok w) ↔
      ∀ i ∈ schema.table.compared, (schema.table.column i).accepts (Table.get d i) = true := by
  constructor
  · rintro ⟨w, hw⟩
    rw [h] at hw
    obtain ⟨m, hm, -⟩ := Outcome.toExcept_map_eq_ok_iff.1 hw
    exact (Table.merge_eq_done_iff.1 hm).1
  · intro haccepts
    have hmerge : schema.table.policy.merge r d = ⟨schema.table.overlay r d, none⟩ :=
      Table.merge_eq_done_iff.2 ⟨haccepts, rfl⟩
    rw [h, hmerge]
    exact ⟨_, rfl⟩

lemma refuses_of_call {k : String} {r d : schema.table.Row} {source : SchemaError}
    (h : step = ⟨.update, k, (schema.table.policy.merge r d).toExcept.map .update⟩)
    (hcall : step.call = .error source) : schema.table.Refuses d source := by
  rw [h] at hcall
  rcases hm : schema.table.policy.merge r d with ⟨row, _ | e⟩
  · rw [hm] at hcall
    cases hcall
  · rw [hm] at hcall
    cases hcall
    exact Table.refuses_of_merge hm

lemma mergeable_iff (hfiled : s.Filed schema) : Mergeable schema s desired ↔
    ∀ step ∈ s.due schema desired .update, ∃ w, step.call = .ok w := by
  constructor
  · intro hall step hstep
    obtain ⟨r, d, hr, hd, hne, heq⟩ := pending_update_iff.1 (pending_of_mem_due hstep)
    exact (exists_call_iff heq).2 (hall _ r d hr hd hne)
  · intro hall k r d hr hd hne
    have hpending := pending_update_iff.2 ⟨r, d, hr, hd, hne, rfl⟩
    have hmem := List.mem_filterMap.2 ⟨k, mem_keys_of_pending hfiled hpending, hpending⟩
    exact (exists_call_iff rfl).1 (hall _ hmem)

section
variable (hkey : schema.KeyKept) (hfiled : s.Filed schema)
include hkey hfiled

lemma imprinted_of_prefix {as bs : List (Step schema.table.Row)}
    (hsplit : s.agenda schema desired = as ++ bs)
    (hwalk : Outcome.walk (Step.attempt (backend schema)) as s = ⟨u, none⟩) :
    Imprinted schema s desired (Step.keysIn .delete as) (Step.keysIn .add as)
        (Step.keysIn .update as) u ∧
      u.nextId = s.nextId + Int64.ofNat ((Step.keysIn .add as).length * span schema.table) ∧
      Numberable schema.table s.nextId (Step.keysIn .add as).length ∧
      ∀ st ∈ as, ∃ w, st.call = .ok w := by
  have hpending (st) (hst : st ∈ as) : pending schema.table.policy s.get?
      (lastOf schema.key desired) st.phase st.key = some st := by
    rw [← mem_agenda hfiled, hsplit]
    exact List.mem_append_left bs hst
  have hnodup := s.nodup_keys_agenda desired
  rw [hsplit, List.map_append] at hnodup
  have hdone := (error?_walk_eq_none_iff
    (fun st hst => fits_of_pending hkey hfiled (hpending st hst))
    (fun st hst => ready_of_pending (hpending st hst)) hnodup.of_append_left).1
    (congrArg Outcome.error? hwalk)
  refine ⟨imprinted_of_walk hkey hfiled hpending hnodup.of_append_left hwalk, ?_, ?_, hdone.1⟩
  · rw [(ran_of_pending hkey hfiled hpending hwalk).nextId_eq, Step.used_eq]
  · rw [numberable_iff]
    rw [Step.tally_eq] at hdone
    exact hdone.2

lemma stopped_of_split {as bs : List (Step schema.table.Row)}
    (hsplit : s.agenda schema desired = as ++ step :: bs)
    (hwalk : Outcome.walk (Step.attempt (backend schema)) as s = ⟨u, none⟩)
    (hstep : step.attempt (backend schema) u = ⟨t, some e⟩) :
    (s.perform schema .reconcile desired).result = .error e ∧
      (s.perform schema .reconcile desired).collection.state = t ∧
      (s.perform schema .reconcile desired).collection.counts = Step.tally as ∧
      Failing schema u step e t := by
  obtain ⟨hresult, hstate, hcounts⟩ := performIn_eq_walk_agenda hfiled (backend schema) s desired
  rw [hsplit, Outcome.walk_of_split hwalk hstep] at hresult hstate
  rw [hsplit, Step.accepted_of_split hwalk hstep] at hcounts
  refine ⟨hresult, hstate, hcounts, ?_⟩
  have hpending (st) (hst : st ∈ as ++ step :: bs) : pending schema.table.policy s.get?
      (lastOf schema.key desired) st.phase st.key = some st :=
    (mem_agenda hfiled).1 (hsplit ▸ hst)
  have hlast := hpending step (by simp)
  -- No step before has touched the key.
  have hready : u.Ready step := by
    have hnodup := s.nodup_keys_agenda desired
    rw [hsplit, List.map_append, List.map_cons] at hnodup
    have hran := ran_of_pending hkey hfiled (fun st hst => hpending st (by simp [hst])) hwalk
    exact (hran.ready_iff fun hmem => List.disjoint_of_nodup_append hnodup hmem (.head _)).2
      (ready_of_pending hlast)
  exact failing_of_attempt (fits_of_pending hkey hfiled hlast) hready
    (fun _ => update_of_pending_error hlast) hstep

lemma numberRefused_of_split {as bs : List (Step schema.table.Row)}
    (hsplit : s.due schema desired .add = as ++ step :: bs)
    (hwalk : Outcome.walk (Step.attempt (backend schema)) (s.due schema desired .delete ++ as) s =
      ⟨u, none⟩)
    (hstep : step.attempt (backend schema) u = ⟨t, some e⟩) :
    ∃ i, NumberRefused schema s desired ((s.due schema desired .delete).map Step.key)
      ((s.due schema desired .add).map Step.key) (s.perform schema .reconcile desired) as.length i := by
  have hagenda : s.agenda schema desired =
      (s.due schema desired .delete ++ as) ++ step :: (bs ++ s.due schema desired .update) := by
    rw [agenda, hsplit]
    simp
  have hphase (st) (hst : st ∈ as ++ step :: bs) : st.phase = .add :=
    phase_of_mem_due (hsplit ▸ hst)
  have has (phase : Phase) := Step.keysIn_of_phase
    (fun st hst => hphase st (List.mem_append_left _ hst)) phase
  obtain ⟨himprinted, hnext, hnumberable, -⟩ := imprinted_of_prefix hkey hfiled hagenda hwalk
  obtain ⟨hresult, hstate, hcounts, hfailing⟩ := stopped_of_split hkey hfiled hagenda hwalk hstep
  cases hfailing with
  | merge hupdate _ =>
    have hadd := hphase step (by simp)
    rw [hupdate] at hadd
    cases hadd
  | @number row m source _ hnumber =>
    simp only [Step.keysIn_append, keysIn_due, has, if_true, reduceCtorEq, if_false, List.append_nil,
      List.nil_append, List.length_map] at himprinted hnext hnumberable
    obtain ⟨i, c, hi, hbefore, hrejects, hused⟩ := walk_assign_of_failed hnumber
    simp only [hnext, Int64.add_assoc, ← Int64.ofNat_add] at hbefore hrejects hused
    have htake : ((s.due schema desired .add).map Step.key).take as.length = as.map Step.key := by
      simp [hsplit]
    refine ⟨i, hnumberable, hbefore, ⟨step.key, c, source, by simp [hsplit], hi, hrejects, hresult⟩,
      ?_, ?_, ?_⟩
    · rw [hcounts, Step.tally_eq]
      simp [keysIn_due, has]
    · rw [hstate]
      exact hused
    · rw [hstate, htake]
      exact ⟨himprinted.deleted_row, himprinted.added_row, himprinted.updated_row,
        himprinted.other_row⟩

lemma mergeRefused_of_split {as bs : List (Step schema.table.Row)}
    (hsplit : s.due schema desired .update = as ++ step :: bs)
    (hwalk : Outcome.walk (Step.attempt (backend schema))
      (s.due schema desired .delete ++ (s.due schema desired .add ++ as)) s = ⟨u, none⟩)
    (hstep : step.attempt (backend schema) u = ⟨t, some e⟩) :
    Numberable schema.table s.nextId (s.due schema desired .add).length ∧
      MergeRefused schema s desired ((s.due schema desired .delete).map Step.key)
        ((s.due schema desired .add).map Step.key) ((s.due schema desired .update).map Step.key)
        (s.perform schema .reconcile desired) as.length := by
  have hagenda : s.agenda schema desired =
      (s.due schema desired .delete ++ (s.due schema desired .add ++ as)) ++ step :: bs := by
    rw [agenda, hsplit]
    simp
  have hphase (st) (hst : st ∈ as ++ step :: bs) : st.phase = .update :=
    phase_of_mem_due (hsplit ▸ hst)
  have has (phase : Phase) := Step.keysIn_of_phase
    (fun st hst => hphase st (List.mem_append_left _ hst)) phase
  obtain ⟨himprinted, hnext, hnumberable, hcalls⟩ :=
    imprinted_of_prefix hkey hfiled hagenda hwalk
  obtain ⟨hresult, hstate, hcounts, hfailing⟩ := stopped_of_split hkey hfiled hagenda hwalk hstep
  cases hfailing with
  | number hadd _ =>
    have hupdate := hphase step (by simp)
    rw [hadd] at hupdate
    cases hupdate
  | @merge source _ hcall =>
    simp only [Step.keysIn_append, keysIn_due, has, if_true, reduceCtorEq, if_false, List.append_nil,
      List.nil_append, List.length_map] at himprinted hnext hnumberable
    have hmerge (st) (hst : st ∈ as ++ step :: bs) :=
      pending_update_iff.1 (pending_of_mem_due (hsplit ▸ hst))
    have htake : ((s.due schema desired .update).map Step.key).take as.length = as.map Step.key := by
      simp [hsplit]
    obtain ⟨r, d, -, hd, -, heq⟩ := hmerge step (by simp)
    refine ⟨hnumberable, ?_, ⟨step.key, d, source, by simp [hsplit], hd, refuses_of_call heq hcall,
      hresult⟩, ?_, ?_, ?_⟩
    · rw [htake]
      intro k hk d' hd'
      obtain ⟨st, hst, rfl⟩ := List.mem_map.1 hk
      obtain ⟨r', d'', -, hd'', -, heq'⟩ := hmerge st (by simp [hst])
      rw [hd'] at hd''
      cases hd''
      exact (exists_call_iff heq').1 (hcalls st (by simp [hst]))
    · rw [hcounts, Step.tally_eq]
      simp [keysIn_due, has]
    · rw [hstate, hnext, List.length_map]
    · rw [hstate, htake]
      exact himprinted

/-- A run gets to its end, or stops at the numbers of a new row, or at a merge. -/
lemma verdict (desired : List schema.table.Row) :
    (s.perform schema .reconcile desired).result = .ok () ∧
        Numberable schema.table s.nextId (s.due schema desired .add).length ∧
        Mergeable schema s desired ∨
      (∃ j i, NumberRefused schema s desired ((s.due schema desired .delete).map Step.key)
        ((s.due schema desired .add).map Step.key) (s.perform schema .reconcile desired) j i) ∨
      Numberable schema.table s.nextId (s.due schema desired .add).length ∧
        ∃ m, MergeRefused schema s desired ((s.due schema desired .delete).map Step.key)
          ((s.due schema desired .add).map Step.key) ((s.due schema desired .update).map Step.key)
          (s.perform schema .reconcile desired) m := by
  obtain ⟨v, hdeletes⟩ : ∃ v, Outcome.walk (Step.attempt (backend schema))
      (s.due schema desired .delete) s = ⟨v, none⟩ := by
    rw [due_eq_schedule]
    exact exists_walk_deletes hkey hfiled fun _ => .refl _
  rcases hadds : Outcome.walk (Step.attempt (backend schema)) (s.due schema desired .add) v with
    ⟨v', _ | e⟩
  · have hboth : Outcome.walk (Step.attempt (backend schema))
        (s.due schema desired .delete ++ s.due schema desired .add) s = ⟨v', none⟩ :=
      Outcome.walk_append_eq_done_iff.2 ⟨v, hdeletes, hadds⟩
    rcases hupdates : Outcome.walk (Step.attempt (backend schema)) (s.due schema desired .update) v'
      with ⟨t, _ | e⟩
    · have hwalk : Outcome.walk (Step.attempt (backend schema)) (s.agenda schema desired) s =
          ⟨t, none⟩ := by
        rw [agenda, ← List.append_assoc]
        exact Outcome.walk_append_eq_done_iff.2 ⟨v', hboth, hupdates⟩
      obtain ⟨-, -, hnumberable, hcalls⟩ :=
        imprinted_of_prefix hkey hfiled (List.append_nil _).symm hwalk
      simp only [agenda, Step.keysIn_append, keysIn_due, if_true, reduceCtorEq, if_false,
        List.append_nil, List.nil_append, List.length_map] at hnumberable
      refine .inl ⟨(reconcile_of_walk hfiled hwalk).1, hnumberable,
        (mergeable_iff hfiled).2 fun st hst => hcalls st ?_⟩
      simp [agenda, hst]
    · obtain ⟨as, step, bs, u, hsplit, hwalk, hstep⟩ := Outcome.exists_split_of_failed hupdates
      have hprefix := Outcome.walk_append_eq_done_iff.2 ⟨v', hboth, hwalk⟩
      rw [List.append_assoc] at hprefix
      obtain ⟨hnumberable, hrefused⟩ := mergeRefused_of_split hkey hfiled hsplit hprefix hstep
      exact .inr (.inr ⟨hnumberable, _, hrefused⟩)
  · obtain ⟨as, step, bs, u, hsplit, hwalk, hstep⟩ := Outcome.exists_split_of_failed hadds
    have hprefix := Outcome.walk_append_eq_done_iff.2 ⟨v, hdeletes, hwalk⟩
    obtain ⟨i, hrefused⟩ := numberRefused_of_split hkey hfiled hsplit hprefix hstep
    exact .inr (.inl ⟨_, i, hrefused⟩)

end

/-- Reconciling the rows of a store never finds a key taken or missing, and never fails while it
deletes. It succeeds exactly if the assigned columns accept the next numbers, so many as there are new
rows, and every stored row that does not match can be merged. Where some number is rejected, the run
stops at the first one; where none is but some row cannot be merged, it stops at the first such key. -/
theorem reconcile_fails_at_first (hkey : schema.KeyKept) (hfiled : s.Filed schema) :
    let out := s.perform schema .reconcile desired
    ∃ deleted added updated, OrderedTasks schema s desired deleted added updated ∧
      (∀ e, out.result = .error e →
        (∃ k source, e = .transaction .add k (.model source)) ∨ ∃ k source, e = .schema k source) ∧
      (out.result = .ok () ↔
        Numberable schema.table s.nextId added.length ∧ Mergeable schema s desired) ∧
      (¬Numberable schema.table s.nextId added.length →
        ∃ j i, NumberRefused schema s desired deleted added out j i) ∧
      (Numberable schema.table s.nextId added.length → ¬Mergeable schema s desired →
        ∃ m, MergeRefused schema s desired deleted added updated out m) := by
  intro out
  have htasks : OrderedTasks schema s desired _ _ _ := orderedTasks_due hfiled
  refine ⟨_, _, _, htasks, ?_⟩
  rw [List.length_map]
  rcases verdict hkey hfiled desired with
    ⟨hdone, hnumberable, hmergeable⟩ | ⟨j, i, hrefused⟩ | ⟨hnumberable, m, hrefused⟩
  · have hresult : out.result = .ok () := hdone
    refine ⟨fun e he => ?_, iff_of_true hresult ⟨hnumberable, hmergeable⟩,
      fun hnot => absurd hnumberable hnot, fun _ hnot => absurd hmergeable hnot⟩
    rw [hresult] at he
    cases he
  · obtain ⟨k, c, source, -, -, -, hresult⟩ := hrefused.result_eq
    have hnot := hrefused.not_numberable
    rw [List.length_map] at hnot
    refine ⟨fun e he => ?_, iff_of_false ?_ fun h => hnot h.1, fun _ => ⟨j, i, hrefused⟩,
      fun h => absurd h hnot⟩
    · rw [hresult] at he
      cases he
      exact .inl ⟨k, source, rfl⟩
    · rw [hresult]
      exact fun h => nomatch h
  · obtain ⟨k, d, source, -, -, -, hresult⟩ := hrefused.result_eq
    have hnot := hrefused.not_mergeable htasks.toTasks
    refine ⟨fun e he => ?_, iff_of_false ?_ fun h => hnot h.2, fun h => absurd hnumberable h,
      fun _ _ => ⟨m, hrefused⟩⟩
    · rw [hresult] at he
      cases he
      exact .inr ⟨k, source, rfl⟩
    · rw [hresult]
      exact fun h => nomatch h

/-- The second of two new rows gets a number that is too great for its column. Where only one is new,
the second of two merges is the first to fail. -/
theorem reconcile_fails_at_first_slots :
    let schema := Schema.ofTable ⟨"slots", [
      { name := "name", type := .text, isKey := true },
      { name := "number", type := .int32, isAssigned := true },
      { name := "load", type := .int64 }]⟩
    let slot (name : String) (load : Int64) : schema.table.Row :=
      #v[.text name, .integer 0, .integer load]
    let s := written schema (.insert (slot "b" 2)) (written schema (.insert (slot "a" 1))
      (empty { firstId := 2147483645 }))
    let desired := [slot "d" 4, slot "b" 3, slot "c" 5]
    let out := s.perform schema .reconcile desired
    let desired' := [slot "c" 5, #v[.text "b", .integer 0, .text "full"], slot "a" 6]
    let out' := s.perform schema .reconcile desired'
    schema.KeyKept ∧ s.Filed schema ∧
    out.result = .error (.transaction .add "d"
      (.model (.field "number" (.outOfRange "i32" 2147483648)))) ∧
    out.collection.counts = ⟨1, 0, 1⟩ ∧
    (∃ deleted added updated, OrderedTasks schema s desired deleted added updated ∧
      ∃ j i, NumberRefused schema s desired deleted added out j i) ∧
    out'.result = .error (.schema "b" (.field "load" (.typeMismatch "int" "text"))) ∧
    out'.collection.counts = ⟨1, 1, 0⟩ ∧
    ∃ deleted added updated, OrderedTasks schema s desired' deleted added updated ∧
      ∃ m, MergeRefused schema s desired' deleted added updated out' m := by
  intro schema slot s desired out desired' out'
  have hkey : schema.KeyKept := Schema.keyKept_ofKeyColumns (by decide +kernel)
  have hfiled : s.Filed schema := (filed_empty.written hkey _).written hkey _
  have hresult : out.result = .error (.transaction .add "d"
      (.model (.field "number" (.outOfRange "i32" 2147483648)))) := by decide +kernel
  have hresult' : out'.result = .error (.schema "b" (.field "load" (.typeMismatch "int" "text"))) := by
    decide +kernel
  refine ⟨hkey, hfiled, hresult, by decide +kernel, ?_, hresult', by decide +kernel, ?_⟩
  · obtain ⟨deleted, added, updated, htasks, -, hok, hnumbers, hmerges⟩ :=
      @reconcile_fails_at_first schema s desired hkey hfiled
    refine ⟨deleted, added, updated, htasks, hnumbers fun hnumberable => ?_⟩
    by_cases hmergeable : Mergeable schema s desired
    · have hdone := hok.2 ⟨hnumberable, hmergeable⟩
      rw [hresult] at hdone
      cases hdone
    · obtain ⟨m, hrefused⟩ := hmerges hnumberable hmergeable
      obtain ⟨k, d, e, -, -, -, hschema⟩ := hrefused.result_eq
      rw [hresult] at hschema
      cases hschema
  · obtain ⟨deleted, added, updated, htasks, -, hok, hnumbers, hmerges⟩ :=
      @reconcile_fails_at_first schema s desired' hkey hfiled
    have hnumberable : Numberable schema.table s.nextId added.length := by
      by_contra hnot
      obtain ⟨j, i, hrefused⟩ := hnumbers hnot
      obtain ⟨k, c, e, -, -, -, htransaction⟩ := hrefused.result_eq
      rw [hresult'] at htransaction
      cases htransaction
    refine ⟨deleted, added, updated, htasks, hmerges hnumberable fun hmergeable => ?_⟩
    have hdone := hok.2 ⟨hnumberable, hmergeable⟩
    rw [hresult'] at hdone
    cases hdone

end Store
end DesiredState
