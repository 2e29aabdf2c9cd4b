import DesiredState.Proofs.Answers
import DesiredState.Proofs.Forecast

/-! What an operation may leave under a key, wherever it stops. Merging and numbering go slot by slot,
and may break off halfway; but what they have made by then stays with the step, since a store is only
ever asked to file a row that is complete, and files it whole or not at all. Here the stored rows may
be any rows, also such as the store has never held. -/
namespace DesiredState

namespace Store
variable {schema : Schema} {s : Store schema.table}

lemma admits_of_kept {row : schema.table.Row}
    (h : ((backend schema).answer (.insert row) s).error? = none) :
    Admits schema.table s.nextId := by
  simp only [backend, insert] at h
  split at h
  · cases h
  · rw [← error?_number_eq_none_iff row]
    rcases hn : number row s.nextId with ⟨n, _ | e⟩
    · rfl
    · rw [hn] at h
      cases h

/-- After some writes, a key holds what it held before, or what one of its writes files when it is
kept. -/
theorem get?_after (writes : List (Write schema.table.Row)) (s : Store schema.table) (k : String) :
    let t := (backend schema).after writes s
    t.get? k = s.get? k ∨ ∃ w ∈ writes, schema.key w.record = k ∧ ∃ m,
      (w.kind = .insert → Admits schema.table (s.nextId + Int64.ofNat m)) ∧
        t.get? k = w.filed (s.nextId + Int64.ofNat m) := by
  intro t
  induction writes generalizing s with
  | nil => exact .inl rfl
  | cons w writes ih =>
    rcases ih ((backend schema).answer w s).state with hsame | ⟨w', hmem, hk, m, hadmits, hrow⟩
    · have ht : t.get? k = _ := hsame.trans (get?_answer w s k)
      split at ht
      · next hkept =>
        have hzero : s.nextId + Int64.ofNat 0 = s.nextId := Int64.add_zero s.nextId
        refine .inr ⟨w, .head _, hkept.2, 0, fun hkind => ?_, by rw [ht, hzero]⟩
        rw [hzero]
        cases w with
        | insert row => exact admits_of_kept hkept.1
        | update row => cases hkind
        | delete row => cases hkind
      · exact .inl ht
    · -- The write that has told counts its numbers from where those of the first one end.
      rw [nextId_answer, Int64.add_assoc, ← Int64.ofNat_add] at hadmits hrow
      exact .inr ⟨w', .tail _ hmem, hk, _, hadmits, hrow⟩

/-- What a key may hold at some point of an operation: what it held before, or all that the phase for
its records is there to leave. -/
inductive Fate (schema : Schema) (op : Operation) (stored desired : List schema.table.Row)
    (s : Store schema.table) (k : String) : Option schema.table.Row → Prop
  | untouched : Fate schema op stored desired s k (s.get? k)
  | deleted {r} (hop : .delete ∈ op.phases) (hr : lastOf schema.key stored k = some r)
    (hd : lastOf schema.key desired k = none) : Fate schema op stored desired s k none
  | added {d m} (hop : .add ∈ op.phases) (hr : lastOf schema.key stored k = none)
    (hd : lastOf schema.key desired k = some d)
    (hadmits : Admits schema.table (s.nextId + Int64.ofNat m)) :
    Fate schema op stored desired s k (some (numbered d (s.nextId + Int64.ofNat m)))
  | merged {r d} (hop : .update ∈ op.phases) (hr : lastOf schema.key stored k = some r)
    (hd : lastOf schema.key desired k = some d) (hne : schema.table.policy.equals r d = false)
    (hmerge : schema.table.policy.merge r d = ⟨schema.table.overlay r d, none⟩) :
    Fate schema op stored desired s k (some (schema.table.overlay r d))

/-- A store that an operation may come through: no key holds anything halfway, and only keys that the
plan lists have been touched. -/
structure Atomic (schema : Schema) (op : Operation) (stored desired : List schema.table.Row)
    (plan : Plan) (s t : Store schema.table) : Prop where
  fate : ∀ k, Fate schema op stored desired s k (t.get? k)
  unplanned : ∀ k, k ∉ plan.add → k ∉ plan.update → k ∉ plan.delete → t.get? k = s.get? k

section
variable {op : Operation} {stored desired : List schema.table.Row} {phase : Phase} {k : String}
  {step : Step schema.table.Row} {w : Write schema.table.Row}

lemma fate_of_pending (hop : phase ∈ op.phases)
    (hpending : pending schema.table.policy (lastOf schema.key stored) (lastOf schema.key desired)
      phase k = some step) (hw : step.call = .ok w) {m : Nat}
    (hadmits : w.kind = .insert → Admits schema.table (s.nextId + Int64.ofNat m)) :
    Fate schema op stored desired s k (w.filed (s.nextId + Int64.ofNat m)) := by
  cases phase with
  | delete =>
    obtain ⟨r, hr, hd, rfl⟩ := pending_delete_iff.1 hpending
    cases hw
    exact .deleted hop hr hd
  | add =>
    obtain ⟨d, hr, hd, rfl⟩ := pending_add_iff.1 hpending
    cases hw
    exact .added hop hr hd (hadmits rfl)
  | update =>
    obtain ⟨r, d, hr, hd, hne, rfl⟩ := pending_update_iff.1 hpending
    obtain ⟨merged, hmerge, rfl⟩ := Outcome.toExcept_map_eq_ok_iff.1 hw
    obtain ⟨-, rfl⟩ := Table.merge_eq_done_iff.1 hmerge
    exact .merged hop hr hd hne hmerge

/-- Some of the writes of a script leave a store that is atomic. -/
lemma atomic_of_writes (hkey : schema.KeyKept) {entries : Entries (Pairing schema.table.Row)}
    (hentries : entries.Perm (Partition.ofRecords schema.key stored desired).entries)
    {keys : Phase → List String} {writes : List (Write schema.table.Row)}
    (hwrites : writes ⊆ (script schema.table.policy (lastOf schema.key stored)
      (lastOf schema.key desired) keys op.phases).filterMap (·.call.toOption)) :
    Atomic schema op stored desired (Plan.ofEntries schema.table.policy entries) s
      ((backend schema).after writes s) := by
  have hstep (w) (hw : w ∈ writes) : ∃ step, step.phase ∈ op.phases ∧ step.call = .ok w ∧
      schema.key w.record = step.key ∧ pending schema.table.policy (lastOf schema.key stored)
        (lastOf schema.key desired) step.phase step.key = some step := by
    obtain ⟨step, hstep, hcall⟩ := List.mem_filterMap.1 (hwrites hw)
    obtain ⟨hphase, -, hpending⟩ := mem_script.1 hstep
    have hcall : step.call = .ok w := by
      cases hc : step.call <;> simp_all [Except.toOption]
    have hfits : step.Fits schema := fits_of_keyed hkey (fun _ _ h => (mem_of_lastOf h).2)
      (fun _ _ h => (mem_of_lastOf h).2) hpending
    exact ⟨step, hphase, hcall, (hfits w hcall).2, hpending⟩
  refine ⟨fun k => ?_, fun k hadd hupdate hdelete => get?_after_of_notMem fun hmem => ?_⟩
  · rcases get?_after writes s k with hsame | ⟨w, hw, rfl, m, hadmits, hrow⟩
    · rw [hsame]
      exact .untouched
    · obtain ⟨step, hphase, hcall, hk, hpending⟩ := hstep w hw
      rw [hrow, hk]
      exact fate_of_pending hphase hpending hcall hadmits
  · obtain ⟨w, hw, rfl⟩ := List.mem_map.1 hmem
    obtain ⟨step, -, -, hk, hpending⟩ := hstep w hw
    have hplanned := (Plan.mem_keysFor schema.table.policy hentries).2 ⟨step, hpending⟩
    rw [← hk] at hplanned
    cases hphase : step.phase <;> rw [hphase] at hplanned <;> contradiction

end

/-- An operation over any stored rows, whether it succeeds or not, and whatever the order of the keys.
The store goes through what the calls leave one after another. In each of these stores, the last one
included, every key holds what it held before, or it has been deleted, or it holds a new row with all
of its numbers or a row that has been merged to the end, as befits its records; and a key that the plan
does not list for writing holds what it held before. -/
theorem performIn_atomic (hkey : schema.KeyKept) (s : Store schema.table)
    (stored desired : List schema.table.Row) (op : Operation)
    (order : Partition schema.table.Row → Phase → Entries (Pairing schema.table.Row))
    (horder : ∀ phase, (order (Partition.ofRecords schema.key stored desired) phase).Perm
      (Partition.ofRecords schema.key stored desired).entries)
    (planOrder : Partition schema.table.Row → Entries (Pairing schema.table.Row))
    (hplan : (planOrder (Partition.ofRecords schema.key stored desired)).Perm
      (Partition.ofRecords schema.key stored desired).entries) :
    let c := Collection.ofRecords stored s none
    let planned : Performed schema.table.Row StoreError (Store schema.table) Plan :=
      c.planIn planOrder schema.kind { pending := desired }
    let out := c.performIn order schema.kind (backend schema) op { pending := desired }
    let calls := ((Collection.ofRecords stored (Backend.Observed.mk [] s) none).performIn order
      schema.kind (backend schema).observed op { pending := desired }).collection.state.calls
    ∃ plan, planned.result = .ok plan ∧
      out.collection.state = (backend schema).after (calls.map (·.1)) s ∧
      Atomic schema op stored desired plan s out.collection.state ∧
      ∀ issued, issued <+: calls.map (·.1) →
        Atomic schema op stored desired plan s ((backend schema).after issued s) := by
  intro c planned out calls
  have hsub : ∀ phase, order (Partition.ofRecords schema.key stored desired) phase ⊆
      (Partition.ofRecords schema.key stored desired).entries := fun phase => (horder phase).subset
  let steps := script schema.table.policy (lastOf schema.key stored) (lastOf schema.key desired)
    (fun phase => (order (Partition.ofRecords schema.key stored desired) phase).map (·.1)) op.phases
  obtain ⟨hplanned, -, -⟩ := Collection.planIn_of_not_drained (ε := StoreError) planOrder schema.kind
    (c := c) rfl { pending := desired }
  obtain ⟨-, hstate, -⟩ := Collection.performIn_eq_walk order schema.kind (backend schema) op (c := c)
    rfl { pending := desired } hsub
  obtain ⟨-, hseen, -⟩ := Collection.performIn_eq_walk order schema.kind (backend schema).observed op
    (c := Collection.ofRecords stored ⟨[], s⟩ none) rfl { pending := desired } hsub
  have hcalls : calls.map (·.1) = Step.asked (backend schema) steps s := by
    rw [show calls = _ from congrArg Backend.Observed.calls hseen, Step.map_calls_walk_observed]
    rfl
  have hafter : out.collection.state = (backend schema).after (calls.map (·.1)) s := by
    rw [hcalls]
    exact hstate.trans (Step.state_walk_eq_after (backend schema) steps s)
  have hatomic (issued) (hissued : issued <+: calls.map (·.1)) : Atomic schema op stored desired
      (Plan.ofEntries schema.table.policy
        (planOrder (Partition.ofRecords schema.key stored desired))) s
      ((backend schema).after issued s) := by
    rw [hcalls] at hissued
    exact atomic_of_writes hkey hplan
      fun w hw => (Step.asked_sublist (backend schema) steps s).subset (hissued.subset hw)
  refine ⟨_, hplanned, hafter, ?_, hatomic⟩
  rw [hafter]
  exact hatomic _ (List.prefix_refl _)

/-- A row that the store has never held is deleted, a new one comes, and a merge breaks off at the
second slot that it writes. -/
theorem performIn_atomic_ports :
    let schema := Schema.ofTable ⟨"ports", [
      { name := "name", type := .text, isKey := true },
      { name := "number", type := .int64, isAssigned := true },
      { name := "speed", type := .int64 },
      { name := "lanes", type := .int32 }]⟩
    let port (name : String) (speed lanes : Int64) : schema.table.Row :=
      #v[.text name, .integer 0, .integer speed, .integer lanes]
    let s := written schema (.insert (port "b" 1 1)) (empty { strict := false })
    let stored := [port "a" 5 5, port "b" 7 7, port "b" 1 1]
    let desired := [port "c" 2 2, port "b" 3 3000000000]
    let order (p : Partition schema.table.Row) (_ : Phase) := p.entries
    let c := Collection.ofRecords stored s none
    let planned : Performed schema.table.Row StoreError (Store schema.table) Plan :=
      c.planIn KeyMap.entries schema.kind { pending := desired }
    let out := c.performIn order schema.kind (backend schema) .reconcile { pending := desired }
    schema.KeyKept ∧
    (∀ phase, (order (Partition.ofRecords schema.key stored desired) phase).Perm
      (Partition.ofRecords schema.key stored desired).entries) ∧
    out.result = .error (.schema "b" (.field "lanes" (.outOfRange "i32" 3000000000))) ∧
    out.collection.counts = ⟨1, 0, 1⟩ ∧
    (out.collection.state.get? "b").map (fun row => schema.table.indices.map fun i =>
      Schema.keyPart (Table.get row i)) = some ["b", "1", "1", "1"] ∧
    ∃ plan, planned.result = .ok plan ∧
      Atomic schema .reconcile stored desired plan s out.collection.state := by
  intro schema port s stored desired order c planned out
  have hkey : schema.KeyKept := Schema.keyKept_ofKeyColumns (by decide +kernel)
  have horder : ∀ phase, (order (Partition.ofRecords schema.key stored desired) phase).Perm
      (Partition.ofRecords schema.key stored desired).entries := fun _ => .refl _
  obtain ⟨plan, hplanned, -, hatomic, -⟩ := performIn_atomic hkey s stored desired .reconcile order
    horder KeyMap.entries (.refl _)
  refine ⟨hkey, horder, ?_, ?_, ?_, plan, hplanned, hatomic⟩
  · subst out
    decide +kernel
  · subst out
    decide +kernel
  · subst out
    decide +kernel

end Store
end DesiredState
