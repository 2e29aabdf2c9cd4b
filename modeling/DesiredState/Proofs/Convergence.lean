import DesiredState.Proofs.Attained

/-! What reconciling leaves in a store where each phase comes to its keys in ascending order: what it
leaves in any order, and a journal and numbers that ascend by the keys. -/
namespace DesiredState
namespace Store
variable {schema : Schema} {s t : Store schema.table} {desired : List schema.table.Row}

lemma due_eq_schedule (phase : Phase) : s.due schema desired phase =
    s.schedule schema (fun _ => s.keys schema desired) [phase] desired :=
  (List.append_nil _).symm

lemma phase_of_mem_due {phase : Phase} {step : Step schema.table.Row}
    (h : step ∈ s.due schema desired phase) : step.phase = phase := by
  rw [due_eq_schedule] at h
  exact phase_eq_of_mem_schedule h

lemma mem_map_key_due (hfiled : s.Filed schema) {phase : Phase} {k : String} :
    k ∈ (s.due schema desired phase).map Step.key ↔ ∃ step,
      pending schema.table.policy s.get? (lastOf schema.key desired) phase k = some step := by
  rw [due_eq_schedule]
  exact mem_map_key_schedule hfiled fun _ => .refl _

lemma pairwise_map_key_due (phase : Phase) :
    ((s.due schema desired phase).map Step.key).Pairwise (· < ·) := by
  rw [due, map_key_filterMap_pending]
  exact (KeyMap.pairwise_keys _).filter _

lemma tally_agenda (s : Store schema.table) (desired : List schema.table.Row) :
    Step.tally (s.agenda schema desired) = ⟨(s.due schema desired .add).length,
      (s.due schema desired .update).length, (s.due schema desired .delete).length⟩ := by
  simp only [due_eq_schedule]
  rw [agenda_eq_schedule]
  exact tally_schedule_reconcile

/-- The keys that reconciling deletes, adds and updates, each list ascending. -/
structure OrderedTasks (schema : Schema) (s : Store schema.table) (desired : List schema.table.Row)
    (deleted added updated : List String) : Prop
    extends Tasks schema s desired deleted added updated where
  deleted_ascend : deleted.Pairwise (· < ·)
  added_ascend : added.Pairwise (· < ·)
  updated_ascend : updated.Pairwise (· < ·)

lemma orderedTasks_due (hfiled : s.Filed schema) : OrderedTasks schema s desired
    ((s.due schema desired .delete).map Step.key) ((s.due schema desired .add).map Step.key)
    ((s.due schema desired .update).map Step.key) where
  toTasks := by
    simp only [due_eq_schedule]
    exact tasks_schedule hfiled fun _ => .refl _
  deleted_ascend := pairwise_map_key_due .delete
  added_ascend := pairwise_map_key_due .add
  updated_ascend := pairwise_map_key_due .update

/-- A store that has been brought from a state to desired rows by writes to some keys, in ascending
order for each kind of writes. -/
structure Converged (schema : Schema) (s : Store schema.table) (desired : List schema.table.Row)
    (deleted added updated : List String) (t : Store schema.table) : Prop
    extends Attained schema s desired deleted added updated t,
      OrderedTasks schema s desired deleted added updated

theorem converged_of_walk (hkey : schema.KeyKept) (hfiled : s.Filed schema)
    (h : Outcome.walk (Step.attempt (backend schema)) (s.agenda schema desired) s = ⟨t, none⟩) :
    Converged schema s desired ((s.due schema desired .delete).map Step.key)
      ((s.due schema desired .add).map Step.key)
      ((s.due schema desired .update).map Step.key) t := by
  have hattained : Attained schema s desired ((s.due schema desired .delete).map Step.key)
      ((s.due schema desired .add).map Step.key)
      ((s.due schema desired .update).map Step.key) t := by
    rw [agenda_eq_schedule] at h
    simp only [due_eq_schedule]
    exact attained_of_walk hkey hfiled (fun _ => .refl _) h
  exact { hattained, orderedTasks_due hfiled with }

/-- Reconciling that succeeds brings the store to the desired rows, and counts what it has written. -/
theorem reconcile_converges (hkey : schema.KeyKept) (hfiled : s.Filed schema)
    (h : (s.perform schema .reconcile desired).result = .ok ()) :
    ∃ deleted added updated, Converged schema s desired deleted added updated
        (s.perform schema .reconcile desired).collection.state ∧
      (s.perform schema .reconcile desired).collection.counts =
        ⟨added.length, updated.length, deleted.length⟩ := by
  obtain ⟨hwalk, hcounts⟩ := walk_of_reconcile hfiled h
  refine ⟨_, _, _, converged_of_walk hkey hfiled hwalk, ?_⟩
  rw [hcounts, tally_agenda, List.length_map, List.length_map, List.length_map]

/-- One host goes, two come and one is merged; where a name is desired twice, the last row counts. -/
theorem reconcile_converges_hosts :
    let s := twoHosts { firstId := 7, strict := true }
    let desired := [host "d" "new" (.ofNat 3), host "b" "new" (.ofNat 4), host "c" "new" (.ofNat 5),
      host "d" "new" (.ofNat 6)]
    let t := (s.perform hosts .reconcile desired).collection.state
    hosts.KeyKept ∧ s.Filed hosts ∧ (s.perform hosts .reconcile desired).result = .ok () ∧
    (∃ deleted added updated, Converged hosts s desired deleted added updated t ∧
      (s.perform hosts .reconcile desired).collection.counts =
        ⟨added.length, updated.length, deleted.length⟩) ∧
    (s.perform hosts .reconcile desired).collection.counts = ⟨2, 1, 1⟩ := by
  intro s desired t
  have hfiled : s.Filed hosts := filed_twoHosts _
  have hdone : (s.perform hosts .reconcile desired).result = .ok () := by decide +kernel
  exact ⟨keyKept_hosts, hfiled, hdone, reconcile_converges keyKept_hosts hfiled hdone,
    by decide +kernel⟩

end Store
end DesiredState
