import DesiredState.Proofs.Imprint
import DesiredState.Proofs.Schedule

/-! What reconciling leaves in a store, each phase with its keys in an order of its own. The phases act
on one store after another, but no key has a step in two of them, so that each key can be followed by
itself. -/
namespace DesiredState
namespace Store
variable {schema : Schema} {s t : Store schema.table} {desired : List schema.table.Row}
  {keys : Phase → List String}

lemma map_entry_schedule (phase : Phase) :
    (s.schedule schema keys [phase] desired).map Step.entry =
      ((s.schedule schema keys [phase] desired).map Step.key).map (JournalEntry.mk phase.kind) := by
  rw [List.map_map]
  refine List.map_congr_left fun step hstep => ?_
  rw [Step.entry, phase_eq_of_mem_schedule hstep]
  rfl

lemma keysIn_schedule (phase phase' : Phase) :
    Step.keysIn phase' (s.schedule schema keys [phase] desired) =
      if phase = phase' then (s.schedule schema keys [phase] desired).map Step.key else [] :=
  Step.keysIn_of_phase (fun _ => phase_eq_of_mem_schedule) phase'

lemma keysIn_schedule_reconcile (phase : Phase) :
    Step.keysIn phase (s.schedule schema keys Operation.reconcile.phases desired) =
      (s.schedule schema keys [phase] desired).map Step.key := by
  simp only [schedule_reconcile, Step.keysIn_append, keysIn_schedule]
  cases phase <;> simp

/-- The keys that reconciling deletes, adds and updates. -/
structure Tasks (schema : Schema) (s : Store schema.table) (desired : List schema.table.Row)
    (deleted added updated : List String) : Prop where
  mem_deleted : ∀ k, k ∈ deleted ↔ s.get? k ≠ none ∧ k ∉ desired.map schema.key
  mem_added : ∀ k, k ∈ added ↔ s.get? k = none ∧ k ∈ desired.map schema.key
  mem_updated : ∀ k, k ∈ updated ↔ ∃ r d, s.get? k = some r ∧
    lastOf schema.key desired k = some d ∧ schema.table.policy.equals r d = false

lemma tasks_schedule (hfiled : s.Filed schema)
    (hkeys : ∀ phase, (keys phase).Perm (s.keys schema desired)) : Tasks schema s desired
      ((s.schedule schema keys [.delete] desired).map Step.key)
      ((s.schedule schema keys [.add] desired).map Step.key)
      ((s.schedule schema keys [.update] desired).map Step.key) where
  mem_deleted _ := mem_deleted_iff hfiled hkeys
  mem_added _ := mem_added_iff hfiled hkeys
  mem_updated _ := mem_updated_iff hfiled hkeys

/-- What reconciling leaves in a store, by the keys that it deletes, adds and updates, in the order in
which it comes to them. -/
structure Attained (schema : Schema) (s : Store schema.table) (desired : List schema.table.Row)
    (deleted added updated : List String) (t : Store schema.table) : Prop
    extends Tasks schema s desired deleted added updated where
  /-- The keys of the store are the desired ones. -/
  holds_iff : ∀ k, t.get? k ≠ none ↔ k ∈ desired.map schema.key
  /-- A new key holds the last desired row, with the numbers that come after those of the new keys
  before it. -/
  added_row : ∀ j k d, added[j]? = some k → lastOf schema.key desired k = some d →
    t.get? k = some (numbered d (s.nextId + Int64.ofNat (j * span schema.table)))
  /-- A stored row stays where it matches, and else takes the compared slots of the last desired
  row. -/
  stored_row : ∀ k r d, s.get? k = some r → lastOf schema.key desired k = some d →
    t.get? k = some (if schema.table.policy.equals r d then r else schema.table.overlay r d)
  nextId_eq : t.nextId = s.nextId + Int64.ofNat (added.length * span schema.table)
  journal_eq : t.journal = s.journal ++ deleted.map (JournalEntry.mk .delete) ++
    added.map (JournalEntry.mk .insert) ++ updated.map (JournalEntry.mk .update)
  config_eq : t.config = s.config

/-- What is left for a desired row matches that row or, where nothing does, is made of it. -/
lemma Attained.exists_row {deleted added updated : List String}
    (hc : Attained schema s desired deleted added updated t) {k : String} {d : schema.table.Row}
    (hd : lastOf schema.key desired k = some d) :
    ∃ row, t.get? k = some row ∧ schema.table.policy.equals row d = !schema.table.holdsNaN d ∧
      (schema.table.holdsNaN d = true → schema.table.overlay row d = row) := by
  have agree {row : schema.table.Row}
      (hrow : ∀ i ∈ schema.table.compared, Table.get row i = Table.get d i) :
      schema.table.policy.equals row d = !schema.table.holdsNaN d ∧
        (schema.table.holdsNaN d = true → schema.table.overlay row d = row) :=
    ⟨Table.policy_equals_of_agree hrow, fun _ => Table.overlay_eq_self hrow⟩
  cases hr : s.get? k with
  | none =>
    have hadded : k ∈ added := (hc.mem_added k).2 ⟨hr, exists_lastOf_iff.1 ⟨d, hd⟩⟩
    obtain ⟨j, hj⟩ := List.mem_iff_getElem?.1 hadded
    exact ⟨_, hc.added_row j k d hj hd, agree fun i hi => get_numbered_of_compared d _ hi⟩
  | some r =>
    refine ⟨_, hc.stored_row k r d hr hd, ?_⟩
    split
    · next heq =>
      have hnan := Table.holdsNaN_eq_false_of_equals heq
      rw [heq, hnan]
      exact ⟨rfl, fun h => Bool.noConfusion h⟩
    · exact agree fun i hi => Table.get_overlay_of_compared r d hi

section
variable (hkey : schema.KeyKept) (hfiled : s.Filed schema)
  (hkeys : ∀ phase, (keys phase).Perm (s.keys schema desired))
  (h : Outcome.walk (Step.attempt (backend schema))
    (s.schedule schema keys Operation.reconcile.phases desired) s = ⟨t, none⟩)
include hkey hfiled hkeys h

lemma imprinted_of_schedule : Imprinted schema s desired
    ((s.schedule schema keys [.delete] desired).map Step.key)
    ((s.schedule schema keys [.add] desired).map Step.key)
    ((s.schedule schema keys [.update] desired).map Step.key) t := by
  have himprinted := imprinted_of_walk hkey hfiled
    (fun step hstep => ((mem_schedule hfiled hkeys).1 hstep).2)
    (nodup_keys_schedule hkeys (by decide)) h
  simpa only [keysIn_schedule_reconcile] using himprinted

lemma get?_of_both {k : String} {r d : schema.table.Row} (hr : s.get? k = some r)
    (hd : lastOf schema.key desired k = some d) :
    t.get? k = some (if schema.table.policy.equals r d then r else schema.table.overlay r d) := by
  have himprinted := imprinted_of_schedule hkey hfiled hkeys h
  split
  · next heq =>
    have hnone {phase : Phase} :
        k ∉ (s.schedule schema keys [phase] desired).map Step.key := by
      rw [mem_map_key_schedule hfiled hkeys, pending_eq_none_of_equals hr hd heq]
      simp
    rw [himprinted.other_row k hnone hnone hnone, hr]
  · next hne =>
    obtain ⟨r', d', hr', hd', hrow⟩ := himprinted.updated_row k
      ((mem_updated_iff hfiled hkeys).2 ⟨r, d, hr, hd, Bool.eq_false_iff.2 hne⟩)
    rw [hr] at hr'
    rw [hd] at hd'
    cases hr'
    cases hd'
    exact hrow

lemma get?_of_not_desired {k : String} (hd : lastOf schema.key desired k = none) :
    t.get? k = none := by
  have himprinted := imprinted_of_schedule hkey hfiled hkeys h
  have hnotMem := lastOf_eq_none_iff.1 hd
  by_cases hr : s.get? k = none
  · rw [himprinted.other_row k, hr]
    · exact fun hk => ((mem_deleted_iff hfiled hkeys).1 hk).1 hr
    · exact fun hk => hnotMem ((mem_added_iff hfiled hkeys).1 hk).2
    · intro hk
      obtain ⟨r, d, hr', -⟩ := (mem_updated_iff hfiled hkeys).1 hk
      rw [hr] at hr'
      cases hr'
  · exact himprinted.deleted_row k ((mem_deleted_iff hfiled hkeys).2 ⟨hr, hnotMem⟩)

/-- Going through the schedule of a reconciliation brings a store to the desired rows. -/
theorem attained_of_walk : Attained schema s desired
    ((s.schedule schema keys [.delete] desired).map Step.key)
    ((s.schedule schema keys [.add] desired).map Step.key)
    ((s.schedule schema keys [.update] desired).map Step.key) t := by
  have himprinted := imprinted_of_schedule hkey hfiled hkeys h
  have hran : Ran schema (s.schedule schema keys Operation.reconcile.phases desired) s t :=
    ran_of_walk (fun _ => fits_of_mem_schedule hkey hfiled hkeys) h
  have hadded (j k d) (hj : ((s.schedule schema keys [.add] desired).map Step.key)[j]? = some k)
      (hd : lastOf schema.key desired k = some d) :
      t.get? k = some (numbered d (s.nextId + Int64.ofNat (j * span schema.table))) := by
    obtain ⟨d', hd', hrow⟩ := himprinted.added_row j k hj
    rw [hd] at hd'
    cases hd'
    exact hrow
  refine {
    tasks_schedule hfiled hkeys with
    holds_iff := fun k => ?_
    added_row := hadded
    stored_row := fun k r d hr hd => get?_of_both hkey hfiled hkeys h hr hd
    nextId_eq := ?_
    journal_eq := ?_
    config_eq := hran.config_eq }
  · rw [← exists_lastOf_iff]
    constructor
    · intro hk
      rw [← Option.ne_none_iff_exists']
      exact fun hd => hk (get?_of_not_desired hkey hfiled hkeys h hd)
    · rintro ⟨d, hd⟩
      cases hr : s.get? k with
      | none =>
        obtain ⟨j, hj⟩ := List.mem_iff_getElem?.1
          ((mem_added_iff hfiled hkeys).2 ⟨hr, exists_lastOf_iff.1 ⟨d, hd⟩⟩)
        rw [hadded j k d hj hd]
        exact Option.some_ne_none _
      | some r =>
        rw [get?_of_both hkey hfiled hkeys h hr hd]
        exact Option.some_ne_none _
  · rw [hran.nextId_eq, Step.used, tally_schedule_reconcile, List.length_map]
  · rw [hran.journal_eq, schedule_reconcile, List.map_append, List.map_append, map_entry_schedule,
      map_entry_schedule, map_entry_schedule, List.append_assoc, List.append_assoc]
    rfl

end

end Store
end DesiredState
