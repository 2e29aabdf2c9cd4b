import DesiredState.Proofs.Answers

/-! Operations on the rows of a store, each phase with its keys in an order of its own. Every step finds
the store as it was for its key at the start, so that a run gets to its end if each step has a write
and the numbers of all new rows are accepted; and how many new rows there are is the same in any
order. -/
namespace DesiredState

lemma Phase.kind_eq_insert_iff {phase : Phase} : phase.kind = .insert ↔ phase = .add := by
  cases phase <;> simp [kind]

lemma Write.used_eq {table : Table} (w : Write table.Row) :
    w.used = if w.kind = .insert then Store.span table else 0 := by
  cases w <;> simp [used, kind]

/-- A run that fails does so in the phase of one of its steps, where merges belong to the phase that
updates. -/
lemma Step.exists_of_walk_failed {α ε σ : Type} {backend : Backend α ε σ} {steps : List (Step α)}
    {s : σ} {e : ReconcileError ε}
    (hcalls : ∀ step ∈ steps, ∀ e, step.call = .error e → step.phase = .update)
    (h : (Outcome.walk (attempt backend) steps s).error? = some e) :
    ∃ step ∈ steps, e.phase? = some step.phase := by
  induction steps generalizing s with
  | nil => cases h
  | cons step steps ih =>
    rcases hattempt : step.attempt backend s with ⟨u, _ | e'⟩
    · rw [Outcome.walk_cons_of_done steps hattempt] at h
      obtain ⟨st, hst, hphase⟩ := ih (fun st hst => hcalls st (.tail _ hst)) h
      exact ⟨st, .tail _ hst, hphase⟩
    · rw [Outcome.walk_cons_of_failed steps hattempt] at h
      obtain rfl := Option.some_inj.1 h
      refine ⟨step, .head _, ?_⟩
      rcases hcall : step.call with e | w
      · simp only [attempt, hcall] at hattempt
        cases hattempt
        rw [hcalls step (.head _) e hcall]
        rfl
      · simp only [attempt, hcall, Outcome.mk.injEq, Option.map_eq_some_iff] at hattempt
        obtain ⟨-, refusal, -, rfl⟩ := hattempt
        rfl

lemma Step.tally_perm {α : Type} {steps steps' : List (Step α)} (h : steps.Perm steps') :
    tally steps = tally steps' := by
  ext <;> exact h.countP_eq _

namespace Store
variable {schema : Schema} {s t : Store schema.table} {desired : List schema.table.Row}
  {phases : List Phase}

/-- What a store expects of a step: that a key to be added is free, and any other is not. -/
def Ready (s : Store schema.table) (step : Step schema.table.Row) : Prop :=
  s.get? step.key = none ↔ step.phase = .add

lemma Ran.ready_iff {steps : List (Step schema.table.Row)} {step : Step schema.table.Row}
    (h : Ran schema steps s t) (hnot : step.key ∉ steps.map Step.key) :
    t.Ready step ↔ s.Ready step := by
  rw [Ready, Ready, h.get?_eq step.key hnot]

lemma ready_of_pending {phase : Phase} {k : String} {step : Step schema.table.Row}
    (h : pending schema.table.policy s.get? (lastOf schema.key desired) phase k = some step) :
    s.Ready step := by
  cases phase with
  | delete =>
    obtain ⟨row, hrow, -, rfl⟩ := pending_delete_iff.1 h
    simp [Ready, hrow]
  | add =>
    obtain ⟨row, hnone, -, rfl⟩ := pending_add_iff.1 h
    simp [Ready, hnone]
  | update =>
    obtain ⟨row, d, hrow, -, -, rfl⟩ := pending_update_iff.1 h
    simp [Ready, hrow]

/-- A step that the store is ready for succeeds if it has a write, and one that adds a row if the
numbers of the row are accepted. -/
lemma error?_attempt_eq_none_iff {step : Step schema.table.Row} (hfits : step.Fits schema)
    (hready : s.Ready step) : (step.attempt (backend schema) s).error? = none ↔
      (∃ w, step.call = .ok w) ∧ (step.phase = .add → Admits schema.table s.nextId) := by
  rcases hcall : step.call with e | w
  · simp [Step.attempt, hcall]
  · obtain ⟨hkind, hkey⟩ := hfits w hcall
    rw [Ready, ← hkey] at hready
    have hanswer := answer_eq_none_iff (w := w) (hready.trans (by rw [hkind, Phase.kind_eq_insert_iff]))
    rw [hkind, Phase.kind_eq_insert_iff] at hanswer
    simpa [Step.attempt, hcall] using hanswer

/-- Where a store is ready for every step and no key has two, a run gets to its end if every step has a
write and the numbers of all new rows are accepted. -/
theorem error?_walk_eq_none_iff {steps : List (Step schema.table.Row)}
    (hfits : ∀ step ∈ steps, step.Fits schema) (hready : ∀ step ∈ steps, s.Ready step)
    (hnodup : (steps.map Step.key).Nodup) :
    (Outcome.walk (Step.attempt (backend schema)) steps s).error? = none ↔
      (∀ step ∈ steps, ∃ w, step.call = .ok w) ∧ ∀ j < (Step.tally steps).added,
        Admits schema.table (s.nextId + Int64.ofNat (j * span schema.table)) := by
  induction steps generalizing s with
  | nil => simp [Step.tally]
  | cons step steps ih =>
    rw [List.map_cons, List.nodup_cons] at hnodup
    have hstep := error?_attempt_eq_none_iff (hfits step (.head _)) (hready step (.head _))
    have hzero : s.nextId + Int64.ofNat (0 * span schema.table) = s.nextId := by
      rw [Nat.zero_mul]
      exact Int64.add_zero s.nextId
    have hadded : (Step.tally (step :: steps)).added =
        (Step.tally steps).added + if step.phase = .add then 1 else 0 := by
      simp [Step.tally, List.countP_cons]
    rcases hattempt : step.attempt (backend schema) s with ⟨u, _ | e⟩
    · obtain ⟨w, hw, rfl⟩ := eq_written_of_attempt hattempt
      obtain ⟨hkind, hkey⟩ := hfits step (.head _) w hw
      rw [hattempt] at hstep
      have hadmits := (hstep.1 rfl).2
      have hready' (st) (hst : st ∈ steps) : (written schema w s).Ready st := by
        have hne : schema.key w.record ≠ st.key := fun heq =>
          hnodup.1 (List.mem_map.2 ⟨st, hst, heq.symm.trans hkey⟩)
        rw [Ready, get?_written, if_neg hne]
        exact hready st (.tail _ hst)
      rw [Outcome.walk_cons_of_done steps hattempt,
        ih (fun st hst => hfits st (.tail _ hst)) hready' hnodup.2, List.forall_mem_cons, hadded]
      refine and_congr (by simp [hw]) ?_
      have hused : w.used = if step.phase = .add then span schema.table else 0 := by
        rw [Write.used_eq, hkind]
        simp only [Phase.kind_eq_insert_iff]
      -- The numbers of the rows that are still to come start where those of this one end.
      by_cases hphase : step.phase = .add
      · rw [if_pos hphase] at hused
        simp only [hphase, if_true, Nat.forall_lt_succ_left, hzero, hadmits hphase, true_and,
          written, hused, Nat.succ_mul, Nat.add_comm _ (span schema.table), Int64.ofNat_add,
          Int64.add_assoc]
      · rw [if_neg hphase] at hused
        simp only [hphase, if_false, Nat.add_zero, written, hused]
        rw [show Int64.ofNat 0 = 0 from rfl, Int64.add_zero]
    · rw [Outcome.walk_cons_of_failed steps hattempt]
      rw [hattempt] at hstep
      refine iff_of_false (Option.some_ne_none e) fun h => ?_
      refine Option.some_ne_none e (hstep.2 ⟨h.1 step (.head _), fun hphase => ?_⟩)
      have hfirst := h.2 0 (by rw [hadded, if_pos hphase]; omega)
      rwa [hzero] at hfirst

section
variable {keys keys' : Phase → List String}

lemma schedule_append (as bs : List Phase) : s.schedule schema keys (as ++ bs) desired =
    s.schedule schema keys as desired ++ s.schedule schema keys bs desired := List.flatMap_append

lemma schedule_perm (h : ∀ phase, (keys phase).Perm (keys' phase)) (phases : List Phase) :
    (s.schedule schema keys phases desired).Perm (s.schedule schema keys' phases desired) :=
  List.Perm.flatMap_left phases fun phase _ => (h phase).filterMap _

lemma phase_of_mem_schedule {step : Step schema.table.Row}
    (h : step ∈ s.schedule schema keys phases desired) : step.phase ∈ phases := (mem_script.1 h).1

lemma phase_eq_of_mem_schedule {phase : Phase} {step : Step schema.table.Row}
    (h : step ∈ s.schedule schema keys [phase] desired) : step.phase = phase :=
  List.mem_singleton.1 (phase_of_mem_schedule h)

lemma schedule_reconcile : s.schedule schema keys Operation.reconcile.phases desired =
    s.schedule schema keys [.delete] desired ++ (s.schedule schema keys [.add] desired ++
      s.schedule schema keys [.update] desired) := by
  rw [← schedule_append, ← schedule_append]
  rfl

lemma countP_schedule (phase phase' : Phase) :
    (s.schedule schema keys [phase'] desired).countP (·.phase = phase) =
      if phase' = phase then (s.schedule schema keys [phase'] desired).length else 0 := by
  split
  · next heq =>
    exact List.countP_eq_length.2 fun step hstep => by simp [phase_eq_of_mem_schedule hstep, heq]
  · next hne =>
    exact List.countP_eq_zero.2 fun step hstep => by simp [phase_eq_of_mem_schedule hstep, hne]

lemma tally_schedule_reconcile :
    Step.tally (s.schedule schema keys Operation.reconcile.phases desired) =
      ⟨(s.schedule schema keys [.add] desired).length,
        (s.schedule schema keys [.update] desired).length,
        (s.schedule schema keys [.delete] desired).length⟩ := by
  rw [schedule_reconcile]
  ext <;> simp [Step.tally, countP_schedule]

lemma mem_map_key_schedule (hfiled : s.Filed schema)
    (hkeys : ∀ phase, (keys phase).Perm (s.keys schema desired)) {phase : Phase} {k : String} :
    k ∈ (s.schedule schema keys [phase] desired).map Step.key ↔ ∃ step,
      pending schema.table.policy s.get? (lastOf schema.key desired) phase k = some step := by
  rw [List.mem_map]
  constructor
  · rintro ⟨step, hstep, rfl⟩
    rw [← phase_eq_of_mem_schedule hstep]
    exact ⟨step, ((mem_schedule hfiled hkeys).1 hstep).2⟩
  · rintro ⟨step, hstep⟩
    obtain ⟨rfl, rfl⟩ := phase_and_key_of_pending hstep
    exact ⟨step, (mem_schedule hfiled hkeys).2 ⟨List.mem_singleton.2 rfl, hstep⟩, rfl⟩

section
variable (hfiled : s.Filed schema) (hkeys : ∀ phase, (keys phase).Perm (s.keys schema desired))
  {k : String}
include hfiled hkeys

lemma mem_deleted_iff : k ∈ (s.schedule schema keys [.delete] desired).map Step.key ↔
    s.get? k ≠ none ∧ k ∉ desired.map schema.key := by
  rw [mem_map_key_schedule hfiled hkeys, ← lastOf_eq_none_iff, Option.ne_none_iff_exists']
  simp [pending_delete_iff]

lemma mem_added_iff : k ∈ (s.schedule schema keys [.add] desired).map Step.key ↔
    s.get? k = none ∧ k ∈ desired.map schema.key := by
  rw [mem_map_key_schedule hfiled hkeys, ← exists_lastOf_iff]
  simp [pending_add_iff]

lemma mem_updated_iff : k ∈ (s.schedule schema keys [.update] desired).map Step.key ↔
    ∃ r d, s.get? k = some r ∧ lastOf schema.key desired k = some d ∧
      schema.table.policy.equals r d = false := by
  rw [mem_map_key_schedule hfiled hkeys]
  simp [pending_update_iff]

end

lemma exists_call_of_mem_schedule (hfiled : s.Filed schema)
    (hkeys : ∀ phase, (keys phase).Perm (s.keys schema desired)) (hphases : .update ∉ phases)
    {step : Step schema.table.Row} (h : step ∈ s.schedule schema keys phases desired) :
    ∃ w, step.call = .ok w := by
  obtain ⟨hphase, hpending⟩ := (mem_schedule hfiled hkeys).1 h
  cases hcall : step.call with
  | ok w => exact ⟨w, rfl⟩
  | error e => exact absurd (update_of_pending_error hpending hcall ▸ hphase) hphases

section
variable (hkey : schema.KeyKept) (hfiled : s.Filed schema)
  (hkeys : ∀ phase, (keys phase).Perm (s.keys schema desired))
include hkey hfiled hkeys

lemma fits_of_mem_schedule {step : Step schema.table.Row}
    (h : step ∈ s.schedule schema keys phases desired) : step.Fits schema :=
  fits_of_pending hkey hfiled ((mem_schedule hfiled hkeys).1 h).2

/-- A run through a schedule gets to its end if every step has a write and the numbers of all new rows
are accepted. -/
theorem error?_walk_schedule_iff (hphases : phases.Nodup) :
    (Outcome.walk (Step.attempt (backend schema)) (s.schedule schema keys phases desired) s).error? =
      none ↔ (∀ step ∈ s.schedule schema keys phases desired, ∃ w, step.call = .ok w) ∧
        ∀ j < (Step.tally (s.schedule schema keys phases desired)).added,
          Admits schema.table (s.nextId + Int64.ofNat (j * span schema.table)) := by
  refine error?_walk_eq_none_iff (fun _ => fits_of_mem_schedule hkey hfiled hkeys)
    (fun step hstep => ?_) (nodup_keys_schedule hkeys hphases)
  exact ready_of_pending ((mem_schedule hfiled hkeys).1 hstep).2

/-- Deletions have nothing to fail at. -/
lemma exists_walk_deletes : ∃ u, Outcome.walk (Step.attempt (backend schema))
    (s.schedule schema keys [.delete] desired) s = ⟨u, none⟩ := by
  have hdone := (error?_walk_schedule_iff hkey hfiled hkeys (show [Phase.delete].Nodup by decide)).2
    ⟨fun step => exists_call_of_mem_schedule hfiled hkeys (by decide), fun j hj => by
      simp [Step.tally, countP_schedule] at hj⟩
  exact ⟨_, congrArg (Outcome.mk _) hdone⟩

/-- The phase that fails is that of the insertions if some number is not accepted, and else that of the
updates. -/
theorem phase?_of_failed {e : ReconcileError StoreError}
    (h : (Outcome.walk (Step.attempt (backend schema))
      (s.schedule schema keys Operation.reconcile.phases desired) s).error? = some e) :
    let adds := (s.schedule schema keys [.add] desired).length
    let admitted := ∀ j < adds, Admits schema.table (s.nextId + Int64.ofNat (j * span schema.table))
    (admitted → e.phase? = some .update) ∧ (¬admitted → e.phase? = some .add) := by
  intro adds admitted
  have hphase {phase} {u} (he : (Outcome.walk (Step.attempt (backend schema))
      (s.schedule schema keys [phase] desired) u).error? = some e) : e.phase? = some phase := by
    obtain ⟨step, hstep, hphase⟩ := Step.exists_of_walk_failed (fun step hstep e hcall =>
      update_of_pending_error ((mem_schedule hfiled hkeys).1 hstep).2 hcall) he
    rw [hphase, phase_eq_of_mem_schedule hstep]
  obtain ⟨u, hdeletes⟩ := exists_walk_deletes (s := s) hkey hfiled hkeys
  -- The insertions start from another store, but with the same next number, so their fate is read off
  -- the schedule of the first two phases.
  have hadds : (Outcome.walk (Step.attempt (backend schema))
      (s.schedule schema keys [.add] desired) u).error? = none ↔ admitted := by
    have hsplit : s.schedule schema keys [.delete, .add] desired =
        s.schedule schema keys [.delete] desired ++ s.schedule schema keys [.add] desired :=
      schedule_append [.delete] [.add]
    have hadded : (Step.tally (s.schedule schema keys [.delete, .add] desired)).added = adds := by
      rw [hsplit]
      simp [Step.tally, countP_schedule, adds]
    have hdone := error?_walk_schedule_iff hkey hfiled hkeys
      (show [Phase.delete, Phase.add].Nodup by decide)
    rw [and_iff_right fun step => exists_call_of_mem_schedule hfiled hkeys (by decide), hadded,
      hsplit, Outcome.walk_append, hdeletes] at hdone
    exact hdone
  rw [schedule_reconcile, Outcome.walk_append, hdeletes] at h
  simp only [Outcome.walk_append] at h
  rcases hwalk : Outcome.walk (Step.attempt (backend schema))
    (s.schedule schema keys [.add] desired) u with ⟨v, _ | e'⟩
  · rw [hwalk] at h hadds
    exact ⟨fun _ => hphase h, fun hrefused => absurd (hadds.1 rfl) hrefused⟩
  · rw [hwalk] at h hadds
    obtain rfl := Option.some_inj.1 h
    exact ⟨fun hadmitted => absurd (hadds.2 hadmitted) (Option.some_ne_none _),
      fun _ => hphase (congrArg Outcome.error? hwalk)⟩

end

end

end Store
end DesiredState
