import DesiredState.Proofs.FailurePoint
import DesiredState.Proofs.Forecast

/-! Reconciling rows that a strict store need not hold, such as a listing of it that others have
written after. The store checks a key when a phase comes to it, and by then the earlier phases have
written. But a key is written in one phase only, so that what the store held at the start tells how
every check turns out, and with it the first one that fails. -/
namespace DesiredState

lemma exists_isLeast_of_not_forall {P : String → Prop} {keys : List String}
    (h : ¬∀ k ∈ keys, P k) : ∃ k, IsLeast {k | k ∈ keys ∧ ¬P k} k := by
  classical
  simp only [not_forall, exists_prop] at h
  obtain ⟨k, hk, hnot⟩ := h
  have hmem : k ∈ keys.toFinset.filter fun k => ¬P k := by simp [hk, hnot]
  have hleast := Finset.isLeast_min' _ ⟨k, hmem⟩
  rw [Finset.coe_filter] at hleast
  simp only [List.mem_toFinset] at hleast
  exact ⟨_, hleast⟩

/-- So many writes of one phase. -/
def Counts.only (n : Nat) : Phase → Counts
  | .delete => ⟨0, 0, n⟩
  | .add => ⟨n, 0, 0⟩
  | .update => ⟨0, n, 0⟩

lemma Step.tally_of_phase {α : Type} {phase : Phase} {steps : List (Step α)}
    (h : ∀ step ∈ steps, step.phase = phase) : tally steps = Counts.only steps.length phase := by
  rw [tally_eq]
  simp only [keysIn_of_phase h]
  cases phase <;> simp [Counts.only]

namespace Store
variable {schema : Schema} {s : Store schema.table} {step : Step schema.table.Row}

/-- What a phase expects of a key: one to be added that it is free, and any other that it is not. -/
def Expects (s : Store schema.table) (phase : Phase) (k : String) : Prop :=
  s.get? k = none ↔ phase = .add

@[simp] lemma expects_delete {k : String} : s.Expects .delete k ↔ s.get? k ≠ none := by
  simp [Expects]

@[simp] lemma expects_add {k : String} : s.Expects .add k ↔ s.get? k = none := by
  simp [Expects]

@[simp] lemma expects_update {k : String} : s.Expects .update k ↔ s.get? k ≠ none := by
  simp [Expects]

/-- The error of a strict store for a write that has not the key for it. -/
def refusal (table key : String) : WriteKind → StoreError
  | .insert => .duplicate table key
  | .update => .notFound table key
  | .delete => .notFound table key

lemma answer_of_unsuited (hstrict : s.config.strict = true) {w : Write schema.table.Row}
    (hsuits : ¬w.Suits schema s) : (backend schema).answer w s =
      ⟨s, some (refusal schema.table.name (schema.key w.record) w.kind), []⟩ := by
  have hmissing (hkind : w.kind ≠ .insert) :
      (s.config.strict && !s.rows.contains (schema.key w.record)) = true := by
    rw [suits_iff_contains hkind] at hsuits
    simp [hstrict, hsuits]
  cases w with
  | insert row =>
    have hthere := not_not.1 fun hfree => hsuits (suits_insert_iff.2 hfree)
    exact if_pos (Bool.and_eq_true_iff.2 ⟨hstrict, hthere⟩)
  | update row => exact if_pos (hmissing (by simp [Write.kind]))
  | delete row => exact if_pos (hmissing (by simp [Write.kind]))

lemma attempt_of_not_ready (hstrict : s.config.strict = true) (hfits : step.Fits schema)
    (hcall : ∃ w, step.call = .ok w) (hready : ¬s.Ready step) :
    step.attempt (backend schema) s = ⟨s, some (.transaction step.phase step.key
      (refusal schema.table.name step.key step.phase.kind))⟩ := by
  obtain ⟨w, hw⟩ := hcall
  obtain ⟨hkind, hkey⟩ := hfits w hw
  have hsuits : ¬w.Suits schema s := by
    rwa [Write.Suits, hkey, hkind, Phase.kind_eq_insert_iff]
  have hanswer := answer_of_unsuited hstrict hsuits
  rw [hkey, hkind] at hanswer
  simp [Step.attempt, hw, hanswer]

/-- A run of a strict store stops at the first step that the store is not ready for, where no step before
fails for another reason. -/
lemma walk_of_not_ready (hstrict : s.config.strict = true) {as bs : List (Step schema.table.Row)}
    (hfits : ∀ st ∈ as ++ step :: bs, st.Fits schema)
    (hcalls : ∀ st ∈ as ++ step :: bs, ∃ w, st.call = .ok w)
    (hnodup : ((as ++ step :: bs).map Step.key).Nodup)
    (hnumbers : Numberable schema.table s.nextId (Step.tally as).added)
    (hready : ∀ st ∈ as, s.Ready st) (hnot : ¬s.Ready step) :
    (Outcome.walk (Step.attempt (backend schema)) (as ++ step :: bs) s).error? =
        some (.transaction step.phase step.key
          (refusal schema.table.name step.key step.phase.kind)) ∧
      Step.accepted (backend schema) (as ++ step :: bs) s = as := by
  rw [List.map_append, List.map_cons] at hnodup
  have hfits_as (st) (hst : st ∈ as) : st.Fits schema := hfits st (by simp [hst])
  have hdone : (Outcome.walk (Step.attempt (backend schema)) as s).error? = none :=
    (error?_walk_eq_none_iff hfits_as hready hnodup.of_append_left).2
      ⟨fun st hst => hcalls st (by simp [hst]), numberable_iff.1 hnumbers⟩
  rcases hwalk : Outcome.walk (Step.attempt (backend schema)) as s with ⟨u, e?⟩
  rw [hwalk] at hdone
  obtain rfl : e? = none := hdone
  -- The steps before have left the key of this one alone.
  have hran := ran_of_walk hfits_as hwalk
  have hunready : ¬u.Ready step := mt (hran.ready_iff fun hmem =>
    List.disjoint_of_nodup_append hnodup hmem (.head _)).1 hnot
  have hattempt := attempt_of_not_ready (by rwa [hran.config_eq]) (hfits step (by simp))
    (hcalls step (by simp)) hunready
  rw [Outcome.walk_of_split hwalk hattempt]
  exact ⟨rfl, Step.accepted_of_split hwalk hattempt bs⟩

end Store

namespace Schema
variable {schema : Schema} {stored desired : List schema.table.Row} {phase : Phase}
  {phases : List Phase} {step : Step schema.table.Row}

lemma script_append (as bs : List Phase) : schema.script stored desired (as ++ bs) =
    schema.script stored desired as ++ schema.script stored desired bs := List.flatMap_append

lemma script_singleton : schema.script stored desired [phase] =
    (Partition.ofRecords schema.key stored desired).keys.filterMap
      (pending schema.table.policy (lastOf schema.key stored) (lastOf schema.key desired) phase) := by
  simp [script, DesiredState.script]

lemma phase_of_mem_script (h : step ∈ schema.script stored desired [phase]) : step.phase = phase :=
  List.mem_singleton.1 (mem_script.1 h).1

lemma fits_of_mem_script (hkey : schema.KeyKept) (h : step ∈ schema.script stored desired phases) :
    step.Fits schema :=
  Store.fits_of_keyed hkey (fun _ _ hrow => (mem_of_lastOf hrow).2)
    (fun _ _ hrow => (mem_of_lastOf hrow).2) (mem_script.1 h).2.2

lemma nodup_keys_script (hphases : phases.Nodup) :
    ((schema.script stored desired phases).map Step.key).Nodup :=
  DesiredState.nodup_keys_script hphases fun _ => KeyMap.nodup_keys _

/-- A plan for getting from the stored rows to the desired ones, made from the entries of their
partition in any order. -/
def Plans (schema : Schema) (stored desired : List schema.table.Row) (plan : Plan) : Prop :=
  ∃ entries : Entries (Pairing schema.table.Row),
    entries.Perm (Partition.ofRecords schema.key stored desired).entries ∧
    plan = Plan.ofEntries schema.table.policy entries

section
variable {plan : Plan} (hplan : schema.Plans stored desired plan)
include hplan

lemma pairwise_keysFor (phase : Phase) : (plan.keysFor phase).Pairwise (· < ·) := by
  obtain ⟨entries, hentries, rfl⟩ := hplan
  exact Plan.pairwise_keysFor _ hentries phase

lemma mem_keysFor {k : String} : k ∈ plan.keysFor phase ↔ ∃ step,
    pending schema.table.policy (lastOf schema.key stored) (lastOf schema.key desired) phase k =
      some step := by
  obtain ⟨entries, hentries, rfl⟩ := hplan
  exact Plan.mem_keysFor _ hentries

lemma mem_keysFor_of_mem_script (h : step ∈ schema.script stored desired phases) :
    step.key ∈ plan.keysFor step.phase :=
  (mem_keysFor hplan).2 ⟨step, (mem_script.1 h).2.2⟩

lemma map_key_script : (schema.script stored desired [phase]).map Step.key = plan.keysFor phase := by
  have : Std.Irrefl (α := String) (· < ·) := ⟨String.lt_irrefl⟩
  rw [script_singleton, map_key_filterMap_pending]
  refine ((KeyMap.pairwise_keys _).filter _).eq_of_mem_iff
    (pairwise_keysFor hplan phase) fun k => ?_
  rw [List.mem_filter, mem_keysFor hplan, Option.isSome_iff_exists]
  exact and_iff_right_of_imp fun ⟨_, hstep⟩ => Partition.mem_keys_of_pending hstep

lemma tally_script_singleton : Step.tally (schema.script stored desired [phase]) =
    Counts.only (plan.keysFor phase).length phase := by
  rw [Step.tally_of_phase fun _ => phase_of_mem_script, ← map_key_script hplan, List.length_map]

lemma tally_script_reconcile :
    Step.tally (schema.script stored desired Operation.reconcile.phases) =
      ⟨plan.add.length, plan.update.length, plan.delete.length⟩ := by
  obtain ⟨entries, hentries, rfl⟩ := hplan
  exact tally_script _ (fun _ => .refl _) hentries

lemma exists_call_of_mem_script (hmerges : ∀ k ∈ plan.update, ∀ r d,
      lastOf schema.key stored k = some r → lastOf schema.key desired k = some d →
        (schema.table.policy.merge r d).error? = none)
    (h : step ∈ schema.script stored desired phases) : ∃ w, step.call = .ok w := by
  have hplanned := mem_keysFor_of_mem_script hplan h
  obtain ⟨-, -, hpending⟩ := mem_script.1 h
  cases hcall : step.call with
  | ok w => exact ⟨w, rfl⟩
  | error e =>
    rw [update_of_pending_error hpending hcall] at hplanned hpending
    obtain ⟨r, d, hr, hd, -, hstep⟩ := pending_update_iff.1 hpending
    have hmerge := hmerges step.key hplanned r d hr hd
    rcases hm : schema.table.policy.merge r d with ⟨m, e?⟩
    rw [hm] at hmerge
    obtain rfl : e? = none := hmerge
    rw [hstep, hm] at hcall
    cases hcall

end

end Schema

namespace Store
variable {schema : Schema} {s : Store schema.table} {stored desired : List schema.table.Row}
  {phase : Phase} {plan : Plan}

/-- The step of the least unexpected key of a phase, after steps that the store is ready for. -/
lemma exists_split_of_isLeast
    (hplan : schema.Plans stored desired plan) {k : String}
    (hk : IsLeast {k | k ∈ plan.keysFor phase ∧ ¬s.Expects phase k} k) :
    ∃ as step bs, schema.script stored desired [phase] = as ++ step :: bs ∧ step.phase = phase ∧
      step.key = k ∧ (∀ st ∈ as, s.Ready st) ∧ ¬s.Ready step ∧
      Step.tally as = Counts.only ((plan.keysFor phase).countP (· < k)) phase := by
  obtain ⟨⟨hmem, hnot⟩, hleast⟩ := hk
  have hkeys : (schema.script stored desired [phase]).map Step.key = _ := Schema.map_key_script hplan
  rw [← hkeys] at hmem
  obtain ⟨step, hstep, rfl⟩ := List.mem_map.1 hmem
  obtain ⟨as, bs, hsplit⟩ := List.append_of_mem hstep
  have hphase (st) (hst : st ∈ as ++ step :: bs) : st.phase = phase :=
    Schema.phase_of_mem_script (hsplit ▸ hst)
  rw [hsplit, List.map_append, List.map_cons] at hkeys
  have hascend := Schema.pairwise_keysFor hplan phase
  rw [← hkeys] at hascend hleast ⊢
  refine ⟨as, step, bs, hsplit, hphase step (by simp), rfl, fun st hst => ?_, ?_, ?_⟩
  · by_contra hunready
    have hst_mem : st.key ∈ as.map Step.key := List.mem_map.2 ⟨st, hst, rfl⟩
    refine Std.not_le.2 ((lt_of_ascending_split hascend).1 st.key hst_mem) (hleast ⟨?_, ?_⟩)
    · exact List.mem_append_left _ hst_mem
    · rwa [Expects, ← hphase st (by simp [hst])]
  · rwa [Ready, hphase step (by simp)]
  · rw [countP_lt_of_split hascend, List.length_map,
      Step.tally_of_phase fun st hst => hphase st (by simp [hst])]

/-- How a strict store ends the run for a plan, and what has been counted by then. It is the first phase
with a key that the store does not hold as it should, or holds though it should not, that fails, and
it does so at the least of these keys. -/
inductive Ending (schema : Schema) (s : Store schema.table) (plan : Plan) :
    Except (ReconcileError StoreError) Unit → Counts → Prop
  | delete {k} (hk : IsLeast {k | k ∈ plan.delete ∧ s.get? k = none} k) :
    Ending schema s plan (.error (.transaction .delete k (.notFound schema.table.name k)))
      ⟨0, 0, plan.delete.countP (· < k)⟩
  | add {k} (hdelete : ∀ k ∈ plan.delete, s.get? k ≠ none)
    (hk : IsLeast {k | k ∈ plan.add ∧ s.get? k ≠ none} k) :
    Ending schema s plan (.error (.transaction .add k (.duplicate schema.table.name k)))
      ⟨plan.add.countP (· < k), 0, plan.delete.length⟩
  | update {k} (hdelete : ∀ k ∈ plan.delete, s.get? k ≠ none)
    (hadd : ∀ k ∈ plan.add, s.get? k = none)
    (hk : IsLeast {k | k ∈ plan.update ∧ s.get? k = none} k) :
    Ending schema s plan (.error (.transaction .update k (.notFound schema.table.name k)))
      ⟨plan.add.length, plan.update.countP (· < k), plan.delete.length⟩
  | done (hdelete : ∀ k ∈ plan.delete, s.get? k ≠ none) (hadd : ∀ k ∈ plan.add, s.get? k = none)
    (hupdate : ∀ k ∈ plan.update, s.get? k ≠ none) :
    Ending schema s plan (.ok ()) ⟨plan.add.length, plan.update.length, plan.delete.length⟩

section
variable (hkey : schema.KeyKept)
  (hplan : schema.Plans stored desired plan)
  (hnumbers : Numberable schema.table s.nextId plan.add.length)
  (hmerges : ∀ k ∈ plan.update, ∀ r d,
    lastOf schema.key stored k = some r → lastOf schema.key desired k = some d →
      (schema.table.policy.merge r d).error? = none)
include hkey hplan hnumbers hmerges

lemma perform_of_expected (hexpects : ∀ p, ∀ k ∈ plan.keysFor p, s.Expects p k) :
    let out := (Collection.ofRecords stored s none).performIn (fun p _ => p.entries) schema.kind
      (backend schema) .reconcile { pending := desired }
    out.result = .ok () ∧ out.collection.counts =
      ⟨plan.add.length, plan.update.length, plan.delete.length⟩ := by
  intro out
  have htally := Schema.tally_script_reconcile hplan
  have hnodup : ((schema.script stored desired Operation.reconcile.phases).map Step.key).Nodup :=
    Schema.nodup_keys_script (by decide)
  have hdone := (error?_walk_eq_none_iff (s := s)
    (fun st hst => Schema.fits_of_mem_script hkey hst)
    (fun st hst => hexpects st.phase st.key (Schema.mem_keysFor_of_mem_script hplan hst))
    hnodup).2 ⟨fun st hst => Schema.exists_call_of_mem_script hplan hmerges hst,
      numberable_iff.1 (by rwa [htally])⟩
  obtain ⟨hresult, -, hcounts⟩ := performIn_eq_walk_script (backend schema) .reconcile s stored
    desired
  rw [hdone] at hresult
  rw [Step.accepted_of_walk_done hdone, htally] at hcounts
  exact ⟨hresult, hcounts⟩

variable (hstrict : s.config.strict = true)
include hstrict

/-- A run stops at the least unexpected key of a phase, if the phases before come to none. -/
lemma perform_of_isLeast (before : List Phase) {after : List Phase} {k : String}
    (hphases : Operation.reconcile.phases = before ++ [phase] ++ after)
    (hbefore : ∀ p ∈ before, ∀ k ∈ plan.keysFor p, s.Expects p k)
    (hk : IsLeast {k | k ∈ plan.keysFor phase ∧ ¬s.Expects phase k} k) :
    let out := (Collection.ofRecords stored s none).performIn (fun p _ => p.entries) schema.kind
      (backend schema) .reconcile { pending := desired }
    out.result = .error (.transaction phase k (refusal schema.table.name k phase.kind)) ∧
      out.collection.counts = Step.tally (schema.script stored desired before) +
        Counts.only ((plan.keysFor phase).countP (· < k)) phase := by
  intro out
  obtain ⟨as, step, bs, hsplit, rfl, rfl, hready, hnot, htally⟩ := exists_split_of_isLeast hplan hk
  let steps := (schema.script stored desired before ++ as) ++ step ::
    (bs ++ schema.script stored desired after)
  have hscript : schema.script stored desired Operation.reconcile.phases = steps := by
    rw [hphases, Schema.script_append, Schema.script_append, hsplit]
    simp [steps]
  have hmem (st) (hst : st ∈ steps) : st ∈ schema.script stored desired Operation.reconcile.phases :=
    hscript ▸ hst
  have hadded :
      (Step.tally (schema.script stored desired before ++ as)).added ≤ plan.add.length := by
    have htotal := Schema.tally_script_reconcile hplan
    rw [hscript, Step.tally_append] at htotal
    exact (Nat.le_add_right _ _).trans (congrArg Counts.added htotal).le
  have hready_all (st) (hst : st ∈ schema.script stored desired before ++ as) : s.Ready st := by
    rcases List.mem_append.1 hst with hst | hst
    · exact hbefore st.phase (mem_script.1 hst).1 st.key
        (Schema.mem_keysFor_of_mem_script hplan hst)
    · exact hready st hst
  have hnodup : (steps.map Step.key).Nodup := hscript ▸ Schema.nodup_keys_script (by decide)
  obtain ⟨herror, haccepted⟩ := walk_of_not_ready hstrict
    (fun st hst => Schema.fits_of_mem_script hkey (hmem st hst))
    (fun st hst => Schema.exists_call_of_mem_script hplan hmerges (hmem st hst)) hnodup
    (fun j hj => hnumbers j (Nat.lt_of_lt_of_le hj hadded)) hready_all hnot
  obtain ⟨hresult, -, hcounts⟩ := performIn_eq_walk_script (backend schema) .reconcile s stored
    desired
  rw [hscript, herror] at hresult
  rw [hscript, haccepted, Step.tally_append, htally] at hcounts
  exact ⟨hresult, hcounts⟩

lemma ending_of_plans :
    let out := (Collection.ofRecords stored s none).performIn (fun p _ => p.entries) schema.kind
      (backend schema) .reconcile { pending := desired }
    Ending schema s plan out.result out.collection.counts := by
  intro out
  have hstop (before : List Phase) {phase : Phase} {after : List Phase} {k : String} :=
    @perform_of_isLeast schema s stored desired phase plan hkey hplan hnumbers hmerges hstrict
      before after k
  have htally (phase : Phase) : Step.tally (schema.script stored desired [phase]) = _ :=
    Schema.tally_script_singleton hplan
  by_cases hdelete : ∀ k ∈ plan.keysFor .delete, s.Expects .delete k
  swap
  · obtain ⟨k, hk⟩ := exists_isLeast_of_not_forall hdelete
    obtain ⟨hresult, hcounts⟩ : out.result = _ ∧ out.collection.counts = _ :=
      hstop [] rfl (by simp) hk
    rw [hresult, hcounts.trans (Counts.zero_add _)]
    exact .delete (by simpa [Plan.keysFor] using hk)
  have hdeleted := fun k hk => expects_delete.1 (hdelete k hk)
  by_cases hadd : ∀ k ∈ plan.keysFor .add, s.Expects .add k
  swap
  · obtain ⟨k, hk⟩ := exists_isLeast_of_not_forall hadd
    obtain ⟨hresult, hcounts⟩ : out.result = _ ∧ out.collection.counts = _ :=
      hstop [.delete] rfl (by simpa using hdelete) hk
    have hcounts' : out.collection.counts =
        ⟨plan.add.countP (· < k), 0, plan.delete.length⟩ := by
      rw [hcounts, htally]
      ext <;> simp [Counts.only, Plan.keysFor]
    rw [hresult, hcounts']
    exact .add hdeleted (by simpa [Plan.keysFor] using hk)
  have hadded := fun k hk => expects_add.1 (hadd k hk)
  by_cases hupdate : ∀ k ∈ plan.keysFor .update, s.Expects .update k
  swap
  · obtain ⟨k, hk⟩ := exists_isLeast_of_not_forall hupdate
    obtain ⟨hresult, hcounts⟩ : out.result = _ ∧ out.collection.counts = _ :=
      hstop ([.delete] ++ [.add]) rfl (by simpa using ⟨hdeleted, hadded⟩) hk
    have hcounts' : out.collection.counts =
        ⟨plan.add.length, plan.update.countP (· < k), plan.delete.length⟩ := by
      rw [hcounts, Schema.script_append, Step.tally_append, htally, htally]
      ext <;> simp [Counts.only, Plan.keysFor]
    rw [hresult, hcounts']
    exact .update hdeleted hadded (by simpa [Plan.keysFor] using hk)
  · obtain ⟨hresult, hcounts⟩ : out.result = _ ∧ out.collection.counts = _ :=
      perform_of_expected hkey hplan hnumbers hmerges fun p => by cases p <;> assumption
    rw [hresult, hcounts]
    exact .done hdeleted hadded fun k hk => expects_update.1 (hupdate k hk)

end

/-- Reconciling any rows with desired ones in a strict store, where the numbers of the new rows are
accepted and the merges succeed. Deleting fails at the least key to be deleted that the store does not
hold; else adding fails at the least key to be added that it holds; else updating fails at the least
key to be updated that it does not hold; else the run succeeds. Here what the store holds is what it
held before the run. The phases before the one that fails have been counted in full, and of that one
the smaller keys. -/
theorem reconcile_stale (hkey : schema.KeyKept) (s : Store schema.table)
    (hstrict : s.config.strict = true) (stored desired : List schema.table.Row)
    (planOrder : Partition schema.table.Row → Entries (Pairing schema.table.Row))
    (hplan : (planOrder (Partition.ofRecords schema.key stored desired)).Perm
      (Partition.ofRecords schema.key stored desired).entries) :
    let c := Collection.ofRecords stored s none
    let planned : Performed schema.table.Row StoreError (Store schema.table) Plan :=
      c.planIn planOrder schema.kind { pending := desired }
    let out := c.performIn (fun p _ => p.entries) schema.kind (backend schema) .reconcile
      { pending := desired }
    ∃ plan, planned.result = .ok plan ∧
      (Numberable schema.table s.nextId plan.add.length →
        (∀ k ∈ plan.update, ∀ r d, lastOf schema.key stored k = some r →
          lastOf schema.key desired k = some d → (schema.table.policy.merge r d).error? = none) →
        Ending schema s plan out.result out.collection.counts) := by
  intro c planned out
  obtain ⟨hplanned, -, -⟩ := Collection.planIn_of_not_drained (ε := StoreError) planOrder schema.kind
    (c := c) rfl { pending := desired }
  exact ⟨_, hplanned, fun hnumbers hmerges =>
    ending_of_plans hkey ⟨_, hplan, rfl⟩ hnumbers hmerges hstrict⟩

/-- The rows of one host that is there and of one that has gone meanwhile: the first is deleted, a new
one is added, and the second is not there to be updated. -/
theorem reconcile_stale_hosts :
    let s := twoHosts {}
    let stored := [host "a" "old" (.ofNat 1), host "c" "old" (.ofNat 3)]
    let desired := [host "c" "new" (.ofNat 4), host "d" "new" (.ofNat 5)]
    let c := Collection.ofRecords stored s none
    let planned : Performed hosts.table.Row StoreError (Store hosts.table) Plan :=
      c.planIn KeyMap.entries hosts.kind { pending := desired }
    let out := c.performIn (fun p _ => p.entries) hosts.kind (backend hosts) .reconcile
      { pending := desired }
    hosts.KeyKept ∧ s.config.strict = true ∧
    planned.result = .ok ⟨["d"], ["c"], [], ["a"]⟩ ∧
    Numberable hosts.table s.nextId 1 ∧
    (∀ r d, lastOf hosts.key stored "c" = some r → lastOf hosts.key desired "c" = some d →
      (hosts.table.policy.merge r d).error? = none) ∧
    out.result = .error (.transaction .update "c" (.notFound "hosts" "c")) ∧
    out.collection.counts = ⟨1, 0, 1⟩ ∧
    Ending hosts s ⟨["d"], ["c"], [], ["a"]⟩ out.result out.collection.counts := by
  intro s stored desired c planned out
  have hplanned : planned.result = .ok ⟨["d"], ["c"], [], ["a"]⟩ := by
    rw [(Collection.planIn_of_not_drained KeyMap.entries hosts.kind rfl { pending := desired }).1]
    simp only [Plan.ofEntries, Plan.sortedKeys_filter_entries]
    decide +kernel
  have hnumbers : Numberable hosts.table s.nextId 1 := by
    refine numberable_iff.2 fun j hj => ?_
    obtain rfl : j = 0 := by omega
    rw [Admits]
    decide +kernel
  have hmerges (r d) (hr : lastOf hosts.key stored "c" = some r)
      (hd : lastOf hosts.key desired "c" = some d) : (hosts.table.policy.merge r d).error? = none := by
    have hstored : lastOf hosts.key stored "c" = some (host "c" "old" (.ofNat 3)) := by rfl
    have hdesired : lastOf hosts.key desired "c" = some (host "c" "new" (.ofNat 4)) := by rfl
    obtain rfl := Option.some_inj.1 (hstored.symm.trans hr)
    obtain rfl := Option.some_inj.1 (hdesired.symm.trans hd)
    decide +kernel
  obtain ⟨plan, hplan, hending⟩ := reconcile_stale keyKept_hosts s rfl stored desired KeyMap.entries
    (.refl _)
  obtain rfl := Except.ok.inj (hplan.symm.trans hplanned)
  obtain ⟨hresult, -, hcounts⟩ := performIn_eq_walk_script (backend hosts) .reconcile s
    stored desired
  refine ⟨keyKept_hosts, rfl, hplanned, hnumbers, hmerges, hresult.trans (by decide +kernel),
    hcounts.trans (by decide +kernel), hending hnumbers fun k hk => ?_⟩
  obtain rfl := List.mem_singleton.1 hk
  exact hmerges

end Store
end DesiredState
