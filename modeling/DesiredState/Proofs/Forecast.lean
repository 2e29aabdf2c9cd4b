import DesiredState.Proofs.AbortLaw

/-! What a plan says about the run that it stands for. A plan sorts the keys once, by comparing records
that nothing has touched; a run compares, merges and writes key after key in three phases. Both find
the same step, or none, for each key. -/
namespace DesiredState
variable {α ε σ : Type}

namespace Collection

/-- The steps that an operation tries on a collection that has not been drained, in the order in which
it comes to them. A step of the update phase is a merge that is attempted, and a step that has a write
is a call that is issued. -/
def tried (order : Partition α → Phase → Entries (Pairing α)) (kind : RecordKind α)
    (backend : Backend α ε σ) (op : Operation) (c : Collection α σ) (desired : Feed α) :
    List (Step α) :=
  let p := Partition.ofRecords kind.key c.stored.pending desired.pending
  let visits := op.phases.flatMap fun phase => (order p phase).map (phase, ·)
  let visited := Outcome.visited
    (fun v : Phase × String × Pairing α => Progress.apply backend (c.policy kind) v.1 v.2) visits
    { state := c.state, counts := c.counts }
  visited.filterMap fun v => v.2.2.step? (c.policy kind) v.2.1 v.1

lemma tried_eq_visited {order : Partition α → Phase → Entries (Pairing α)} {kind : RecordKind α}
    {c : Collection α σ} {desired : Feed α} (backend : Backend α ε σ) (op : Operation)
    (horder : ∀ phase, order (Partition.ofRecords kind.key c.stored.pending desired.pending) phase ⊆
      (Partition.ofRecords kind.key c.stored.pending desired.pending).entries) :
    c.tried order kind backend op desired = Outcome.visited (Step.attempt backend)
      (script (c.policy kind) (lastOf kind.key c.stored.pending) (lastOf kind.key desired.pending)
        (fun phase => (order (Partition.ofRecords kind.key c.stored.pending desired.pending)
          phase).map (·.1)) op.phases) c.state := by
  rw [tried, Outcome.visited_filterMap fun v p => Progress.apply_eq backend _ v.1 v.2 p,
    Step.visited_take, List.filterMap_flatMap, script]
  simp only [List.filterMap_map, Function.comp_def, filterMap_step?_eq (horder _)]

end Collection

namespace Plan

lemma sortedKeys_perm (entries : Entries (Pairing α)) :
    (sortedKeys entries).Perm (entries.map (·.1)) := List.mergeSort_perm _ _

lemma sortedKeys_filter_entries (p : Partition α) (pred : String × Pairing α → Bool) :
    sortedKeys (p.entries.filter pred) = (p.entries.filter pred).map (·.1) := by
  refine List.mergeSort_of_pairwise (List.pairwise_map.2 ?_)
  exact (p.ascending.filter pred).imp fun hab => decide_eq_true (Std.le_of_lt hab)

lemma pairwise_sortedKeys {entries : Entries (Pairing α)} (h : (entries.map (·.1)).Nodup) :
    (sortedKeys entries).Pairwise (· < ·) := by
  have hle : (sortedKeys entries).Pairwise (· ≤ ·) := by
    refine (List.pairwise_mergeSort (fun a b c hab hbc => ?_) (fun a b => ?_) _).imp
      of_decide_eq_true
    · exact decide_eq_true (String.le_trans (of_decide_eq_true hab) (of_decide_eq_true hbc))
    · simpa using String.le_total a b
  have hne : (sortedKeys entries).Pairwise (· ≠ ·) := (sortedKeys_perm entries).nodup_iff.2 h
  refine (hle.and hne).imp fun {a b} hab => ?_
  exact Std.not_le.1 fun hba => hab.2 (String.le_antisymm hab.1 hba)

def keysFor (plan : Plan) : Phase → List String
  | .delete => plan.delete
  | .add => plan.add
  | .update => plan.update

/-- The lists of a plan sort out the keys of two sides: each key that occurs is in one of them, and
once. -/
structure Divides (plan : Plan) (stored desired : List String) : Prop where
  add_ascends : plan.add.Pairwise (· < ·)
  update_ascends : plan.update.Pairwise (· < ·)
  unchanged_ascends : plan.unchanged.Pairwise (· < ·)
  delete_ascends : plan.delete.Pairwise (· < ·)
  disjoint : [plan.add, plan.update, plan.unchanged, plan.delete].Pairwise List.Disjoint
  mem_iff : ∀ k, (k ∈ plan.add ∨ k ∈ plan.update ∨ k ∈ plan.unchanged ∨ k ∈ plan.delete) ↔
    k ∈ stored ∨ k ∈ desired

section
variable {key : α → String} {stored desired : List α} (policy : MergePolicy α)
  {entries : Entries (Pairing α)}
  (h : entries.Perm (Partition.ofRecords key stored desired).entries)
include h

lemma pairwise_sortedKeys_filter (pred : String × Pairing α → Bool) :
    (sortedKeys (entries.filter pred)).Pairwise (· < ·) := by
  have hnodup : (entries.map (·.1)).Nodup := (h.map _).nodup_iff.2 (KeyMap.nodup_keys _)
  exact pairwise_sortedKeys (hnodup.sublist (List.filter_sublist.map _))

lemma mem_sortedKeys_filter {pred : String × Pairing α → Bool} {k : String} :
    k ∈ sortedKeys (entries.filter pred) ↔ ∃ pairing,
      Pairing.ofSides (lastOf key stored k) (lastOf key desired k) = some pairing ∧
        pred (k, pairing) = true := by
  rw [(sortedKeys_perm _).mem_iff, List.mem_map]
  simp only [List.mem_filter, h.mem_iff, ← Partition.get?_ofRecords, KeyMap.get?_eq_some_iff]
  constructor
  · rintro ⟨⟨j, pairing⟩, ⟨hmem, hpred⟩, rfl⟩
    exact ⟨pairing, hmem, hpred⟩
  · rintro ⟨pairing, hmem, hpred⟩
    exact ⟨(k, pairing), ⟨hmem, hpred⟩, rfl⟩

lemma mem_keysFor {phase : Phase} {k : String} :
    k ∈ (ofEntries policy entries).keysFor phase ↔ ∃ step,
      pending policy (lastOf key stored) (lastOf key desired) phase k = some step := by
  cases phase with
  | delete =>
    simp only [keysFor, ofEntries, mem_sortedKeys_filter h, pending_delete_iff]
    cases lastOf key stored k <;> cases lastOf key desired k <;> simp [Pairing.ofSides, Pairing.phase]
  | add =>
    simp only [keysFor, ofEntries, mem_sortedKeys_filter h, pending_add_iff]
    cases lastOf key stored k <;> cases lastOf key desired k <;> simp [Pairing.ofSides, Pairing.phase]
  | update =>
    simp only [keysFor, ofEntries, mem_sortedKeys_filter h, pending_update_iff]
    cases lastOf key stored k <;> cases lastOf key desired k <;>
      simp [Pairing.ofSides, Pairing.phase, matched]

lemma mem_unchanged {k : String} : k ∈ (ofEntries policy entries).unchanged ↔ ∃ s d,
    lastOf key stored k = some s ∧ lastOf key desired k = some d ∧ policy.equals s d = true := by
  simp only [ofEntries, mem_sortedKeys_filter h]
  cases lastOf key stored k <;> cases lastOf key desired k <;>
    simp [Pairing.ofSides, Pairing.phase, matched]

lemma pairwise_keysFor (phase : Phase) :
    ((ofEntries policy entries).keysFor phase).Pairwise (· < ·) := by
  cases phase <;> exact pairwise_sortedKeys_filter h _

lemma disjoint_keysFor (phase phase' : Phase) (hne : phase ≠ phase') :
    ((ofEntries policy entries).keysFor phase).Disjoint
      ((ofEntries policy entries).keysFor phase') := by
  intro k hk hk'
  obtain ⟨step, hstep⟩ := (mem_keysFor policy h).1 hk
  obtain ⟨step', hstep'⟩ := (mem_keysFor policy h).1 hk'
  exact hne (phase_unique hstep hstep')

lemma disjoint_keysFor_unchanged (phase : Phase) :
    ((ofEntries policy entries).keysFor phase).Disjoint (ofEntries policy entries).unchanged := by
  intro k hk hk'
  obtain ⟨step, hstep⟩ := (mem_keysFor policy h).1 hk
  obtain ⟨s, d, hs, hd, heq⟩ := (mem_unchanged policy h).1 hk'
  rw [pending_eq_none_of_equals hs hd heq] at hstep
  cases hstep

theorem divides_ofEntries :
    (ofEntries policy entries).Divides (stored.map key) (desired.map key) where
  add_ascends := pairwise_keysFor policy h .add
  update_ascends := pairwise_keysFor policy h .update
  unchanged_ascends := pairwise_sortedKeys_filter h _
  delete_ascends := pairwise_keysFor policy h .delete
  disjoint := by
    have hadd_update := disjoint_keysFor policy h .add .update (by decide)
    have hadd_delete := disjoint_keysFor policy h .add .delete (by decide)
    have hupdate_delete := disjoint_keysFor policy h .update .delete (by decide)
    have hunchanged := disjoint_keysFor_unchanged policy h
    simp only [List.pairwise_cons, List.mem_cons, List.not_mem_nil, or_false, forall_eq_or_imp,
      forall_eq, IsEmpty.forall_iff, implies_true, List.Pairwise.nil, and_true]
    exact ⟨⟨hadd_update, hunchanged .add, hadd_delete⟩, ⟨hunchanged .update, hupdate_delete⟩,
      (hunchanged .delete).symm⟩
  mem_iff k := by
    simp only [ofEntries, mem_sortedKeys_filter h, ← exists_lastOf_iff]
    cases lastOf key stored k with
    | none =>
      cases lastOf key desired k <;> simp [Pairing.ofSides, Pairing.phase]
    | some s =>
      cases lastOf key desired k with
      | none => simp [Pairing.ofSides, Pairing.phase]
      | some d =>
        cases hequals : policy.equals s d <;>
          simp [Pairing.ofSides, Pairing.phase, matched, hequals]

end

lemma isEmpty_iff {plan : Plan} : plan.isEmpty = true ↔ ∀ phase, plan.keysFor phase = [] := by
  simp only [isEmpty, Bool.and_eq_true, List.isEmpty_iff]
  constructor
  · rintro ⟨⟨hadd, hupdate⟩, hdelete⟩ phase
    cases phase <;> assumption
  · exact fun h => ⟨⟨h .add, h .update⟩, h .delete⟩

end Plan

section
variable {key : α → String} {stored desired : List α} (policy : MergePolicy α)
  {keys : Phase → List String}
  (hkeys : ∀ phase, (keys phase).Perm (Partition.ofRecords key stored desired).keys)
  {entries : Entries (Pairing α)}
  (hentries : entries.Perm (Partition.ofRecords key stored desired).entries)
include hkeys hentries

/-- The keys that a script has steps of a phase for are those that a plan lists for it. -/
lemma map_key_script_perm (phase : Phase) :
    (((script policy (lastOf key stored) (lastOf key desired) keys
      Operation.reconcile.phases).filter (·.phase = phase)).map Step.key).Perm
        ((Plan.ofEntries policy entries).keysFor phase) := by
  have hnodup : ((script policy (lastOf key stored) (lastOf key desired) keys
      Operation.reconcile.phases).map Step.key).Nodup :=
    nodup_keys_script (by decide) fun phase => (hkeys phase).nodup_iff.2 (KeyMap.nodup_keys _)
  -- Neither side repeats a key.
  refine (List.perm_ext_iff_of_nodup (hnodup.sublist (List.filter_sublist.map _))
    (Plan.pairwise_keysFor policy hentries phase).nodup).2 fun k => ?_
  rw [Plan.mem_keysFor policy hentries, List.mem_map]
  constructor
  · rintro ⟨step, hstep, rfl⟩
    obtain ⟨hmem, hphase⟩ := List.mem_filter.1 hstep
    rw [← of_decide_eq_true hphase]
    exact ⟨step, (mem_script.1 hmem).2.2⟩
  · rintro ⟨step, hstep⟩
    obtain ⟨rfl, rfl⟩ := phase_and_key_of_pending hstep
    have hk := Partition.mem_keys_of_pending hstep
    refine ⟨step, List.mem_filter.2 ⟨mem_script.2 ⟨?_, (hkeys _).mem_iff.2 hk, hstep⟩, by simp⟩, rfl⟩
    cases step.phase <;> decide

lemma script_eq_nil_iff : script policy (lastOf key stored) (lastOf key desired) keys
    Operation.reconcile.phases = [] ↔ (Plan.ofEntries policy entries).isEmpty = true := by
  rw [Plan.isEmpty_iff]
  constructor
  · intro h phase
    have hperm := map_key_script_perm policy hkeys hentries phase
    rw [h] at hperm
    exact hperm.symm.eq_nil
  · intro h
    refine List.eq_nil_iff_forall_not_mem.2 fun step hstep => ?_
    have hperm := map_key_script_perm policy hkeys hentries step.phase
    rw [h] at hperm
    have hmem : step.key ∈ [] := hperm.subset
      (List.mem_map.2 ⟨step, List.mem_filter.2 ⟨hstep, by simp⟩, rfl⟩)
    cases hmem

lemma tally_script : Step.tally (script policy (lastOf key stored) (lastOf key desired) keys
    Operation.reconcile.phases) = ⟨(Plan.ofEntries policy entries).add.length,
      (Plan.ofEntries policy entries).update.length,
      (Plan.ofEntries policy entries).delete.length⟩ := by
  have hlength (phase : Phase) := (map_key_script_perm policy hkeys hentries phase).length_eq
  simp only [List.length_map, ← List.countP_eq_length_filter] at hlength
  exact Counts.ext (hlength .add) (hlength .update) (hlength .delete)

end

lemma eq_nil_iff_of_pending {policy : MergePolicy α} {stored desired : String → Option α}
    {steps : List (Step α)} (h : ∀ step ∈ steps,
      pending policy stored desired step.phase step.key = some step) :
    steps = [] ↔ (∀ step ∈ steps, step.call.toOption = none) ∧ ∀ step ∈ steps, step.phase ≠ .update := by
  constructor
  · rintro rfl
    simp
  · rintro ⟨hnone, hphase⟩
    refine List.eq_nil_iff_forall_not_mem.2 fun step hstep => hphase step hstep ?_
    cases hcall : step.call with
    | error e => exact update_of_pending_error (h step hstep) hcall
    | ok w =>
      have hw := hnone step hstep
      rw [hcall] at hw
      cases hw

namespace Collection

lemma planIn_of_not_drained (order : Partition α → Entries (Pairing α)) (kind : RecordKind α)
    {c : Collection α σ} (hc : c.drained = false) (desired : Feed α) :
    let out : Performed α ε σ Plan := c.planIn order kind desired
    out.result = .ok (Plan.ofEntries (c.policy kind)
      (order (Partition.ofRecords kind.key c.stored.pending desired.pending))) ∧
      out.collection.state = c.state ∧ out.collection.counts = c.counts := by
  simp [planIn, withPartition, hc, Partition.ofFeeds_eq, policy]

/-- A plan and a reconciliation of the same records by the same policy, whatever the records are
written to and in whatever order each of them goes over the keys. The plan writes nothing, and its
lists sort out all keys. Each step that the reconciliation tries is for a key in the list of its phase,
and its calls are the writes of these steps. Where it succeeds, it has written exactly the listed keys,
each of them once. The plan is empty exactly if no call is issued and no merge attempted. -/
theorem plan_predicts_reconcile (kind : RecordKind α) (backend : Backend α ε σ)
    (policy? : Option (MergePolicy α)) (stored desired : List α) (state : σ)
    (order : Partition α → Phase → Entries (Pairing α))
    (horder : ∀ phase, (order (Partition.ofRecords kind.key stored desired) phase).Perm
      (Partition.ofRecords kind.key stored desired).entries)
    (planOrder : Partition α → Entries (Pairing α))
    (hplan : (planOrder (Partition.ofRecords kind.key stored desired)).Perm
      (Partition.ofRecords kind.key stored desired).entries) :
    let c := Collection.ofRecords stored state policy?
    let planned : Performed α ε σ Plan := c.planIn planOrder kind { pending := desired }
    let out := c.performIn order kind backend .reconcile { pending := desired }
    let tried := c.tried order kind backend .reconcile { pending := desired }
    let calls := ((Collection.ofRecords stored (Backend.Observed.mk [] state) policy?).performIn
      order kind backend.observed .reconcile { pending := desired }).collection.state.calls
    ∃ plan, planned.result = .ok plan ∧ planned.collection.state = state ∧
      planned.collection.counts = c.counts ∧
      plan.Divides (stored.map kind.key) (desired.map kind.key) ∧
      calls.map (·.1) = tried.filterMap (·.call.toOption) ∧
      (∀ step ∈ tried, step.key ∈ plan.keysFor step.phase ∧
        ∀ w, step.call = .ok w → w.kind = step.phase.kind) ∧
      (out.result = .ok () →
        calls.map (fun c => .ok c.1) = tried.map Step.call ∧ (∀ c ∈ calls, c.2 = none) ∧
        (∀ phase, ((tried.filter (·.phase = phase)).map Step.key).Perm (plan.keysFor phase)) ∧
        out.collection.counts = ⟨plan.add.length, plan.update.length, plan.delete.length⟩) ∧
      (plan.isEmpty = true ↔ calls = [] ∧ ∀ step ∈ tried, step.phase ≠ .update) := by
  intro c planned out tried calls
  let policy := policy?.getD kind.policy
  let steps := script policy (lastOf kind.key stored) (lastOf kind.key desired)
    (fun phase => (order (Partition.ofRecords kind.key stored desired) phase).map (·.1))
    Operation.reconcile.phases
  have hsub : ∀ phase, order (Partition.ofRecords kind.key stored desired) phase ⊆
      (Partition.ofRecords kind.key stored desired).entries := fun phase => (horder phase).subset
  have hkeys : ∀ phase, ((order (Partition.ofRecords kind.key stored desired) phase).map (·.1)).Perm
      (Partition.ofRecords kind.key stored desired).keys := fun phase => (horder phase).map _
  let plan := Plan.ofEntries policy (planOrder (Partition.ofRecords kind.key stored desired))
  obtain ⟨hplanned, hstate, hcounts⟩ := planIn_of_not_drained (ε := ε) planOrder kind
    (c := c) rfl { pending := desired }
  obtain ⟨hresult, -, htally⟩ := performIn_eq_walk order kind backend .reconcile (c := c) rfl
    { pending := desired } hsub
  obtain ⟨-, hseen, -⟩ := performIn_eq_walk order kind backend.observed .reconcile
    (c := Collection.ofRecords stored ⟨[], state⟩ policy?) rfl { pending := desired } hsub
  have hseen_calls : calls =
      (Outcome.walk (Step.attempt backend.observed) steps ⟨[], state⟩).state.calls :=
    congrArg Backend.Observed.calls hseen
  have htried : tried = Outcome.visited (Step.attempt backend) steps state :=
    tried_eq_visited backend .reconcile hsub
  have hcalls : calls.map (·.1) = tried.filterMap (·.call.toOption) := by
    rw [htried, hseen_calls]
    exact Step.map_calls_walk_observed backend steps ⟨[], state⟩
  have hpending_steps (step) (hstep : step ∈ steps) : pending policy (lastOf kind.key stored)
      (lastOf kind.key desired) step.phase step.key = some step := (mem_script.1 hstep).2.2
  have hpending (step) (hstep : step ∈ tried) : pending policy (lastOf kind.key stored)
      (lastOf kind.key desired) step.phase step.key = some step :=
    hpending_steps step ((Outcome.visited_prefix _ _ _).subset (htried ▸ hstep))
  refine ⟨plan, hplanned, hstate, hcounts, Plan.divides_ofEntries policy hplan, hcalls,
    fun step hstep => ⟨(Plan.mem_keysFor policy hplan).2 ⟨step, hpending step hstep⟩,
      fun w => kind_of_pending (hpending step hstep)⟩, fun hok => ?_, ?_⟩
  · have hdone : (Outcome.walk (Step.attempt backend) steps state).error? = none :=
      Outcome.elim_eq_ok_iff.1 (hresult.symm.trans hok)
    have hall : tried = steps := htried.trans (Outcome.visited_of_done hdone)
    obtain ⟨hwrites, htaken⟩ := Step.calls_of_walk_done
      (fun step hstep w => kind_of_pending (hpending_steps step hstep)) hdone
    rw [← hseen_calls] at hwrites htaken
    rw [hall]
    refine ⟨hwrites, htaken, map_key_script_perm policy hkeys hplan, ?_⟩
    calc out.collection.counts
      _ = {} + Step.tally (Step.accepted backend steps state) := htally
      _ = Step.tally steps := by rw [Step.accepted_of_walk_done hdone, Counts.zero_add]
      _ = _ := tally_script policy hkeys hplan
  · have hnil : calls = [] ↔ ∀ step ∈ tried, step.call.toOption = none := by
      rw [← List.filterMap_eq_nil_iff, ← hcalls, List.map_eq_nil_iff]
    rw [← script_eq_nil_iff policy hkeys hplan, ← Outcome.visited_eq_nil_iff, ← htried, hnil]
    exact eq_nil_iff_of_pending hpending

/-- A plan goes over the keys as they come and the run over their reverse, with one key that is stored
twice, one that is desired twice, and one that has nothing to write. -/
theorem plan_predicts_reconcile_descending :
    let kind : RecordKind (String × Nat) :=
      ⟨"pair", (·.1), ⟨fun s d => s.2 == d.2, fun s d => ⟨(s.1, d.2), none⟩⟩⟩
    let stored := [("a", 1), ("c", 3), ("b", 2), ("c", 2), ("f", 6)]
    let desired := [("b", 7), ("e", 4), ("b", 8), ("d", 5), ("f", 6)]
    let order (p : Partition (String × Nat)) (_ : Phase) := p.entries.reverse
    let planned : Performed (String × Nat) String (List (Write (String × Nat))) Plan :=
      (Collection.ofRecords stored [] none).planIn KeyMap.entries kind { pending := desired }
    let out := (Collection.ofRecords stored [] none).performIn order kind (.transcript id) .reconcile
      { pending := desired }
    (∀ phase, (order (Partition.ofRecords kind.key stored desired) phase).Perm
      (Partition.ofRecords kind.key stored desired).entries) ∧
    planned.result = .ok ⟨["d", "e"], ["b"], ["f"], ["a", "c"]⟩ ∧
    (Plan.mk ["d", "e"] ["b"] ["f"] ["a", "c"]).Divides (stored.map kind.key)
      (desired.map kind.key) ∧
    out.result = .ok () ∧ out.collection.counts = ⟨2, 1, 2⟩ := by
  intro kind stored desired order planned out
  have horder : ∀ phase, (order (Partition.ofRecords kind.key stored desired) phase).Perm
      (Partition.ofRecords kind.key stored desired).entries := fun _ => List.reverse_perm _
  have hplanned : planned.result = .ok ⟨["d", "e"], ["b"], ["f"], ["a", "c"]⟩ := by
    rw [(planIn_of_not_drained KeyMap.entries kind rfl { pending := desired }).1]
    simp only [Plan.ofEntries, Plan.sortedKeys_filter_entries]
    decide +kernel
  have hresult : out.result = .ok () := by decide +kernel
  obtain ⟨plan, hplan, -, -, hdivides, -, -, hok, -⟩ := plan_predicts_reconcile kind
    (.transcript id) none stored desired [] order horder KeyMap.entries (List.Perm.refl _)
  have heq : plan = Plan.mk ["d", "e"] ["b"] ["f"] ["a", "c"] :=
    Except.ok.inj (hplan.symm.trans hplanned)
  rw [heq] at hdivides hok
  subst planned out
  exact ⟨horder, hplanned, hdivides, hresult, (hok hresult).2.2.2⟩

end Collection

end DesiredState
