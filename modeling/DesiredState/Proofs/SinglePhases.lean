import DesiredState.Proofs.FailurePoint
import DesiredState.Proofs.Recovery

/-! Reconciling one phase at a time. An operation of one phase leaves nothing to do in that phase, and
in the others what there was. So the three of them go through the steps of reconciling, the phases in
another order: each key has its own step, and the insertions come in their order among themselves. -/
namespace DesiredState

namespace Operation

lemma exists_phases_of_perm {op₁ op₂ op₃ : Operation}
    (h : [op₁, op₂, op₃].Perm [.delete, .add, .update]) :
    ∃ p₁ p₂ p₃, op₁.phases = [p₁] ∧ op₂.phases = [p₂] ∧ op₃.phases = [p₃] ∧
      [p₁, p₂, p₃].Perm [.delete, .add, .update] := by
  have hsingle (op) (hop : op ∈ [op₁, op₂, op₃]) : ∃ p, op.phases = [p] := by
    have hmem := h.subset hop
    simp only [List.mem_cons, List.not_mem_nil, or_false] at hmem
    rcases hmem with rfl | rfl | rfl <;> exact ⟨_, rfl⟩
  obtain ⟨p₁, h₁⟩ := hsingle op₁ (by simp)
  obtain ⟨p₂, h₂⟩ := hsingle op₂ (by simp)
  obtain ⟨p₃, h₃⟩ := hsingle op₃ (by simp)
  have hphases := h.flatMap_right phases
  simp only [List.flatMap_cons, List.flatMap_nil, h₁, h₂, h₃] at hphases
  exact ⟨p₁, p₂, p₃, h₁, h₂, h₃, hphases⟩

end Operation

namespace Store
variable {schema : Schema} {s t u : Store schema.table} {desired : List schema.table.Row}
  {steps : List (Step schema.table.Row)} {phases phases' : List Phase}

lemma agenda_eq_flatMap : s.agenda schema desired =
    [.delete, .add, .update].flatMap (s.due schema desired) := by
  simp [agenda]

/-- Phases that change places keep the order of their keys. -/
lemma keysIn_flatMap_due (h : phases.Perm phases') (phase : Phase) :
    Step.keysIn phase (phases.flatMap (s.due schema desired)) =
      Step.keysIn phase (phases'.flatMap (s.due schema desired)) := by
  induction h with
  | nil => rfl
  | cons p _ ih => simp only [List.flatMap_cons, Step.keysIn_append, ih]
  | swap p q phases =>
    simp only [List.flatMap_cons, Step.keysIn_append, keysIn_due, ← List.append_assoc]
    congr 1
    split <;> split <;> simp_all
  | trans _ _ ih ih' => exact ih.trans ih'

lemma perform_of_walk (hfiled : s.Filed schema) {op : Operation} {phase : Phase}
    (hop : op.phases = [phase])
    (h : Outcome.walk (Step.attempt (backend schema)) (s.due schema desired phase) s = ⟨u, none⟩) :
    (s.perform schema op desired).result = .ok () ∧
      (s.perform schema op desired).collection.state = u ∧
      (s.perform schema op desired).collection.counts = Step.tally (s.due schema desired phase) := by
  rw [due_eq_schedule, ← hop] at h ⊢
  exact operate_of_walk hfiled (enumerates_ascending s desired) h

section
variable (hkey : schema.KeyKept) (hfiled : s.Filed schema)
include hkey hfiled

lemma exists_walk_of_perm (hperm : steps.Perm (s.agenda schema desired))
    (h : Outcome.walk (Step.attempt (backend schema)) (s.agenda schema desired) s = ⟨t, none⟩) :
    ∃ u, Outcome.walk (Step.attempt (backend schema)) steps s = ⟨u, none⟩ := by
  have hpending (step) (hstep : step ∈ s.agenda schema desired) := (mem_agenda hfiled).1 hstep
  have hfits (step) (hstep : step ∈ s.agenda schema desired) : step.Fits schema :=
    fits_of_mem_agenda hkey hfiled hstep
  have hready (step) (hstep : step ∈ s.agenda schema desired) : s.Ready step :=
    ready_of_pending (hpending step hstep)
  obtain ⟨hcalls, hadmits⟩ := (error?_walk_eq_none_iff hfits hready (s.nodup_keys_agenda desired)).1
    (congrArg Outcome.error? h)
  have hdone := (error?_walk_eq_none_iff (fun step hstep => hfits step (hperm.subset hstep))
    (fun step hstep => hready step (hperm.subset hstep))
    ((hperm.map Step.key).nodup_iff.2 (s.nodup_keys_agenda desired))).2
    ⟨fun step hstep => hcalls step (hperm.subset hstep), by rwa [Step.tally_perm hperm]⟩
  exact ⟨_, congrArg (Outcome.mk _) hdone⟩

lemma rows_and_nextId_eq (hphases : phases.Perm [.delete, .add, .update])
    (h : Outcome.walk (Step.attempt (backend schema)) (s.agenda schema desired) s = ⟨t, none⟩)
    (hwalk : Outcome.walk (Step.attempt (backend schema)) (phases.flatMap (s.due schema desired)) s =
      ⟨u, none⟩) : u.rows = t.rows ∧ u.nextId = t.nextId := by
  have hperm := hphases.flatMap_right (s.due schema desired)
  have hkeys (phase : Phase) : Step.keysIn phase (phases.flatMap (s.due schema desired)) =
      Step.keysIn phase ([.delete, .add, .update].flatMap (s.due schema desired)) :=
    keysIn_flatMap_due hphases phase
  have hnodup := s.nodup_keys_agenda desired
  have hpending (step) (hstep : step ∈ s.agenda schema desired) := (mem_agenda hfiled).1 hstep
  rw [agenda_eq_flatMap] at h hnodup hpending
  have hpending' (step) (hstep : step ∈ phases.flatMap (s.due schema desired)) :=
    hpending step (hperm.subset hstep)
  have hnodup' := (hperm.map Step.key).nodup_iff.2 hnodup
  constructor
  · have ht := imprinted_of_walk hkey hfiled hpending hnodup h
    have hu := imprinted_of_walk hkey hfiled hpending' hnodup' hwalk
    simp only [hkeys] at hu
    exact KeyMap.ext (hu.get?_eq ht)
  · rw [(ran_of_pending hkey hfiled hpending h).nextId_eq,
      (ran_of_pending hkey hfiled hpending' hwalk).nextId_eq, Step.used_eq, Step.used_eq, hkeys]

section
variable (hnan : ∀ d ∈ desired, schema.table.holdsNaN d = false)
include hnan

lemma due_of_phase {phase phase' : Phase} (hne : phase' ≠ phase)
    (h : Outcome.walk (Step.attempt (backend schema)) (s.due schema desired phase) s = ⟨u, none⟩) :
    u.due schema desired phase' = s.due schema desired phase' := by
  have hsteps : s.due schema desired phase ⊆ s.agenda schema desired := fun step hstep => by
    rw [mem_agenda hfiled, phase_of_mem_due hstep]
    exact pending_of_mem_due hstep
  rw [due_of_walk hkey hfiled hnan hsteps (pairwise_map_key_due phase).nodup h, List.filter_eq_self]
  refine fun step hstep => decide_eq_true fun hmem => hne ?_
  obtain ⟨step', hstep'⟩ := (mem_map_key_due hfiled).1 hmem
  exact phase_unique (pending_of_mem_due hstep) hstep'

/-- The operation of a phase goes the first part of the way, and leaves the rest as it is due then. -/
lemma perform_first_phase {op : Operation} {phase : Phase} (hop : op.phases = [phase])
    (hnodup : (phase :: phases).Nodup)
    (h : Outcome.walk (Step.attempt (backend schema))
      ((phase :: phases).flatMap (s.due schema desired)) s = ⟨t, none⟩) :
    let out := s.perform schema op desired
    let u := out.collection.state
    out.result = .ok () ∧ out.collection.counts = Step.tally (s.due schema desired phase) ∧
      u.Filed schema ∧ (∀ q ∈ phases, u.due schema desired q = s.due schema desired q) ∧
      Outcome.walk (Step.attempt (backend schema)) (phases.flatMap (u.due schema desired)) u =
        ⟨t, none⟩ := by
  intro out u
  rw [List.flatMap_cons] at h
  obtain ⟨v, hwalk, hrest⟩ := Outcome.walk_append_eq_done_iff.1 h
  obtain ⟨hresult, rfl, hcounts⟩ := perform_of_walk hfiled hop hwalk
  have hdue (q) (hq : q ∈ phases) : u.due schema desired q = s.due schema desired q := by
    have hne : q ≠ phase := fun heq => (List.nodup_cons.1 hnodup).1 (heq ▸ hq)
    exact due_of_phase hkey hfiled hnan hne hwalk
  refine ⟨hresult, hcounts, hfiled.walk hkey hwalk, hdue, ?_⟩
  rw [List.flatMap_congr hdue]
  exact hrest

end

end

/-- Reconciling that succeeds may be done by three collections, one for each phase and in any order,
each over the rows that the one before has left. They leave the same rows and the same next number,
and write as many of each kind. -/
theorem reconcile_by_phases (hkey : schema.KeyKept) (hfiled : s.Filed schema)
    (hnan : ∀ d ∈ desired, schema.table.holdsNaN d = false)
    (h : (s.perform schema .reconcile desired).result = .ok ()) {op₁ op₂ op₃ : Operation}
    (hops : [op₁, op₂, op₃].Perm [.delete, .add, .update]) :
    let whole := s.perform schema .reconcile desired
    let first := s.perform schema op₁ desired
    let second := first.collection.state.perform schema op₂ desired
    let third := second.collection.state.perform schema op₃ desired
    first.result = .ok () ∧ second.result = .ok () ∧ third.result = .ok () ∧
      third.collection.state.rows = whole.collection.state.rows ∧
      third.collection.state.nextId = whole.collection.state.nextId ∧
      first.collection.counts + second.collection.counts + third.collection.counts =
        whole.collection.counts := by
  intro whole first second third
  obtain ⟨p₁, p₂, p₃, hop₁, hop₂, hop₃, hphases⟩ := Operation.exists_phases_of_perm hops
  obtain ⟨hwhole, hwhole_counts⟩ := walk_of_reconcile hfiled h
  have hperm := hphases.flatMap_right (s.due schema desired)
  rw [← agenda_eq_flatMap] at hperm
  obtain ⟨t, hwalk⟩ := exists_walk_of_perm hkey hfiled hperm hwhole
  have hsame := rows_and_nextId_eq hkey hfiled hphases hwhole hwalk
  have hnodup : [p₁, p₂, p₃].Nodup := hphases.nodup_iff.2 (by decide)
  obtain ⟨hresult₁, hcounts₁, hfiled₁, hdue₁, hwalk₁⟩ :=
    perform_first_phase hkey hfiled hnan hop₁ hnodup hwalk
  obtain ⟨hresult₂, hcounts₂, hfiled₂, hdue₂, hwalk₂⟩ :=
    perform_first_phase hkey hfiled₁ hnan hop₂ hnodup.tail hwalk₁
  obtain ⟨hresult₃, hcounts₃, -, -, hwalk₃⟩ :=
    perform_first_phase hkey hfiled₂ hnan hop₃ hnodup.tail.tail hwalk₂
  obtain rfl : third.collection.state = t := congrArg Outcome.state hwalk₃
  refine ⟨hresult₁, hresult₂, hresult₃, hsame.1, hsame.2, ?_⟩
  -- What each operation counts was due in the first store already.
  rw [hcounts₁, hcounts₂, hcounts₃, hdue₂ p₃ (by simp), hdue₁ p₂ (by simp), hdue₁ p₃ (by simp),
    hwhole_counts, ← Step.tally_perm hperm, ← Step.tally_append, ← Step.tally_append]
  simp

/-- The host that stays is updated first and the one that goes is deleted last, after two others have
come. -/
theorem reconcile_by_phases_hosts :
    let s := twoHosts { firstId := 7, strict := true }
    let desired := [host "d" "new" (.ofNat 3), host "b" "new" (.ofNat 4), host "c" "new" (.ofNat 5),
      host "d" "new" (.ofNat 6)]
    let whole := s.perform hosts .reconcile desired
    let first := s.perform hosts .update desired
    let second := first.collection.state.perform hosts .add desired
    let third := second.collection.state.perform hosts .delete desired
    hosts.KeyKept ∧ s.Filed hosts ∧ (∀ d ∈ desired, hosts.table.holdsNaN d = false) ∧
    whole.result = .ok () ∧ [Operation.update, .add, .delete].Perm [.delete, .add, .update] ∧
    first.result = .ok () ∧ second.result = .ok () ∧ third.result = .ok () ∧
    third.collection.state.rows = whole.collection.state.rows ∧
    third.collection.state.nextId = whole.collection.state.nextId ∧
    first.collection.counts + second.collection.counts + third.collection.counts = ⟨2, 1, 1⟩ := by
  intro s desired whole first second third
  have hfiled : s.Filed hosts := filed_twoHosts _
  have hnan : ∀ d ∈ desired, hosts.table.holdsNaN d = false := by decide +kernel
  have hdone : whole.result = .ok () := by decide +kernel
  have hops : [Operation.update, .add, .delete].Perm [.delete, .add, .update] := by decide
  have hcounts : whole.collection.counts = ⟨2, 1, 1⟩ := by decide +kernel
  obtain ⟨hfirst, hsecond, hthird, hrows, hnext, hsum⟩ :=
    reconcile_by_phases keyKept_hosts hfiled hnan hdone hops
  subst third second first whole
  exact ⟨keyKept_hosts, hfiled, hnan, hdone, hops, hfirst, hsecond, hthird, hrows, hnext,
    hsum.trans hcounts⟩

end Store
end DesiredState
