import DesiredState.Proofs.Attained

/-! Reconciling twice, each time in some order of the keys. Whichever way a row has come into the store,
the last desired row of its key matches it, unless that row holds what does not equal itself; and then
merging makes the same row again. -/
namespace DesiredState

namespace Store
variable {schema : Schema} {s t : Store schema.table} {desired : List schema.table.Row}
  {deleted added updated : List String} {keys : Phase → List String}

/-- Whether the compared columns accept what the desired rows hold in them. -/
def Acceptable (schema : Schema) (desired : List schema.table.Row) : Prop :=
  ∀ d ∈ desired, ∀ i ∈ schema.table.compared,
    (schema.table.column i).accepts (Table.get d i) = true

/-- All that is left to do is to put rows in their own places, for the keys whose last desired row holds
what does not equal itself. -/
lemma Attained.rewrites (hc : Attained schema s desired deleted added updated t)
    (hfiled : t.Filed schema) (haccepts : Acceptable schema desired)
    (hkeys : ∀ phase, (keys phase).Perm (t.keys schema desired)) {phases : List Phase}
    {step : Step schema.table.Row} (hstep : step ∈ t.schedule schema keys phases desired) :
    step.phase = .update ∧ ∃ row, step.call = .ok (.update row) ∧ schema.key row = step.key ∧
      t.get? step.key = some row := by
  have hpending := ((mem_schedule hfiled hkeys).1 hstep).2
  obtain ⟨phase, k, call⟩ := step
  cases phase with
  | delete =>
    obtain ⟨row, hrow, hd, -⟩ := pending_delete_iff.1 hpending
    have hdesired := (hc.holds_iff k).1 (by rw [hrow]; exact Option.some_ne_none row)
    exact absurd hdesired (lastOf_eq_none_iff.1 hd)
  | add =>
    obtain ⟨d, hrow, hd, -⟩ := pending_add_iff.1 hpending
    exact absurd hrow ((hc.holds_iff k).2 (exists_lastOf_iff.1 ⟨d, hd⟩))
  | update =>
    obtain ⟨row, d, hrow, hd, hne, heq⟩ := pending_update_iff.1 hpending
    obtain ⟨row', hrow', hequals, hoverlay⟩ := hc.exists_row hd
    obtain rfl : row = row' := Option.some_inj.1 (hrow.symm.trans hrow')
    have hnan : schema.table.holdsNaN d = true := by
      rw [hne] at hequals
      simpa using hequals.symm
    have hmerge : schema.table.policy.merge row d = ⟨row, none⟩ :=
      Table.merge_eq_done_iff.2
        ⟨haccepts d (mem_of_lastOf hd).1, (hoverlay hnan).symm⟩
    cases heq
    refine ⟨rfl, row, ?_, hfiled k row hrow, hrow⟩
    rw [hmerge]
    rfl

lemma Attained.mem_updated_again (hc : Attained schema s desired deleted added updated t)
    (hfiled : t.Filed schema) (hkeys : ∀ phase, (keys phase).Perm (t.keys schema desired))
    {k : String} : k ∈ (t.schedule schema keys [.update] desired).map Step.key ↔
      ∃ d, lastOf schema.key desired k = some d ∧ schema.table.holdsNaN d = true := by
  rw [mem_updated_iff hfiled hkeys]
  constructor
  · rintro ⟨row, d, hrow, hd, hne⟩
    obtain ⟨row', hrow', hequals, -⟩ := hc.exists_row hd
    obtain rfl : row = row' := Option.some_inj.1 (hrow.symm.trans hrow')
    rw [hne] at hequals
    exact ⟨d, hd, by simpa using hequals.symm⟩
  · rintro ⟨d, hd, hnan⟩
    obtain ⟨row, hrow, hequals, -⟩ := hc.exists_row hd
    rw [hnan] at hequals
    exact ⟨row, d, hrow, hd, hequals⟩

lemma schedule_of_updates (h : ∀ step ∈ s.schedule schema keys Operation.reconcile.phases desired,
    step.phase = .update) : s.schedule schema keys Operation.reconcile.phases desired =
      s.schedule schema keys [.update] desired := by
  have hnil (phase : Phase) (hphase : phase ≠ .update)
      (hsub : s.schedule schema keys [phase] desired ⊆
        s.schedule schema keys Operation.reconcile.phases desired) :
      s.schedule schema keys [phase] desired = [] :=
    List.eq_nil_iff_forall_not_mem.2 fun step hstep =>
      hphase ((phase_eq_of_mem_schedule hstep).symm.trans (h step (hsub hstep)))
  have hdeletes := hnil .delete (by decide) (by simp [schedule_reconcile])
  have hadds := hnil .add (by decide) (by simp [schedule_reconcile])
  rw [schedule_reconcile, hdeletes, hadds, List.nil_append, List.nil_append]

lemma map_key_schedule_sublist (phase : Phase) :
    ((s.schedule schema keys [phase] desired).map Step.key).Sublist (keys phase) := by
  rw [schedule, script, List.flatMap_singleton, map_key_filterMap_pending]
  exact List.filter_sublist

/-- Reconciling again succeeds, and enters updates in the journal for the keys whose last desired row
holds what does not equal itself. Nothing else changes. -/
lemma Attained.reconcile_again (hc : Attained schema s desired deleted added updated t)
    (hfiled : t.Filed schema) (haccepts : Acceptable schema desired)
    {order : Phase → Entries (Pairing schema.table.Row)}
    (horder : t.Enumerates schema desired order) :
    (t.operate schema .reconcile order desired).result = .ok () ∧ ∃ again : List String,
      again.Sublist (orderKeys order .update) ∧
      (∀ k, k ∈ again ↔
        ∃ d, lastOf schema.key desired k = some d ∧ schema.table.holdsNaN d = true) ∧
      (t.operate schema .reconcile order desired).collection.counts = ⟨0, again.length, 0⟩ ∧
      (t.operate schema .reconcile order desired).collection.state =
        { t with journal := t.journal ++ again.map (JournalEntry.mk .update) } := by
  have hkeys := horder.keys_perm
  have hsteps (step) (hstep : step ∈ t.schedule schema (orderKeys order)
      Operation.reconcile.phases desired) := hc.rewrites hfiled haccepts hkeys hstep
  obtain ⟨hresult, hstate, hcounts⟩ :=
    operate_of_walk hfiled horder (walk_of_rewrites hsteps)
  have hupdates := schedule_of_updates fun step hstep => (hsteps step hstep).1
  refine ⟨hresult, _, map_key_schedule_sublist .update, fun k => hc.mem_updated_again hfiled hkeys,
    ?_, ?_⟩
  · rw [hcounts, hupdates, List.length_map]
    ext <;> simp [Step.tally, countP_schedule]
  · rw [hstate, hupdates, map_entry_schedule]
    rfl

/-- Reconciling again, in whatever order of the keys each of the two runs has, writes nothing but, in
their own places, the rows whose last desired row holds what does not equal itself. It is without any
effect exactly if there is no such row. -/
theorem reconcile_idempotent (hkey : schema.KeyKept) (hfiled : s.Filed schema)
    (haccepts : Acceptable schema desired) {order : Phase → Entries (Pairing schema.table.Row)}
    (horder : s.Enumerates schema desired order)
    (h : (s.operate schema .reconcile order desired).result = .ok ())
    {order' : Phase → Entries (Pairing schema.table.Row)}
    (horder' : (s.operate schema .reconcile order desired).collection.state.Enumerates schema desired
      order') :
    let first := (s.operate schema .reconcile order desired).collection.state
    let again := first.operate schema .reconcile order' desired
    again.result = .ok () ∧
    (∃ updated : List String, updated.Nodup ∧ updated.Sublist (orderKeys order' .update) ∧
      (∀ k, k ∈ updated ↔
        ∃ d, lastOf schema.key desired k = some d ∧ schema.table.holdsNaN d = true) ∧
      again.collection.counts = ⟨0, updated.length, 0⟩ ∧
      again.collection.state =
        { first with journal := first.journal ++ updated.map (JournalEntry.mk .update) }) ∧
    (again.collection.counts = {} ∧ again.collection.state.journal = first.journal ↔
      ∀ k d, lastOf schema.key desired k = some d → schema.table.holdsNaN d = false) := by
  intro first again
  obtain ⟨hwalk, -⟩ := walk_of_operate hfiled horder h
  have hc := attained_of_walk hkey hfiled horder.keys_perm hwalk
  obtain ⟨hresult, updated, hsublist, hmem, hcounts, hstate⟩ :=
    hc.reconcile_again (hfiled.walk hkey hwalk) haccepts horder'
  have hnodup : updated.Nodup :=
    ((horder'.keys_perm .update).nodup_iff.2 (KeyMap.nodup_keys _)).sublist hsublist
  refine ⟨hresult, ⟨updated, hnodup, hsublist, hmem, hcounts, hstate⟩, ?_⟩
  constructor
  · rintro ⟨hzero, -⟩ k d hd
    have hnil : updated = [] :=
      List.length_eq_zero_iff.1 (congrArg Counts.updated (hcounts.symm.trans hzero))
    refine Bool.eq_false_iff.2 fun hnan => ?_
    have hk := (hmem k).2 ⟨d, hd, hnan⟩
    rw [hnil] at hk
    cases hk
  · intro hall
    have hnil : updated = [] := List.eq_nil_iff_forall_not_mem.2 fun k hk => by
      obtain ⟨d, hd, hnan⟩ := (hmem k).1 hk
      exact Bool.false_ne_true ((hall k d hd).symm.trans hnan)
    subst hnil
    exact ⟨hcounts, by rw [hstate]; exact List.append_nil _⟩

/-- A new host whose load is no number is updated by every further run, one whose load is a number by
none. The first run comes to the keys in descending order, and the second one in ascending order. -/
theorem reconcile_idempotent_hosts :
    let s := twoHosts { strict := false }
    let desired := [host "b" "new" (.ofNat 4), host "c" "new" ⟨0x7FF8000000000000⟩]
    let order (phase : Phase) := (s.ascending hosts desired phase).reverse
    let first := (s.operate hosts .reconcile order desired).collection.state
    let again := first.operate hosts .reconcile (first.ascending hosts desired) desired
    hosts.KeyKept ∧ s.Filed hosts ∧ Acceptable hosts desired ∧ s.Enumerates hosts desired order ∧
    (s.operate hosts .reconcile order desired).result = .ok () ∧
    first.Enumerates hosts desired (first.ascending hosts desired) ∧ again.result = .ok () ∧
    (∃ updated : List String, updated.Nodup ∧ (∀ k, k ∈ updated ↔
        ∃ d, lastOf hosts.key desired k = some d ∧ hosts.table.holdsNaN d = true) ∧
      again.collection.counts = ⟨0, updated.length, 0⟩ ∧
      again.collection.state =
        { first with journal := first.journal ++ updated.map (JournalEntry.mk .update) }) ∧
    again.collection.counts = ⟨0, 1, 0⟩ ∧
    ¬(again.collection.counts = {} ∧ again.collection.state.journal = first.journal) := by
  intro s desired order first again
  have hfiled : s.Filed hosts := filed_twoHosts _
  have haccepts : Acceptable hosts desired := by
    rw [Acceptable]
    decide +kernel
  have horder : s.Enumerates hosts desired order := fun _ => List.reverse_perm _
  have hdone : (s.operate hosts .reconcile order desired).result = .ok () := by decide +kernel
  obtain ⟨hagain, ⟨updated, hnodup, -, hupdated⟩, huntouched⟩ := reconcile_idempotent keyKept_hosts
    hfiled haccepts horder hdone (enumerates_ascending first desired)
  have hcounts : again.collection.counts = ⟨0, 1, 0⟩ := by decide +kernel
  subst again first
  refine ⟨keyKept_hosts, hfiled, haccepts, horder, hdone, enumerates_ascending _ desired, hagain,
    ⟨updated, hnodup, hupdated⟩, hcounts, fun h => ?_⟩
  have hnan : hosts.table.holdsNaN (host "c" "new" ⟨0x7FF8000000000000⟩) = false :=
    huntouched.1 h "c" _ rfl
  exact absurd hnan (by decide +kernel)

end Store
end DesiredState
