import DesiredState.Proofs.Attained

/-! How few writes bring a store to desired rows. A write reaches the row of one key, so each key at
which the store does not match takes a write of its own; and a reconciliation issues just one for each
of these keys. -/
namespace DesiredState
namespace Store
variable {schema : Schema} {s t : Store schema.table} {desired : List schema.table.Row}

/-- Whether a store holds the desired keys and no others, each with a row that the last desired one
equals. -/
structure Matches (schema : Schema) (s : Store schema.table) (desired : List schema.table.Row) :
    Prop where
  holds_iff : ∀ k, s.get? k ≠ none ↔ k ∈ desired.map schema.key
  equals : ∀ k row d, s.get? k = some row → lastOf schema.key desired k = some d →
    schema.table.policy.equals row d = true

lemma Attained.matches_of_holdsNaN {deleted added updated : List String}
    (h : Attained schema s desired deleted added updated t)
    (hnan : ∀ k d, lastOf schema.key desired k = some d → schema.table.holdsNaN d = false) :
    t.Matches schema desired where
  holds_iff := h.holds_iff
  equals k row d hrow hd := by
    obtain ⟨row', hrow', hequals, -⟩ := h.exists_row hd
    obtain rfl : row = row' := Option.some_inj.1 (hrow.symm.trans hrow')
    rw [hequals, hnan k d hd]
    rfl

lemma matches_iff : s.Matches schema desired ↔
    (∀ k ∈ s.rows.keys, k ∈ desired.map schema.key) ∧ ∀ k ∈ desired.map schema.key,
      (s.get? k).any (fun row => (lastOf schema.key desired k).any (schema.table.policy.equals row)) =
        true := by
  have hheld (k : String) : k ∈ s.rows.keys ↔ s.get? k ≠ none :=
    KeyMap.mem_keys_iff.trans Option.ne_none_iff_exists'.symm
  simp only [hheld, ← exists_lastOf_iff]
  constructor
  · refine fun h => ⟨fun k hk => exists_lastOf_iff.2 ((h.holds_iff k).1 hk), ?_⟩
    rintro k ⟨d, hd⟩
    obtain ⟨row, hrow⟩ := Option.ne_none_iff_exists'.1
      ((h.holds_iff k).2 (exists_lastOf_iff.1 ⟨d, hd⟩))
    rw [hrow, hd]
    exact h.equals k row d hrow hd
  · rintro ⟨hsub, hequals⟩
    refine ⟨fun k => ⟨fun hk => exists_lastOf_iff.1 (hsub k hk), fun hk hnone => ?_⟩,
      fun k row d hrow hd => ?_⟩
    · have h := hequals k (exists_lastOf_iff.2 hk)
      rw [hnone] at h
      cases h
    · have h := hequals k ⟨d, hd⟩
      rw [hrow, hd] at h
      exact h

instance : Decidable (s.Matches schema desired) := decidable_of_iff' _ matches_iff

lemma Matches.get?_ne_of_pending (h : t.Matches schema desired) {phase : Phase} {k : String}
    {step : Step schema.table.Row}
    (hstep : pending schema.table.policy s.get? (lastOf schema.key desired) phase k = some step) :
    t.get? k ≠ s.get? k := by
  intro hsame
  cases phase with
  | delete =>
    obtain ⟨row, hrow, hd, -⟩ := pending_delete_iff.1 hstep
    have hdesired := (h.holds_iff k).1 (by rw [hsame, hrow]; exact Option.some_ne_none row)
    exact lastOf_eq_none_iff.1 hd hdesired
  | add =>
    obtain ⟨d, hnone, hd, -⟩ := pending_add_iff.1 hstep
    exact (h.holds_iff k).2 (exists_lastOf_iff.1 ⟨d, hd⟩) (hsame.trans hnone)
  | update =>
    obtain ⟨row, d, hrow, hd, hne, -⟩ := pending_update_iff.1 hstep
    have heq := h.equals k row d (hsame.trans hrow) hd
    rw [hne] at heq
    cases heq

/-- Each key that has a step is the key of one of the writes that bring a store to match. -/
lemma Matches.keys_schedule_subset (hfiled : s.Filed schema) {keys : Phase → List String}
    (hkeys : ∀ phase, (keys phase).Perm (s.keys schema desired)) {phases : List Phase}
    {writes : List (Write schema.table.Row)}
    (h : ((backend schema).after writes s).Matches schema desired) :
    (s.schedule schema keys phases desired).map Step.key ⊆
      writes.map fun w => schema.key w.record := by
  intro k hk
  obtain ⟨step, hstep, rfl⟩ := List.mem_map.1 hk
  by_contra hnot
  exact h.get?_ne_of_pending ((mem_schedule hfiled hkeys).1 hstep).2 (get?_after_of_notMem hnot)

lemma Matches.length_schedule_le (hfiled : s.Filed schema) {keys : Phase → List String}
    (hkeys : ∀ phase, (keys phase).Perm (s.keys schema desired)) {phases : List Phase}
    (hphases : phases.Nodup) {writes : List (Write schema.table.Row)}
    (h : ((backend schema).after writes s).Matches schema desired) :
    (s.schedule schema keys phases desired).length ≤ writes.length := by
  have hnodup : ((s.schedule schema keys phases desired).map Step.key).Nodup :=
    nodup_keys_schedule hkeys hphases
  have hlength := (List.subperm_of_subset hnodup (h.keys_schedule_subset hfiled hkeys)).length_le
  rwa [List.length_map, List.length_map] at hlength

/-- No writes that bring a store to match the desired rows are fewer than those that a successful
reconciliation counts, whatever they are, and whether all of them are taken or not. -/
theorem reconcile_minimal (hfiled : s.Filed schema)
    {order : Phase → Entries (Pairing schema.table.Row)} (horder : s.Enumerates schema desired order)
    (hdone : (s.operate schema .reconcile order desired).result = .ok ())
    {writes : List (Write schema.table.Row)}
    (h : ((backend schema).after writes s).Matches schema desired) :
    (s.operate schema .reconcile order desired).collection.counts.total ≤ writes.length := by
  rw [(walk_of_operate hfiled horder hdone).2, Step.total_tally]
  exact h.length_schedule_le hfiled horder.keys_perm (by decide)

/-- One host goes, one is merged and one comes. Another way to get there has one write more, which is
refused. -/
theorem reconcile_minimal_hosts :
    let s := twoHosts { firstId := 7, strict := true }
    let desired := [host "b" "new" (.ofNat 4), host "c" "new" (.ofNat 5)]
    let order (_ : Phase) := (Partition.ofRecords hosts.key s.list desired).entries
    let writes := [.update (host "b" "own" (.ofNat 4)), .insert (host "b" "new" (.ofNat 4)),
      .insert (host "c" "own" (.ofNat 5)), .delete (host "a" "" (.ofNat 0))]
    s.Filed hosts ∧ s.Enumerates hosts desired order ∧
    (s.operate hosts .reconcile order desired).result = .ok () ∧
    ((backend hosts).after writes s).Matches hosts desired ∧
    (s.operate hosts .reconcile order desired).collection.counts = ⟨1, 1, 1⟩ ∧
    (s.operate hosts .reconcile order desired).collection.counts.total ≤ writes.length := by
  intro s desired order writes
  have hfiled : s.Filed hosts := filed_twoHosts _
  have horder : s.Enumerates hosts desired order := fun _ => .refl _
  have hdone : (s.operate hosts .reconcile order desired).result = .ok () := by decide +kernel
  have hmatches : ((backend hosts).after writes s).Matches hosts desired := by decide +kernel
  exact ⟨hfiled, horder, hdone, hmatches, by decide +kernel,
    reconcile_minimal hfiled horder hdone hmatches⟩

/-- Where no desired row holds what does not equal itself, a reconciliation that succeeds has counted
the least number of writes after which the store matches. -/
theorem isLeast_total (hkey : schema.KeyKept) (hfiled : s.Filed schema)
    {order : Phase → Entries (Pairing schema.table.Row)} (horder : s.Enumerates schema desired order)
    (hdone : (s.operate schema .reconcile order desired).result = .ok ())
    (hnan : ∀ k d, lastOf schema.key desired k = some d → schema.table.holdsNaN d = false) :
    IsLeast {n | ∃ writes : List (Write schema.table.Row), writes.length = n ∧
        ((backend schema).after writes s).Matches schema desired}
      (s.operate schema .reconcile order desired).collection.counts.total := by
  obtain ⟨hwalk, hcounts⟩ := walk_of_operate hfiled horder hdone
  rw [hcounts, Step.total_tally]
  constructor
  · let steps := s.schedule schema (orderKeys order) Operation.reconcile.phases desired
    have hattained := attained_of_walk hkey hfiled horder.keys_perm hwalk
    refine ⟨Step.asked (backend schema) steps s,
      Step.length_asked_of_walk_done (fun step hstep w => ?_) (by rw [hwalk]), ?_⟩
    · exact kind_of_pending ((mem_schedule hfiled horder.keys_perm).1 hstep).2
    · rw [← Step.state_walk_eq_after, hwalk]
      exact hattained.matches_of_holdsNaN hnan
  · rintro n ⟨writes, rfl, h⟩
    exact h.length_schedule_le hfiled horder.keys_perm (by decide)

end Store
end DesiredState
