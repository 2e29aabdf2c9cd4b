import DesiredState.Proofs.Agenda

/-! Reconciling after an interruption. As long as every desired row equals itself, a step that has been
taken is settled: on the store that it leaves, the agenda is what was left of it. So a run that is cut
short can be taken up by reconciling again, and goes on as if nothing had happened. -/
namespace DesiredState

namespace Store
variable {schema : Schema} {s t u : Store schema.table} {desired : List schema.table.Row}

lemma pending_of_taken (hkey : schema.KeyKept) (hfiled : s.Filed schema)
    (hnan : ∀ d ∈ desired, schema.table.holdsNaN d = false) {step : Step schema.table.Row}
    (hmem : step ∈ s.agenda schema desired)
    (hstep : step.attempt (backend schema) s = ⟨u, none⟩) (phase : Phase) :
    pending schema.table.policy u.get? (lastOf schema.key desired) phase step.key = none := by
  obtain ⟨w, hw, rfl⟩ := eq_written_of_attempt hstep
  have hget : (written schema w s).get? step.key = w.filed s.nextId := by
    rw [get?_written, if_pos (fits_of_mem_agenda hkey hfiled hmem w hw).2]
  have hpending := (mem_agenda hfiled).1 hmem
  obtain ⟨taken, k, call⟩ := step
  have equals_of_agree {row d : schema.table.Row} (hd : lastOf schema.key desired k = some d)
      (hrow : ∀ i ∈ schema.table.compared, Table.get row i = Table.get d i) :
      schema.table.policy.equals row d = true := by
    rw [Table.policy_equals_of_agree hrow, hnan d (mem_of_lastOf hd).1]
    rfl
  cases taken with
  | delete =>
    obtain ⟨row, -, hd, heq⟩ := pending_delete_iff.1 hpending
    cases heq
    cases hw
    exact pending_eq_none_of_neither hget hd phase
  | add =>
    obtain ⟨d, -, hd, heq⟩ := pending_add_iff.1 hpending
    cases heq
    cases hw
    exact pending_eq_none_of_equals hget hd
      (equals_of_agree hd fun i hi => get_numbered_of_compared d _ hi) phase
  | update =>
    obtain ⟨r, d, -, hd, -, heq⟩ := pending_update_iff.1 hpending
    cases heq
    obtain ⟨m, hm, rfl⟩ := Outcome.toExcept_map_eq_ok_iff.1 hw
    obtain ⟨-, rfl⟩ := Table.merge_eq_done_iff.1 hm
    exact pending_eq_none_of_equals hget hd
      (equals_of_agree hd fun i hi => Table.get_overlay_of_compared r d hi) phase

lemma pending_of_ne (hkey : schema.KeyKept) (hfiled : s.Filed schema)
    {step : Step schema.table.Row} (hmem : step ∈ s.agenda schema desired)
    (hstep : step.attempt (backend schema) s = ⟨u, none⟩) (phase : Phase) {k : String}
    (hk : k ≠ step.key) :
    pending schema.table.policy u.get? (lastOf schema.key desired) phase k =
      pending schema.table.policy s.get? (lastOf schema.key desired) phase k := by
  obtain ⟨w, hw, rfl⟩ := eq_written_of_attempt hstep
  have hw_key : schema.key w.record = step.key := (fits_of_mem_agenda hkey hfiled hmem w hw).2
  have hget : (written schema w s).get? k = s.get? k := by
    rw [get?_written, if_neg (by rw [hw_key]; exact Ne.symm hk)]
  rw [pending, pending, hget]

lemma due_of_step (hkey : schema.KeyKept) (hfiled : s.Filed schema)
    (hnan : ∀ d ∈ desired, schema.table.holdsNaN d = false) {step : Step schema.table.Row}
    (hmem : step ∈ s.agenda schema desired)
    (hstep : step.attempt (backend schema) s = ⟨u, none⟩) (phase : Phase) :
    u.due schema desired phase =
      (s.due schema desired phase).filter fun st => st.key ≠ step.key := by
  have htaken := pending_of_taken hkey hfiled hnan hmem hstep phase
  have hother {k : String} (hk : k ≠ step.key) := pending_of_ne hkey hfiled hmem hstep phase hk
  have hfiled' : u.Filed schema := hfiled.attempt hkey hstep
  have hkeys (k st) (hst : pending schema.table.policy u.get? (lastOf schema.key desired) phase k =
      some st) : k ∈ s.keys schema desired := by
    have hk : k ≠ step.key := by
      rintro rfl
      rw [htaken] at hst
      cases hst
    rw [hother hk] at hst
    exact mem_keys_of_pending hfiled hst
  rw [due_eq_filterMap hfiled' (KeyMap.pairwise_keys _) hkeys, due, List.filter_filterMap]
  refine List.filterMap_congr fun k _ => ?_
  by_cases hk : k = step.key
  · rw [hk, htaken]
    cases hst : pending schema.table.policy s.get? (lastOf schema.key desired) phase step.key with
    | none => rfl
    | some st => simp [Option.filter, (phase_and_key_of_pending hst).2]
  · rw [hother hk]
    cases hst : pending schema.table.policy s.get? (lastOf schema.key desired) phase k with
    | none => rfl
    | some st => simp [Option.filter, (phase_and_key_of_pending hst).2, hk]

/-- Steps that have been taken are struck from every phase, and no other step is. -/
lemma due_of_walk (hkey : schema.KeyKept) (hfiled : s.Filed schema)
    (hnan : ∀ d ∈ desired, schema.table.holdsNaN d = false) {steps : List (Step schema.table.Row)}
    (hsteps : steps ⊆ s.agenda schema desired) (hnodup : (steps.map Step.key).Nodup)
    (h : Outcome.walk (Step.attempt (backend schema)) steps s = ⟨u, none⟩) (phase : Phase) :
    u.due schema desired phase =
      (s.due schema desired phase).filter fun st => st.key ∉ steps.map Step.key := by
  induction steps generalizing s with
  | nil =>
    cases h
    simp
  | cons step steps ih =>
    obtain ⟨hmem, hsteps⟩ := List.cons_subset.1 hsteps
    rw [List.map_cons, List.nodup_cons] at hnodup
    obtain ⟨v, hstep, hwalk⟩ := Outcome.walk_cons_eq_done_iff.1 h
    have hfiled' : v.Filed schema := hfiled.attempt hkey hstep
    -- The other steps are for other keys, so that the first one leaves them due.
    have hrest : steps ⊆ v.agenda schema desired := fun st hst => by
      have hne : st.key ≠ step.key := fun heq => hnodup.1 (List.mem_map.2 ⟨st, hst, heq⟩)
      rw [mem_agenda hfiled', pending_of_ne hkey hfiled hmem hstep st.phase hne]
      exact (mem_agenda hfiled).1 (hsteps hst)
    rw [ih hfiled' hrest hnodup.2 hwalk, due_of_step hkey hfiled hnan hmem hstep, List.filter_filter]
    refine List.filter_congr fun st _ => ?_
    rw [← Bool.decide_and, decide_eq_decide, List.map_cons, List.mem_cons, not_or, and_comm]

/-- After some steps of the agenda, the agenda is what is left of it. -/
lemma agenda_of_split (hkey : schema.KeyKept) (hfiled : s.Filed schema)
    (hnan : ∀ d ∈ desired, schema.table.holdsNaN d = false) {as bs : List (Step schema.table.Row)}
    (hsplit : s.agenda schema desired = as ++ bs)
    (h : Outcome.walk (Step.attempt (backend schema)) as s = ⟨u, none⟩) :
    u.agenda schema desired = bs := by
  have hnodup := s.nodup_keys_agenda desired
  rw [hsplit, List.map_append] at hnodup
  have hdue := due_of_walk hkey hfiled hnan (by simp [hsplit]) hnodup.of_append_left h
  have hagenda : u.agenda schema desired =
      (s.agenda schema desired).filter fun st => st.key ∉ as.map Step.key := by
    rw [agenda, agenda, hdue, hdue, hdue, List.filter_append, List.filter_append]
  rw [hagenda, hsplit, List.filter_append, List.filter_eq_nil_iff.2, List.filter_eq_self.2,
    List.nil_append]
  · intro st hst
    have hmem : st.key ∈ bs.map Step.key := List.mem_map.2 ⟨st, hst, rfl⟩
    exact decide_eq_true fun h => List.disjoint_of_nodup_append hnodup h hmem
  · intro st hst
    simpa using ⟨st, hst, rfl⟩

end Store

/-- A walk that would get to its end, with one write refused on the way: the steps before it have been
taken, and nothing else has happened. -/
lemma Step.walk_screened {α ε σ : Type} {backend : Backend α ε σ} {steps : List (Step α)} {s t : σ}
    (h : Outcome.walk (attempt backend) steps s = ⟨t, none⟩) (e : ε) {calls n last : Nat}
    (hlast : calls + n = last) :
    let screened := backend.screened fun i _ => if i = last then some e else none
    let out := Outcome.walk (attempt screened) steps ⟨calls, s⟩
    Outcome.walk (attempt backend) (steps.take n) s = ⟨out.state.inner, none⟩ ∧
      accepted screened steps ⟨calls, s⟩ = steps.take n ∧
      (out.error? = none ↔ steps.length ≤ n) := by
  induction steps generalizing s calls n with
  | nil => simp [accepted]
  | cons step steps ih =>
    obtain ⟨u, hstep, hwalk⟩ := Outcome.walk_cons_eq_done_iff.1 h
    obtain ⟨w, hw, hnone, rfl⟩ := attempt_eq_done_iff.1 hstep
    cases n with
    | zero =>
      obtain rfl : calls = last := hlast
      simp [Outcome.walk, accepted, attempt, hw, Backend.screened]
    | succ n =>
      have hne : ¬calls = last := by omega
      have hlast' : calls + 1 + n = last := by omega
      obtain ⟨hstate, haccepted, herror⟩ := ih hwalk hlast'
      have hscreened : step.attempt
          (backend.screened fun i _ => if i = last then some e else none) ⟨calls, s⟩ =
          ⟨⟨calls + 1, (backend.answer w s).state⟩, none⟩ := by
        simp [attempt, hw, Backend.screened, hne, hnone]
      simp only [Outcome.walk_cons_of_done steps hscreened, accepted, hscreened]
      rw [List.take_succ_cons, Outcome.walk_cons_of_done _ hstep, haccepted, herror,
        List.length_cons, Nat.add_le_add_iff_right]
      exact ⟨hstate, rfl, Iff.rfl⟩

namespace Store
variable {schema : Schema} {s : Store schema.table} {desired : List schema.table.Row}

/-- Reconciling that would succeed, with one call refused before it gets to the store, and reconciling
again what is stored then: together they do what reconciling at once does. -/
theorem reconcile_recovers (hkey : schema.KeyKept) (hfiled : s.Filed schema)
    (hnan : ∀ d ∈ desired, schema.table.holdsNaN d = false)
    (h : (s.perform schema .reconcile desired).result = .ok ()) (n : Nat) (e : StoreError) :
    let whole := s.perform schema .reconcile desired
    let interrupted := (Collection.ofRecords s.list (Backend.Screened.mk 0 s) none).performIn
      (fun _ => s.ascending schema desired) schema.kind
      ((backend schema).screened fun i _ => if i = n then some e else none) .reconcile
      { pending := desired }
    let again := interrupted.collection.state.inner.perform schema .reconcile desired
    (interrupted.result = .ok () ↔ whole.collection.counts.total ≤ n) ∧
      again.result = .ok () ∧ again.collection.state = whole.collection.state ∧
      interrupted.collection.counts + again.collection.counts = whole.collection.counts := by
  intro whole interrupted again
  obtain ⟨hwalk, hwhole⟩ := walk_of_reconcile hfiled h
  obtain ⟨hresult, hstate, hcounts⟩ := performIn_eq_walk_agenda hfiled
    ((backend schema).screened fun i _ => if i = n then some e else none) ⟨0, s⟩ desired
  obtain ⟨htake, haccepted, herror⟩ := Step.walk_screened hwalk e (Nat.zero_add n)
  rw [← hstate] at htake
  rw [haccepted] at hcounts
  -- What is left of the agenda is the agenda of the store that the interrupted run leaves.
  have hagenda := agenda_of_split hkey hfiled hnan
    (List.take_append_drop n (s.agenda schema desired)).symm htake
  have hrest : Outcome.walk (Step.attempt (backend schema))
      (interrupted.collection.state.inner.agenda schema desired)
      interrupted.collection.state.inner = ⟨whole.collection.state, none⟩ := by
    rw [← List.take_append_drop n (s.agenda schema desired)] at hwalk
    obtain ⟨u, hu, hdrop⟩ := Outcome.walk_append_eq_done_iff.1 hwalk
    obtain rfl : u = interrupted.collection.state.inner :=
      congrArg Outcome.state (hu.symm.trans htake)
    rw [hagenda]
    exact hdrop
  obtain ⟨hagain, hstate', hcounts'⟩ := reconcile_of_walk (hfiled.walk hkey htake) hrest
  refine ⟨?_, hagain, hstate', ?_⟩
  · rw [hwhole, Step.total_tally, ← herror]
    generalize Outcome.walk (Step.attempt ((backend schema).screened _)) _ _ = walked at hresult ⊢
    rcases walked with ⟨q, _ | e⟩ <;> simp [interrupted, hresult]
  · rw [hcounts', hwhole, hagenda]
    refine (congrArg (· + _) hcounts).trans ?_
    rw [← Step.tally_append, List.take_append_drop]

/-- Four calls, of which the third is refused: the first of two new hosts is in the store already when
the second run comes to the other one. -/
theorem reconcile_recovers_hosts :
    let s := twoHosts { strict := true }
    let desired := [host "d" "new" (.ofNat 3), host "b" "new" (.ofNat 4), host "c" "new" (.ofNat 5)]
    let whole := s.perform hosts .reconcile desired
    let interrupted := (Collection.ofRecords s.list (Backend.Screened.mk 0 s) none).performIn
      (fun _ => s.ascending hosts desired) hosts.kind
      ((backend hosts).screened fun i _ => if i = 2 then some (.notFound "" "") else none) .reconcile
      { pending := desired }
    let again := interrupted.collection.state.inner.perform hosts .reconcile desired
    hosts.KeyKept ∧ s.Filed hosts ∧ (∀ d ∈ desired, hosts.table.holdsNaN d = false) ∧
    whole.result = .ok () ∧ whole.collection.counts = ⟨2, 1, 1⟩ ∧ interrupted.result ≠ .ok () ∧
    again.result = .ok () ∧ again.collection.state = whole.collection.state ∧
    interrupted.collection.counts + again.collection.counts = whole.collection.counts := by
  intro s desired whole interrupted again
  have hfiled : s.Filed hosts := filed_twoHosts _
  have hnan : ∀ d ∈ desired, hosts.table.holdsNaN d = false := by decide +kernel
  have hdone : whole.result = .ok () := by decide +kernel
  have hcounts : whole.collection.counts = ⟨2, 1, 1⟩ := by decide +kernel
  obtain ⟨hinterrupted, hagain⟩ :=
    reconcile_recovers keyKept_hosts hfiled hnan hdone 2 (.notFound "" "")
  subst again interrupted whole
  refine ⟨keyKept_hosts, hfiled, hnan, hdone, hcounts, fun h => ?_, hagain⟩
  have htotal := hinterrupted.1 h
  rw [hcounts] at htotal
  exact absurd htotal (by decide)

end Store
end DesiredState
