import DesiredState.Proofs.Simulation

/-! The whole life of a collection. The first request takes all records, whatever comes of it, and
every later one is turned away. The counts are kept write by write, and tell at any time how many
writes have been taken, from a backend that may refuse whenever it likes. -/
namespace DesiredState
variable {α ε σ : Type}

/-- What every action preserves is true wherever a walk ends. -/
lemma Outcome.walk_keeps {β : Type} {P : σ → Prop} {act : β → σ → Outcome ε σ}
    (hact : ∀ b s, P s → P (act b s).state) (bs : List β) {s : σ} (hs : P s) :
    P (walk act bs s).state := by
  induction bs generalizing s with
  | nil => exact hs
  | cons b bs ih =>
    have hfirst := hact b s hs
    rcases h : act b s with ⟨t, _ | e⟩ <;> rw [h] at hfirst
    · rw [walk_cons_of_done bs h]
      exact ih hfirst
    · rw [walk_cons_of_failed bs h]
      exact hfirst

/-- Counts are compared one by one. -/
instance : LE Counts :=
  ⟨fun a b => a.added ≤ b.added ∧ a.updated ≤ b.updated ∧ a.deleted ≤ b.deleted⟩

namespace Backend
variable {calls calls' : List (Write α × Option ε)}

lemma taken_concat {phase : Phase} {w : Write α} (h : w.kind = phase.kind)
    (calls : List (Write α × Option ε)) :
    taken (calls ++ [(w, none)]) = (taken calls).bump phase := by
  cases phase <;> ext <;> simp [taken, Counts.bump, h, Phase.kind]

lemma taken_concat_refused (calls : List (Write α × Option ε)) (w : Write α) (e : ε) :
    taken (calls ++ [(w, some e)]) = taken calls := by
  ext <;> simp [taken]

lemma taken_le (h : calls <+: calls') : taken calls ≤ taken calls' :=
  ⟨h.sublist.countP_le, h.sublist.countP_le, h.sublist.countP_le⟩

lemma total_taken (calls : List (Write α × Option ε)) :
    (taken calls).total = calls.countP (·.2.isNone) := by
  induction calls using List.reverseRec with
  | nil => rfl
  | append_singleton calls c ih =>
    obtain ⟨w, _ | e⟩ := c
    · obtain ⟨phase, hphase⟩ : ∃ phase : Phase, w.kind = phase.kind := by
        cases w with
        | insert _ => exact ⟨.add, rfl⟩
        | update _ => exact ⟨.update, rfl⟩
        | delete _ => exact ⟨.delete, rfl⟩
      rw [taken_concat hphase, Counts.total_bump, ih, List.countP_append]
      rfl
    · rw [taken_concat_refused, ih, List.countP_append]
      rfl

end Backend

namespace Progress
variable {calls : List (Write α × Option ε)} {p : Progress (Backend.Observed α ε σ)}

/-- A run that has issued its calls after some others, and whose counts are those of all of them. -/
structure Counted (calls : List (Write α × Option ε)) (p : Progress (Backend.Observed α ε σ)) :
    Prop where
  calls_grow : calls <+: p.state.calls
  counts_eq : p.counts = Backend.taken p.state.calls

lemma Counted.issue (h : p.Counted calls) (backend : Backend α ε σ) {phase : Phase} {w : Write α}
    (hkind : w.kind = phase.kind) (key : String) :
    (p.issue backend.observed phase key w).state.Counted calls := by
  have hgrow (e? : Option ε) : calls <+: p.state.calls ++ [(w, e?)] :=
    h.calls_grow.trans (List.prefix_append _ _)
  rcases hreply : backend.answer w p.state.inner with ⟨t, _ | e, events⟩
  · simp only [Progress.issue, Backend.observed, hreply]
    refine ⟨hgrow none, ?_⟩
    rw [Backend.taken_concat hkind, h.counts_eq]
  · simp only [Progress.issue, Backend.observed, hreply]
    refine ⟨hgrow (some e), ?_⟩
    rw [Backend.taken_concat_refused, h.counts_eq]

lemma Counted.apply (h : p.Counted calls) (backend : Backend α ε σ) (policy : MergePolicy α)
    (phase : Phase) (entry : String × Pairing α) :
    (p.apply backend.observed policy phase entry).state.Counted calls := by
  obtain ⟨key, pairing⟩ := entry
  cases phase <;> cases pairing <;> try exact h
  case delete.storedOnly s => exact h.issue backend rfl key
  case add.desiredOnly d => exact h.issue backend rfl key
  case update.both s d =>
    simp only [Progress.apply]
    split
    · exact h
    · rcases policy.merge s d with ⟨merged, _ | e⟩
      · exact h.issue backend rfl key
      · exact h

lemma Counted.runAll (h : p.Counted calls) (backend : Backend α ε σ) (policy : MergePolicy α)
    (order : Phase → Entries (Pairing α)) (phases : List Phase) :
    (p.runAll backend.observed policy order phases).state.Counted calls := by
  refine Outcome.walk_keeps (P := Counted calls) (fun phase q hq => ?_) phases h
  refine Outcome.walk_keeps (P := Counted calls) (fun entry u hu => ?_) (order phase) hq
  exact hu.apply backend policy phase entry

end Progress

namespace Collection
variable {kind : RecordKind α} {backend : Backend α ε σ} {stored : List α}

lemma serve_of_drained {c : Collection α σ} (h : c.drained = true) (request : Request α) :
    c.serve kind backend request = ⟨c, ⟨request.desired, []⟩, .error .drained, []⟩ := by
  cases request <;>
    simp [serve, performIn, planIn, withPartition, h, Performed.map, Except.map, Request.desired]

variable (kind backend) in
/-- The first request takes all stored and all desired records. -/
lemma feeds_serve {c : Collection α σ} (h : c.drained = false) (request : Request α) :
    let out := c.serve kind backend request
    out.collection.drained = true ∧
      out.collection.stored = ⟨[], c.stored.taken ++ c.stored.pending⟩ ∧
      out.desired = ⟨[], request.desired⟩ := by
  cases request with
  | perform op order desired =>
    simp only [serve, performIn, withPartition, h, Partition.ofFeeds_eq, Performed.map,
      Bool.false_eq_true, if_false]
    split <;> exact ⟨rfl, rfl, rfl⟩
  | plan order desired =>
    simp [serve, planIn, withPartition, h, Partition.ofFeeds_eq, Performed.map, Request.desired]

/-- What is true of a collection at any time: its counts are those of the writes that have been taken,
and its stored records have been taken either all or not at all. -/
structure Accounted (stored : List α) (c : Collection α (Backend.Observed α ε σ)) : Prop where
  counts_eq : c.counts = Backend.taken c.state.calls
  stored_eq : c.stored = if c.drained then ⟨[], stored⟩ else ⟨stored, []⟩

variable {c : Collection α (Backend.Observed α ε σ)}

lemma accounted_ofRecords (state : σ) (policy? : Option (MergePolicy α)) :
    (ofRecords stored (Backend.Observed.mk (ε := ε) [] state) policy?).Accounted stored :=
  ⟨rfl, rfl⟩

lemma counted_serve (h : c.counts = Backend.taken c.state.calls) (request : Request α) :
    let out := c.serve kind backend.observed request
    c.state.calls <+: out.collection.state.calls ∧
      out.collection.counts = Backend.taken out.collection.state.calls := by
  cases hdrained : c.drained with
  | true =>
    rw [serve_of_drained hdrained]
    exact ⟨List.prefix_refl _, h⟩
  | false =>
    cases request with
    | perform op order desired =>
      obtain ⟨-, hstate, hcounts⟩ :=
        performIn_of_not_drained order kind backend.observed op hdrained { pending := desired }
      have hrun := Progress.Counted.runAll (p := ⟨c.state, c.counts, [partitionEvent kind
        (Partition.ofRecords kind.key c.stored.pending desired)]⟩) ⟨List.prefix_refl _, h⟩ backend
        (c.policy kind) (order (Partition.ofRecords kind.key c.stored.pending desired)) op.phases
      simp only [serve, Performed.map, hstate, hcounts]
      exact ⟨hrun.calls_grow, hrun.counts_eq⟩
    | plan order desired =>
      simp only [serve, planIn, withPartition, hdrained, Partition.ofFeeds_eq, Performed.map,
        Bool.false_eq_true, if_false]
      exact ⟨List.prefix_refl _, h⟩

lemma Accounted.serve (h : c.Accounted stored) (request : Request α) :
    (c.serve kind backend.observed request).collection.Accounted stored := by
  refine ⟨(counted_serve h.counts_eq request).2, ?_⟩
  have hstored := h.stored_eq
  cases hdrained : c.drained with
  | true =>
    rw [serve_of_drained hdrained]
    exact hstored
  | false =>
    obtain ⟨hout, hfeed, -⟩ := feeds_serve kind backend.observed hdrained request
    rw [hdrained] at hstored
    rw [hfeed, hout, hstored]
    rfl

lemma Accounted.serveAll (h : c.Accounted stored) (requests : List (Request α)) :
    (c.serveAll kind backend.observed requests).Accounted stored := by
  induction requests generalizing c with
  | nil => exact h
  | cons request requests ih => exact ih (h.serve request)

lemma drained_serve (c : Collection α σ) (request : Request α) :
    (c.serve kind backend request).collection.drained = true := by
  cases hdrained : c.drained with
  | true =>
    rw [serve_of_drained hdrained]
    exact hdrained
  | false => exact (feeds_serve kind backend hdrained request).1

lemma drained_serveAll (c : Collection α σ) {requests : List (Request α)} (h : requests ≠ []) :
    (c.serveAll kind backend requests).drained = true := by
  obtain ⟨requests, request, rfl⟩ := (List.eq_nil_or_concat' _).resolve_left h
  rw [serveAll, List.foldl_concat]
  exact drained_serve _ request

/-- A request at any time in the life of a collection, over a backend that is observed. The first one
takes all stored and all desired records, each once; a later one takes nothing, is turned away and
changes nothing. Calls and counts never become fewer, and at any time the counts are those of the
writes that have been taken so far. The backend itself makes no difference to being observed. -/
theorem lifetime (kind : RecordKind α) (backend : Backend α ε σ) (policy? : Option (MergePolicy α))
    (stored : List α) (state : σ) (before : List (Request α)) (request : Request α) :
    let c := (ofRecords stored (Backend.Observed.mk [] state) policy?).serveAll kind
      backend.observed before
    let out := c.serve kind backend.observed request
    let calls := out.collection.state.calls
    let plain := ((ofRecords stored state policy?).serveAll kind backend before).serve kind backend
      request
    (before = [] → c.stored = ⟨stored, []⟩ ∧ out.desired = ⟨[], request.desired⟩) ∧
    (before ≠ [] → out.collection = c ∧ out.desired = ⟨request.desired, []⟩ ∧
      out.result = .error .drained ∧ out.events = []) ∧
    out.collection.stored = ⟨[], stored⟩ ∧ out.collection.drained = true ∧
    c.state.calls <+: calls ∧ c.counts ≤ out.collection.counts ∧
    out.collection.counts.added = calls.countP (fun call => call.1.kind = .insert ∧ call.2.isNone) ∧
    out.collection.counts.updated = calls.countP (fun call => call.1.kind = .update ∧ call.2.isNone) ∧
    out.collection.counts.deleted = calls.countP (fun call => call.1.kind = .delete ∧ call.2.isNone) ∧
    out.collection.counts.total = calls.countP (·.2.isNone) ∧
    plain.result = out.result ∧ plain.desired = out.desired ∧
      plain.collection.stored = out.collection.stored ∧
      plain.collection.counts = out.collection.counts ∧
      plain.collection.state = out.collection.state.inner := by
  intro c out calls plain
  have hc : c.Accounted stored := (accounted_ofRecords state policy?).serveAll before
  have hout : out.collection.Accounted stored := hc.serve request
  have hdrained : out.collection.drained = true := drained_serve c request
  have hgrow : c.state.calls <+: calls := (counted_serve hc.counts_eq request).1
  have hplain : out.Rel (fun seen plain => seen.inner = plain) plain := by
    have hobserved := backend.observed_simulates fun _ => True
    have hstart : (ofRecords stored (Backend.Observed.mk [] state) policy?).Rel
        (fun (seen : Backend.Observed α ε σ) plain => seen.inner = plain)
        (ofRecords stored state policy?) := ⟨rfl, rfl, rfl, rfl, rfl⟩
    have hbefore := serveAll_rel hobserved kind before hstart
    exact serve_rel hobserved kind request hbefore fun _ _ _ _ => trivial
  refine ⟨?_, fun hbefore => ?_, ?_, hdrained, hgrow, ?_, ?_, ?_, ?_, ?_, hplain.result_eq.symm,
    hplain.desired_eq.symm, hplain.collection.stored_eq.symm, hplain.collection.counts_eq.symm,
    hplain.collection.state.symm⟩
  · rintro rfl
    exact ⟨rfl, (feeds_serve kind backend.observed rfl request).2.2⟩
  · have hturned : out = ⟨c, ⟨request.desired, []⟩, .error .drained, []⟩ :=
      serve_of_drained (drained_serveAll _ hbefore) request
    rw [hturned]
    exact ⟨rfl, rfl, rfl, rfl⟩
  · rw [hout.stored_eq, hdrained]
    rfl
  · rw [hc.counts_eq, hout.counts_eq]
    exact Backend.taken_le hgrow
  · exact congrArg Counts.added hout.counts_eq
  · exact congrArg Counts.updated hout.counts_eq
  · exact congrArg Counts.deleted hout.counts_eq
  · rw [hout.counts_eq, Backend.total_taken]

/-- A reconciliation that is refused its third write, and then a plan and an insertion, which are both
turned away. -/
theorem lifetime_pairs :
    let kind : RecordKind (String × Nat) :=
      ⟨"pair", (·.1), ⟨fun s d => s.2 == d.2, fun s d => ⟨(s.1, d.2), none⟩⟩⟩
    let backend : Backend (String × Nat) String (Backend.Screened (List (Write (String × Nat)))) :=
      Backend.screened (fun n _ => if n = 2 then some "full" else none) (.transcript id)
    let stored := [("a", 1), ("b", 2), ("c", 3)]
    let first : Request (String × Nat) :=
      .perform .reconcile (fun p _ => p.entries) [("b", 7), ("d", 4), ("b", 8), ("e", 5)]
    let last : Request (String × Nat) := .perform .add (fun p _ => p.entries) [("y", 1)]
    let run before request := ((ofRecords stored (Backend.Observed.mk [] (Backend.Screened.mk 0 []))
      none).serveAll kind backend.observed before).serve kind backend.observed request
    let served := run [] first
    let out := run [first, .plan (·.entries) [("x", 9)]] last
    served.result = .error (.transaction .add "d" "full") ∧ served.desired = ⟨[], first.desired⟩ ∧
    served.collection.stored = ⟨[], stored⟩ ∧
    out.result = .error .drained ∧ out.desired = ⟨last.desired, []⟩ ∧
    out.collection.counts = ⟨0, 0, 2⟩ ∧ out.collection.state.calls.length = 3 := by
  intro kind backend stored first last run served out
  obtain ⟨htakes, -, hstored, -⟩ := lifetime kind backend none stored ⟨0, []⟩ [] first
  obtain ⟨-, hlater, -⟩ := lifetime kind backend none stored ⟨0, []⟩
    [first, .plan (·.entries) [("x", 9)]] last
  obtain ⟨-, hdesired, hresult, -⟩ := hlater (List.cons_ne_nil _ _)
  exact ⟨by decide +kernel, (htakes rfl).2, hstored, hresult, hdesired, by decide +kernel,
    by decide +kernel⟩

end Collection
end DesiredState
