import DesiredState.Collection
import DesiredState.Proofs.LastRecord

/-! Runs as scripts. Each phase has at most one step to take for a key, and which one depends on the
last stored and the last desired record alone. The steps of all phases, one after another, make a
script; performing an operation is walking through its script once. -/
namespace DesiredState
variable {α ε σ : Type}

namespace Outcome
variable {β γ : Type}

def toExcept : Outcome ε σ → Except ε σ
  | ⟨s, none⟩ => .ok s
  | ⟨_, some e⟩ => .error e

lemma toExcept_map_eq_ok_iff {o : Outcome ε σ} {f : σ → β} {b : β} :
    o.toExcept.map f = .ok b ↔ ∃ s, o = ⟨s, none⟩ ∧ f s = b := by
  rcases o with ⟨s, _ | e⟩ <;> simp [toExcept, Except.map]

lemma elim_eq_ok_iff {e? : Option ε} : e?.elim (.ok ()) .error = Except.ok () ↔ e? = none := by
  cases e? <;> simp

lemma elim_eq_error_iff {e? : Option ε} {e : ε} :
    e?.elim (.ok ()) .error = Except.error e ↔ e? = some e := by
  cases e? <;> simp

lemma walk_filterMap {act : β → σ → Outcome ε σ} {act' : γ → σ → Outcome ε σ} {f : β → Option γ}
    (h : ∀ b s, act b s = (f b).elim ⟨s, none⟩ fun c => act' c s) (bs : List β) (s : σ) :
    walk act bs s = walk act' (bs.filterMap f) s := by
  induction bs generalizing s with
  | nil => rfl
  | cons b bs ih =>
    cases hb : f b with
    | none =>
      rw [List.filterMap_cons_none hb, walk, h, hb]
      exact ih s
    | some c =>
      rw [List.filterMap_cons_some hb, walk, walk, h, hb, Option.elim_some]
      rcases act' c s with ⟨t, _ | e⟩
      · exact ih t
      · rfl

lemma walk_flatMap (act : γ → σ → Outcome ε σ) (f : β → List γ) (bs : List β) (s : σ) :
    walk (fun b => walk act (f b)) bs s = walk act (bs.flatMap f) s := by
  induction bs generalizing s with
  | nil => rfl
  | cons b bs ih =>
    rw [List.flatMap_cons, walk_append, walk]
    rcases walk act (f b) s with ⟨t, _ | e⟩
    · exact ih t
    · rfl

end Outcome

def Phase.kind : Phase → WriteKind
  | delete => .delete
  | add => .insert
  | update => .update

/-- A step of a run: the write that a phase asks for under a key, or why there is none to ask for. -/
structure Step (α : Type) where
  phase : Phase
  key : String
  call : Except SchemaError (Write α)

namespace Step

/-- Takes a step, and counts the write if it is taken. -/
def take (backend : Backend α ε σ) (step : Step α) (p : Progress σ) :
    Outcome (ReconcileError ε) (Progress σ) :=
  match step.call with
  | .ok w => p.issue backend step.phase step.key w
  | .error e => { state := p, error? := some (.schema step.key e) }

/-- What a step does to the state of the backend. -/
def attempt (backend : Backend α ε σ) (step : Step α) (s : σ) : Outcome (ReconcileError ε) σ :=
  match step.call with
  | .ok w =>
    let reply := backend.answer w s
    { state := reply.state, error? := reply.error?.map (.transaction step.phase step.key) }
  | .error e => { state := s, error? := some (.schema step.key e) }

lemma attempt_eq_done_iff {backend : Backend α ε σ} {step : Step α} {s t : σ} :
    step.attempt backend s = ⟨t, none⟩ ↔ ∃ w, step.call = .ok w ∧
      (backend.answer w s).error? = none ∧ (backend.answer w s).state = t := by
  rw [attempt]
  cases step.call with
  | ok w => simp [and_comm]
  | error e => simp

/-- The steps that succeed, up to the first one that does not. -/
def accepted (backend : Backend α ε σ) : List (Step α) → σ → List (Step α)
  | [], _ => []
  | step :: steps, s =>
    match step.attempt backend s with
    | ⟨t, none⟩ => step :: accepted backend steps t
    | _ => []

def tally (steps : List (Step α)) : Counts where
  added := steps.countP (·.phase = .add)
  updated := steps.countP (·.phase = .update)
  deleted := steps.countP (·.phase = .delete)

end Step

instance : Add Counts :=
  ⟨fun a b => ⟨a.added + b.added, a.updated + b.updated, a.deleted + b.deleted⟩⟩

namespace Counts

@[ext] lemma ext {a b : Counts} (ha : a.added = b.added) (hu : a.updated = b.updated)
    (hd : a.deleted = b.deleted) : a = b := by
  cases a; cases b; simp_all

@[simp] lemma added_add (a b : Counts) : (a + b).added = a.added + b.added := rfl
@[simp] lemma updated_add (a b : Counts) : (a + b).updated = a.updated + b.updated := rfl
@[simp] lemma deleted_add (a b : Counts) : (a + b).deleted = a.deleted + b.deleted := rfl

@[simp] lemma zero_add (c : Counts) : ({} : Counts) + c = c := by ext <;> simp

end Counts

namespace Step

lemma tally_append (as bs : List (Step α)) : tally (as ++ bs) = tally as + tally bs := by
  ext <;> simp [tally]

lemma add_tally_nil (c : Counts) : c + tally ([] : List (Step α)) = c := by
  ext <;> simp [tally]

lemma total_tally (steps : List (Step α)) : (tally steps).total = steps.length := by
  induction steps with
  | nil => rfl
  | cons step steps ih =>
    rw [List.length_cons, ← ih]
    cases h : step.phase <;> simp [tally, Counts.total, h] <;> omega

lemma bump_add_tally (c : Counts) (step : Step α) (steps : List (Step α)) :
    c.bump step.phase + tally steps = c + tally (step :: steps) := by
  cases h : step.phase <;> ext <;> simp [Counts.bump, tally, h] <;> omega

/-- Taking steps does to the state of the backend what attempting them does, ends in the same error,
and counts the steps that succeed. -/
theorem walk_take (backend : Backend α ε σ) (steps : List (Step α)) (p : Progress σ) :
    let out := Outcome.walk (take backend) steps p
    let plain := Outcome.walk (attempt backend) steps p.state
    out.state.state = plain.state ∧ out.error? = plain.error? ∧
      out.state.counts = p.counts + tally (accepted backend steps p.state) := by
  induction steps generalizing p with
  | nil => exact ⟨rfl, rfl, (add_tally_nil p.counts).symm⟩
  | cons step steps ih =>
    rcases hcall : step.call with e | w
    · simp [Outcome.walk, take, attempt, accepted, hcall, add_tally_nil]
    · rcases hreply : backend.answer w p.state with ⟨t, _ | e, events⟩
      · simp only [Outcome.walk, take, attempt, accepted, hcall, hreply, Progress.issue,
          Option.map_none]
        rw [← bump_add_tally]
        exact ih _
      · simp [Outcome.walk, take, attempt, accepted, hcall, hreply, Progress.issue, add_tally_nil]

lemma accepted_of_walk_done {backend : Backend α ε σ} {steps : List (Step α)} {s : σ}
    (h : (Outcome.walk (attempt backend) steps s).error? = none) :
    accepted backend steps s = steps := by
  induction steps generalizing s with
  | nil => rfl
  | cons step steps ih =>
    rcases hstep : step.attempt backend s with ⟨t, _ | e⟩
    · rw [Outcome.walk_cons_of_done steps hstep] at h
      simp only [accepted, hstep, ih h]
    · simp [Outcome.walk, hstep] at h

end Step

/-- The step that a phase has to take for the records of a key, if there is one. -/
def Pairing.step? (policy : MergePolicy α) (key : String) : Phase → Pairing α → Option (Step α)
  | .delete, storedOnly s => some ⟨.delete, key, .ok (.delete s)⟩
  | .add, desiredOnly d => some ⟨.add, key, .ok (.insert d)⟩
  | .update, both s d =>
    if policy.equals s d then none
    else some ⟨.update, key, (policy.merge s d).toExcept.map .update⟩
  | _, _ => none

lemma Progress.apply_eq (backend : Backend α ε σ) (policy : MergePolicy α) (phase : Phase)
    (entry : String × Pairing α) (p : Progress σ) :
    p.apply backend policy phase entry =
      (entry.2.step? policy entry.1 phase).elim ⟨p, none⟩ fun step => step.take backend p := by
  obtain ⟨key, pairing⟩ := entry
  cases phase <;> cases pairing <;> try rfl
  case update.both s d =>
    by_cases h : policy.equals s d
    · simp [Progress.apply, Pairing.step?, h]
    · rcases hm : policy.merge s d with ⟨m, _ | e⟩ <;>
        simp [Progress.apply, Pairing.step?, h, hm, Outcome.toExcept, Except.map, Step.take]

/-- The step that a phase has to take for a key, by the last stored and the last desired record of
each key. -/
def pending (policy : MergePolicy α) (stored desired : String → Option α) (phase : Phase)
    (k : String) : Option (Step α) :=
  (Pairing.ofSides (stored k) (desired k)).bind (·.step? policy k phase)

/-- The steps of phases, each over its own list of keys. -/
def script (policy : MergePolicy α) (stored desired : String → Option α)
    (keys : Phase → List String) (phases : List Phase) : List (Step α) :=
  phases.flatMap fun phase => (keys phase).filterMap (pending policy stored desired phase)

section
variable {policy : MergePolicy α} {stored desired : String → Option α}

lemma pending_delete_iff {k : String} {step : Step α} :
    pending policy stored desired .delete k = some step ↔
      ∃ s, stored k = some s ∧ desired k = none ∧ step = ⟨.delete, k, .ok (.delete s)⟩ := by
  rw [pending]
  cases stored k <;> cases desired k <;> simp [Pairing.ofSides, Pairing.step?, @eq_comm _ step]

lemma pending_add_iff {k : String} {step : Step α} :
    pending policy stored desired .add k = some step ↔
      ∃ d, stored k = none ∧ desired k = some d ∧ step = ⟨.add, k, .ok (.insert d)⟩ := by
  rw [pending]
  cases stored k <;> cases desired k <;> simp [Pairing.ofSides, Pairing.step?, @eq_comm _ step]

lemma pending_update_iff {k : String} {step : Step α} :
    pending policy stored desired .update k = some step ↔
      ∃ s d, stored k = some s ∧ desired k = some d ∧ policy.equals s d = false ∧
        step = ⟨.update, k, (policy.merge s d).toExcept.map .update⟩ := by
  rw [pending]
  cases stored k with
  | none => cases desired k <;> simp [Pairing.ofSides, Pairing.step?]
  | some s =>
    cases desired k with
    | none => simp [Pairing.ofSides, Pairing.step?]
    | some d =>
      cases h : policy.equals s d <;>
        simp [Pairing.ofSides, Pairing.step?, h, @eq_comm _ step]

lemma pending_eq_none_of_neither {k : String} (hs : stored k = none) (hd : desired k = none)
    (phase : Phase) : pending policy stored desired phase k = none := by
  rw [pending, hs, hd]
  rfl

lemma pending_eq_none_of_equals {k : String} {s d : α} (hs : stored k = some s)
    (hd : desired k = some d) (heq : policy.equals s d = true) (phase : Phase) :
    pending policy stored desired phase k = none := by
  rw [pending, hs, hd]
  cases phase <;> simp [Pairing.ofSides, Pairing.step?, heq]

lemma phase_and_key_of_pending {phase : Phase} {k : String} {step : Step α}
    (h : pending policy stored desired phase k = some step) : step.phase = phase ∧ step.key = k := by
  cases phase with
  | delete => obtain ⟨s, -, -, rfl⟩ := pending_delete_iff.1 h; exact ⟨rfl, rfl⟩
  | add => obtain ⟨d, -, -, rfl⟩ := pending_add_iff.1 h; exact ⟨rfl, rfl⟩
  | update => obtain ⟨s, d, -, -, -, rfl⟩ := pending_update_iff.1 h; exact ⟨rfl, rfl⟩

lemma kind_of_pending {phase : Phase} {k : String} {step : Step α} {w : Write α}
    (h : pending policy stored desired phase k = some step) (hw : step.call = .ok w) :
    w.kind = phase.kind := by
  cases phase with
  | delete => obtain ⟨s, -, -, rfl⟩ := pending_delete_iff.1 h; cases hw; rfl
  | add => obtain ⟨d, -, -, rfl⟩ := pending_add_iff.1 h; cases hw; rfl
  | update =>
    obtain ⟨s, d, -, -, -, rfl⟩ := pending_update_iff.1 h
    obtain ⟨m, -, rfl⟩ := Outcome.toExcept_map_eq_ok_iff.1 hw
    rfl

/-- Only a merge can leave a step without a write. -/
lemma update_of_pending_error {phase : Phase} {k : String} {step : Step α} {e : SchemaError}
    (h : pending policy stored desired phase k = some step) (hcall : step.call = .error e) :
    step.phase = .update := by
  cases phase with
  | delete => obtain ⟨s, -, -, rfl⟩ := pending_delete_iff.1 h; cases hcall
  | add => obtain ⟨d, -, -, rfl⟩ := pending_add_iff.1 h; cases hcall
  | update => exact (phase_and_key_of_pending h).1

lemma phase_of_pending {phase : Phase} {k : String} {step : Step α} {pairing : Pairing α}
    (hpairing : Pairing.ofSides (stored k) (desired k) = some pairing)
    (h : pending policy stored desired phase k = some step) : pairing.phase = phase := by
  rw [pending, hpairing, Option.bind_some] at h
  cases phase <;> cases pairing <;> simp [Pairing.step?, Pairing.phase] at h ⊢

lemma phase_unique {phase phase' : Phase} {k : String} {step step' : Step α}
    (h : pending policy stored desired phase k = some step)
    (h' : pending policy stored desired phase' k = some step') : phase = phase' := by
  obtain ⟨pairing, hpairing, -⟩ := Option.bind_eq_some_iff.1 h
  rw [← phase_of_pending hpairing h, phase_of_pending hpairing h']

lemma mem_script {keys : Phase → List String} {phases : List Phase} {step : Step α} :
    step ∈ script policy stored desired keys phases ↔
      step.phase ∈ phases ∧ step.key ∈ keys step.phase ∧
        pending policy stored desired step.phase step.key = some step := by
  simp only [script, List.mem_flatMap, List.mem_filterMap]
  constructor
  · rintro ⟨phase, hphase, k, hk, hstep⟩
    obtain ⟨rfl, rfl⟩ := phase_and_key_of_pending hstep
    exact ⟨hphase, hk, hstep⟩
  · rintro ⟨hphase, hk, hstep⟩
    exact ⟨step.phase, hphase, step.key, hk, hstep⟩

lemma map_key_filterMap_pending (phase : Phase) (keys : List String) :
    (keys.filterMap (pending policy stored desired phase)).map Step.key =
      keys.filter fun k => (pending policy stored desired phase k).isSome := by
  induction keys with
  | nil => rfl
  | cons k keys ih =>
    cases hk : pending policy stored desired phase k with
    | none => simp [hk, ih]
    | some step => simp [hk, ih, (phase_and_key_of_pending hk).2]

lemma nodup_keys_script {keys : Phase → List String} {phases : List Phase} (hphases : phases.Nodup)
    (hkeys : ∀ phase, (keys phase).Nodup) :
    ((script policy stored desired keys phases).map Step.key).Nodup := by
  rw [script, List.map_flatMap, List.nodup_flatMap]
  simp only [map_key_filterMap_pending]
  refine ⟨fun phase _ => (hkeys phase).filter _, hphases.imp fun {phase phase'} hne k hk hk' => ?_⟩
  obtain ⟨step, hstep⟩ := Option.isSome_iff_exists.1 (List.mem_filter.1 hk).2
  obtain ⟨step', hstep'⟩ := Option.isSome_iff_exists.1 (List.mem_filter.1 hk').2
  exact hne (phase_unique hstep hstep')

end

lemma Partition.mem_keys_of_pending {key : α → String} {stored desired : List α}
    {policy : MergePolicy α} {phase : Phase} {k : String} {step : Step α}
    (h : pending policy (lastOf key stored) (lastOf key desired) phase k = some step) :
    k ∈ (ofRecords key stored desired).keys := by
  obtain ⟨pairing, hpairing, -⟩ := Option.bind_eq_some_iff.1 h
  rw [← get?_ofRecords] at hpairing
  exact KeyMap.mem_keys_iff.2 ⟨pairing, hpairing⟩

lemma filterMap_step?_eq {key : α → String} {stored desired : List α} {policy : MergePolicy α}
    {entries : Entries (Pairing α)}
    (h : entries ⊆ (Partition.ofRecords key stored desired).entries) (phase : Phase) :
    entries.filterMap (fun e => e.2.step? policy e.1 phase) =
      (entries.map (·.1)).filterMap
        (pending policy (lastOf key stored) (lastOf key desired) phase) := by
  rw [List.filterMap_map]
  apply List.filterMap_congr
  intro e he
  have hget := KeyMap.get?_eq_some_iff.2 (h he)
  rw [Partition.get?_ofRecords] at hget
  simp [pending, hget]

/-- Running phases over entries of a partition is walking through their script. -/
lemma Progress.runAll_eq_walk {key : α → String} {stored desired : List α}
    {order : Phase → Entries (Pairing α)} (backend : Backend α ε σ) (policy : MergePolicy α)
    (horder : ∀ phase, order phase ⊆ (Partition.ofRecords key stored desired).entries)
    (phases : List Phase) (p : Progress σ) :
    p.runAll backend policy order phases =
      Outcome.walk (Step.take backend) (script policy (lastOf key stored) (lastOf key desired)
        (fun phase => (order phase).map (·.1)) phases) p := by
  have hrun : ∀ phase p, Progress.run backend policy phase (order phase) p =
      Outcome.walk (Step.take backend) ((order phase).filterMap fun e =>
        e.2.step? policy e.1 phase) p := by
    intro phase p
    exact Outcome.walk_filterMap (Progress.apply_eq backend policy phase) (order phase) p
  rw [Progress.runAll, funext fun phase => funext (hrun phase), Outcome.walk_flatMap, script,
    funext fun phase => filterMap_step?_eq (horder phase) phase]

namespace Collection

lemma performIn_of_not_drained (order : Partition α → Phase → Entries (Pairing α))
    (kind : RecordKind α) (backend : Backend α ε σ) (op : Operation) {c : Collection α σ}
    (hc : c.drained = false) (desired : Feed α) :
    let p := Partition.ofRecords kind.key c.stored.pending desired.pending
    let run := Progress.runAll backend (c.policy kind) (order p) op.phases
      ⟨c.state, c.counts, [partitionEvent kind p]⟩
    let out := c.performIn order kind backend op desired
    out.result = run.error?.elim (.ok ()) .error ∧ out.collection.state = run.state.state ∧
      out.collection.counts = run.state.counts := by
  simp only [performIn, withPartition, hc, Partition.ofFeeds_eq, policy, Bool.false_eq_true,
    ite_false]
  generalize Progress.runAll backend _ _ _ _ = run
  rcases run with ⟨q, _ | e⟩ <;> exact ⟨rfl, rfl, rfl⟩

lemma performIn_congr {order order' : Partition α → Phase → Entries (Pairing α)}
    {kind : RecordKind α} {c : Collection α σ} {desired : Feed α}
    (h : order (Partition.ofRecords kind.key c.stored.pending desired.pending) =
      order' (Partition.ofRecords kind.key c.stored.pending desired.pending))
    (backend : Backend α ε σ) (op : Operation) :
    c.performIn order kind backend op desired = c.performIn order' kind backend op desired := by
  simp only [performIn, withPartition, Partition.ofFeeds_eq, h]

/-- Performing an operation of a collection that has not been drained: its result, the state of the
backend and the counts are those of walking through its script. -/
theorem performIn_eq_walk (order : Partition α → Phase → Entries (Pairing α))
    (kind : RecordKind α) (backend : Backend α ε σ) (op : Operation) {c : Collection α σ}
    (hc : c.drained = false) (desired : Feed α)
    (horder : ∀ phase, order (Partition.ofRecords kind.key c.stored.pending desired.pending) phase ⊆
      (Partition.ofRecords kind.key c.stored.pending desired.pending).entries) :
    let steps := script (c.policy kind) (lastOf kind.key c.stored.pending)
      (lastOf kind.key desired.pending)
      (fun phase => (order (Partition.ofRecords kind.key c.stored.pending desired.pending)
        phase).map (·.1)) op.phases
    let walked := Outcome.walk (Step.attempt backend) steps c.state
    let out := c.performIn order kind backend op desired
    out.result = walked.error?.elim (.ok ()) .error ∧ out.collection.state = walked.state ∧
      out.collection.counts = c.counts + Step.tally (Step.accepted backend steps c.state) := by
  intro steps walked out
  obtain ⟨hresult, hstate, hcounts⟩ := performIn_of_not_drained order kind backend op hc desired
  rw [Progress.runAll_eq_walk backend _ horder] at hresult hstate hcounts
  obtain ⟨hstate', herror', hcounts'⟩ := Step.walk_take backend steps
    ⟨c.state, c.counts, [partitionEvent kind
      (Partition.ofRecords kind.key c.stored.pending desired.pending)]⟩
  exact ⟨hresult.trans (by rw [herror']), hstate.trans hstate', hcounts.trans hcounts'⟩

end Collection
end DesiredState
