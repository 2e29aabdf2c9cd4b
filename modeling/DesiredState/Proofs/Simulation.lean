import DesiredState.Proofs.AbortLaw

/-! One operation on two backends. Where both answer alike from related states, and stay in such
states, the operation asks both for the same writes, and ends with the same result and counts. The
backends may answer differently once the first one has refused a write with an error of some sort, as
long as the operation on it does not end in such an error. -/
namespace DesiredState

namespace Outcome
variable {ε σ σ' β β' : Type} {allowed : ε → Prop} {R : σ → σ' → Prop}

/-- The error of an action, if there is one, is of an allowed sort. -/
def Within (allowed : ε → Prop) (o : Outcome ε σ) : Prop := ∀ e, o.error? = some e → allowed e

/-- Actions that end in the same error or in none, in related states. -/
def Rel (R : σ → σ' → Prop) (o : Outcome ε σ) (o' : Outcome ε σ') : Prop :=
  o.error? = o'.error? ∧ R o.state o'.state

lemma Within.head {act : β → σ → Outcome ε σ} {b : β} {bs : List β} {s : σ}
    (h : (walk act (b :: bs) s).Within allowed) : (act b s).Within allowed := by
  rcases hact : act b s with ⟨t, _ | e⟩
  · exact fun _ he => nomatch he
  · rwa [walk_cons_of_failed bs hact] at h

/-- Walks whose actions go alike end alike, if none of them ends in an error that is not allowed. -/
lemma walk_rel_of_within {S : β → β' → Prop} {act : β → σ → Outcome ε σ}
    {act' : β' → σ' → Outcome ε σ'} (hact : ∀ b b' s s', S b b' → R s s' →
      (act b s).Within allowed → (act b s).Rel R (act' b' s'))
    {bs : List β} {bs' : List β'} (hbs : List.Forall₂ S bs bs') {s : σ} {s' : σ'} (hs : R s s')
    (h : (walk act bs s).Within allowed) : (walk act bs s).Rel R (walk act' bs' s') := by
  induction hbs generalizing s s' with
  | nil => exact ⟨rfl, hs⟩
  | @cons b b' bs bs' hb _ ih =>
    obtain ⟨herror, hstate⟩ := hact b b' s s' hb hs h.head
    rcases hb : act b s with ⟨t, _ | e⟩ <;> rcases hb' : act' b' s' with ⟨t', _ | e'⟩ <;>
      rw [hb, hb'] at herror hstate
    · rw [walk_cons_of_done bs hb] at h ⊢
      rw [walk_cons_of_done bs' hb']
      exact ih hstate h
    · cases herror
    · cases herror
    · rw [walk_cons_of_failed bs hb, walk_cons_of_failed bs' hb']
      exact ⟨herror, hstate⟩

lemma walk_rel {S : β → β' → Prop} {act : β → σ → Outcome ε σ} {act' : β' → σ' → Outcome ε σ'}
    (hact : ∀ b b' s s', S b b' → R s s' → (act b s).Rel R (act' b' s'))
    {bs : List β} {bs' : List β'} (hbs : List.Forall₂ S bs bs') {s : σ} {s' : σ'} (hs : R s s') :
    (walk act bs s).Rel R (walk act' bs' s') := by
  have hwithin : (walk act bs s).Within fun _ => True := fun _ _ => trivial
  exact walk_rel_of_within (fun b b' s s' hb hs _ => hact b b' s s' hb hs) hbs hs hwithin

end Outcome

variable {α ε σ σ' : Type} {allowed : ε → Prop} {R : σ → σ' → Prop}
  {backend : Backend α ε σ} {backend' : Backend α ε σ'}

/-- Two backends give the same answers from related states, and get into related states, unless the
first one refuses a write with an error that is not allowed. -/
def Backend.Simulates (allowed : ε → Prop) (R : σ → σ' → Prop) (backend : Backend α ε σ)
    (backend' : Backend α ε σ') : Prop :=
  ∀ w s s', R s s' → (∀ e, (backend.answer w s).error? = some e → allowed e) →
    (backend.answer w s).error? = (backend'.answer w s').error? ∧
      R (backend.answer w s).state (backend'.answer w s').state

lemma Backend.observed_simulates (backend : Backend α ε σ) (allowed : ε → Prop) :
    backend.observed.Simulates allowed (fun seen plain => seen.inner = plain) backend := by
  rintro w seen _ rfl -
  exact ⟨rfl, rfl⟩

lemma Backend.Simulates.after_observed (h : backend.Simulates allowed R backend') {s : σ} {s' : σ'}
    (hs : R s s') {writes : List (Write α)}
    (hallowed : ∀ c ∈ (backend.observed.after writes ⟨[], s⟩).calls, ∀ e, c.2 = some e → allowed e) :
    let seen := backend.observed.after writes ⟨[], s⟩
    let seen' := backend'.observed.after writes ⟨[], s'⟩
    seen.calls = seen'.calls ∧ R seen.inner seen'.inner := by
  induction writes using List.reverseRec with
  | nil => exact ⟨rfl, hs⟩
  | append_singleton writes w ih =>
    rw [after_observed_concat] at hallowed
    obtain ⟨hcalls, hinner⟩ := ih fun c hc => hallowed c (List.mem_append_left _ hc)
    obtain ⟨herror, hstate⟩ := h w _ _ hinner fun e he => hallowed _ List.mem_concat_self e he
    rw [after_observed_concat, after_observed_concat]
    exact ⟨by rw [hcalls, herror], hstate⟩

/-- The backend has not refused a write with an error that is not allowed. -/
def ReconcileError.From (allowed : ε → Prop) (e : ReconcileError ε) : Prop :=
  ∀ source, e.refusal? = some source → allowed source

namespace Progress

/-- Runs that have counted the same writes, into related states. -/
structure Rel (R : σ → σ' → Prop) (p : Progress σ) (p' : Progress σ') : Prop where
  counts_eq : p.counts = p'.counts
  state : R p.state p'.state

variable {p : Progress σ} {p' : Progress σ'}

lemma take_rel (hback : backend.Simulates allowed R backend') (step : Step α) (hp : p.Rel R p')
    (hwithin : (step.take backend p).Within (ReconcileError.From allowed)) :
    (step.take backend p).Rel (Rel R) (step.take backend' p') := by
  obtain ⟨phase, key, _ | w⟩ := step
  · exact ⟨rfl, hp⟩
  · have hallowed (e) (he : (backend.answer w p.state).error? = some e) : allowed e :=
      hwithin (.transaction phase key e) (by simp only [Step.take, issue, he]) e rfl
    obtain ⟨herror, hstate⟩ := hback w p.state p'.state hp.state hallowed
    simp only [Step.take, issue, ← herror]
    cases (backend.answer w p.state).error? with
    | none => exact ⟨rfl, congrArg (Counts.bump · phase) hp.counts_eq, hstate⟩
    | some e => exact ⟨rfl, hp.counts_eq, hstate⟩

lemma apply_rel (hback : backend.Simulates allowed R backend') (policy : MergePolicy α)
    (phase : Phase) (entry : String × Pairing α) (hp : p.Rel R p')
    (hwithin : (p.apply backend policy phase entry).Within (ReconcileError.From allowed)) :
    (p.apply backend policy phase entry).Rel (Rel R) (p'.apply backend' policy phase entry) := by
  rw [apply_eq] at hwithin ⊢
  rw [apply_eq]
  cases hstep : entry.2.step? policy entry.1 phase with
  | none => exact ⟨rfl, hp⟩
  | some step =>
    rw [hstep] at hwithin
    exact take_rel hback step hp hwithin

lemma runAll_rel (hback : backend.Simulates allowed R backend') (policy : MergePolicy α)
    (order : Phase → Entries (Pairing α)) (phases : List Phase) (hp : p.Rel R p')
    (hwithin : (p.runAll backend policy order phases).Within (ReconcileError.From allowed)) :
    (p.runAll backend policy order phases).Rel (Rel R) (p'.runAll backend' policy order phases) := by
  refine Outcome.walk_rel_of_within (S := Eq) ?_ (List.forall₂_refl phases) hp hwithin
  rintro phase _ q q' rfl hq hrun
  refine Outcome.walk_rel_of_within (S := Eq) ?_ (List.forall₂_refl (order phase)) hq hrun
  rintro entry _ u u' rfl hu happly
  exact apply_rel hback policy phase entry hu happly

end Progress

namespace Collection

/-- Collections that differ in the states of their backends alone, which are related. -/
structure Rel (R : σ → σ' → Prop) (c : Collection α σ) (c' : Collection α σ') : Prop where
  stored_eq : c.stored = c'.stored
  drained_eq : c.drained = c'.drained
  policy_eq : c.policy? = c'.policy?
  counts_eq : c.counts = c'.counts
  state : R c.state c'.state

end Collection

/-- Operations that leave the same behind, but for the states of the backends, which are related, and
for what the backends have told. -/
structure Performed.Rel {ρ : Type} (R : σ → σ' → Prop) (out : Performed α ε σ ρ)
    (out' : Performed α ε σ' ρ) : Prop where
  collection : out.collection.Rel R out'.collection
  desired_eq : out.desired = out'.desired
  result_eq : out.result = out'.result

def Performed.map {ρ τ : Type} (f : ρ → τ) (out : Performed α ε σ ρ) : Performed α ε σ τ :=
  { out with result := out.result.map f }

lemma Performed.Rel.map {ρ τ : Type} {out : Performed α ε σ ρ} {out' : Performed α ε σ' ρ}
    (h : out.Rel R out') (f : ρ → τ) : (out.map f).Rel R (out'.map f) :=
  ⟨h.collection, h.desired_eq, congrArg (Except.map f) h.result_eq⟩

namespace Collection
variable {c : Collection α σ} {c' : Collection α σ'}

theorem performIn_rel (hback : backend.Simulates allowed R backend')
    (order : Partition α → Phase → Entries (Pairing α)) (kind : RecordKind α) (op : Operation)
    (desired : Feed α) (hc : c.Rel R c')
    (hresult : ∀ e, (c.performIn order kind backend op desired).result = .error e → e.From allowed) :
    (c.performIn order kind backend op desired).Rel R
      (c'.performIn order kind backend' op desired) := by
  obtain ⟨stored, drained, policy?, counts, state⟩ := c
  obtain ⟨stored', drained', policy?', counts', state'⟩ := c'
  obtain ⟨rfl, rfl, rfl, rfl, hstate⟩ := hc
  cases drained with
  | true => exact ⟨⟨rfl, rfl, rfl, rfl, hstate⟩, rfl, rfl⟩
  | false =>
    simp only [performIn, withPartition, Partition.ofFeeds_eq, policy, Bool.false_eq_true,
      if_false] at hresult ⊢
    generalize Partition.ofRecords kind.key stored.pending desired.pending = p at hresult ⊢
    have hstart : Progress.Rel R ⟨state, counts, [partitionEvent kind p]⟩
        ⟨state', counts, [partitionEvent kind p]⟩ := ⟨rfl, hstate⟩
    obtain ⟨herror, hcounts, hstate⟩ := Progress.runAll_rel hback (policy?.getD kind.policy)
      (order p) op.phases hstart fun e he => hresult e (by rw [he])
    rw [← herror]
    cases (Progress.runAll backend _ _ _ _).error? with
    | none => exact ⟨⟨rfl, rfl, rfl, hcounts, hstate⟩, rfl, rfl⟩
    | some e => exact ⟨⟨rfl, rfl, rfl, hcounts, hstate⟩, rfl, rfl⟩

lemma planIn_rel (order : Partition α → Entries (Pairing α)) (kind : RecordKind α)
    (desired : Feed α) (hc : c.Rel R c') :
    (c.planIn order kind desired : Performed α ε σ Plan).Rel R (c'.planIn order kind desired) := by
  obtain ⟨stored, drained, policy?, counts, state⟩ := c
  obtain ⟨stored', drained', policy?', counts', state'⟩ := c'
  obtain ⟨rfl, rfl, rfl, rfl, hstate⟩ := hc
  cases drained <;> exact ⟨⟨rfl, rfl, rfl, rfl, hstate⟩, rfl, rfl⟩

/-- What a collection can be asked for: an operation, or what reconciling would do, over desired
records and with the keys in some order. -/
inductive Request (α : Type) where
  | perform (op : Operation) (order : Partition α → Phase → Entries (Pairing α)) (desired : List α)
  | plan (order : Partition α → Entries (Pairing α)) (desired : List α)

def Request.desired : Request α → List α
  | perform _ _ desired => desired
  | plan _ desired => desired

/-- Does what it is asked for. There is a plan only if it has been asked for one. -/
def serve (kind : RecordKind α) (backend : Backend α ε σ) (c : Collection α σ)
    (request : Request α) : Performed α ε σ (Option Plan) :=
  match request with
  | .perform op order desired =>
    (c.performIn order kind backend op { pending := desired }).map fun _ => none
  | .plan order desired => (c.planIn order kind { pending := desired }).map some

def serveAll (kind : RecordKind α) (backend : Backend α ε σ) (c : Collection α σ)
    (requests : List (Request α)) : Collection α σ :=
  requests.foldl (fun c request => (c.serve kind backend request).collection) c

/-- Collections over backends that answer alike serve a request alike. -/
theorem serve_rel (hback : backend.Simulates allowed R backend') (kind : RecordKind α)
    (request : Request α) (hc : c.Rel R c')
    (hresult : ∀ e, (c.serve kind backend request).result = .error e → e.From allowed) :
    (c.serve kind backend request).Rel R (c'.serve kind backend' request) := by
  cases request with
  | perform op order desired =>
    have hperform := performIn_rel hback order kind op { pending := desired } hc fun e he =>
      hresult e (by rw [serve, Performed.map, he]; rfl)
    exact hperform.map _
  | plan order desired => exact (planIn_rel order kind { pending := desired } hc).map _

/-- Backends that always answer alike may be exchanged over a whole life of a collection. -/
theorem serveAll_rel (hback : backend.Simulates (fun _ => True) R backend') (kind : RecordKind α)
    (requests : List (Request α)) (hc : c.Rel R c') :
    (c.serveAll kind backend requests).Rel R (c'.serveAll kind backend' requests) := by
  induction requests generalizing c c' with
  | nil => exact hc
  | cons request requests ih =>
    exact ih (serve_rel hback kind request hc fun _ _ _ _ => trivial).collection

end Collection
end DesiredState
