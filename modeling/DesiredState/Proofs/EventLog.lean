import DesiredState.Proofs.Journal
import DesiredState.Proofs.PairedKeys
import DesiredState.Proofs.Lifetime

/-! What the log tells about a run. Each call that is issued leaves one event behind, after whatever the
backend has told while answering, and a run tells only how it has paired the records and, if it was a
reconciliation that succeeded, how much it has written. So the log can be read back: which writes were
taken, under which keys, and which one was refused. -/
namespace DesiredState
variable {α ε σ ρ : Type}

namespace Event

def isPartitioned : Event → Bool
  | partitioned .. => true
  | _ => false

def isApplied : Event → Bool
  | applied .. => true
  | _ => false

def isKept : Event → Bool
  | kept .. => true
  | _ => false

@[simp] lemma isKept_kept (kind : WriteKind) (table key : String) :
    (kept kind table key).isKept = true := rfl

end Event

namespace Backend

/-- The same backend, which tells nothing. -/
def muted (backend : Backend α ε σ) : Backend α ε σ where
  answer w s := { backend.answer w s with events := [] }
  describe := backend.describe

/-- The replies to writes that are asked for one after another. -/
def replies (backend : Backend α ε σ) : List (Write α) → σ → List (Reply ε σ)
  | [], _ => []
  | w :: writes, s =>
    let reply := backend.answer w s
    reply :: replies backend writes reply.state

lemma muted_simulates (backend : Backend α ε σ) (allowed : ε → Prop) :
    backend.muted.Simulates allowed Eq backend := by
  rintro w s _ rfl -
  exact ⟨rfl, rfl⟩

end Backend

/-- A call: a write that has been issued in a phase for a key, and the reply to it. -/
structure Call (α ε σ : Type) where
  phase : Phase
  key : String
  write : Write α
  reply : Reply ε σ

namespace Call

def step (call : Call α ε σ) : Step α := ⟨call.phase, call.key, .ok call.write⟩

/-- What an observer sees of a call. -/
def seen (call : Call α ε σ) : Write α × Option ε := (call.write, call.reply.error?)

def isTaken (call : Call α ε σ) : Bool := call.reply.error?.isNone

/-- What the run tells about a call: that it was taken, or why it was refused. -/
def event (describe : ε → String) (call : Call α ε σ) : Event :=
  match call.reply.error? with
  | none => .applied call.phase call.key
  | some e => .refused call.phase call.key (describe e)

def mute (call : Call α ε σ) : Call α ε σ := { call with reply := { call.reply with events := [] } }

variable {describe : ε → String} (calls : List (Call α ε σ))

lemma filter_isApplied_events : (calls.map (event describe)).filter Event.isApplied =
    (calls.filter isTaken).map fun call => .applied call.phase call.key := by
  induction calls with
  | nil => rfl
  | cons call calls ih =>
    rcases h : call.reply.error? with _ | e <;>
      simp [event, isTaken, Event.isApplied, List.filter_cons, h, ih]

lemma filter_events_eq_nil {tells : Event → Bool}
    (h : ∀ call : Call α ε σ, tells (call.event describe) = false) :
    (calls.map (event describe)).filter tells = [] := by
  refine List.filter_eq_nil_iff.2 fun e he => ?_
  obtain ⟨call, -, rfl⟩ := List.mem_map.1 he
  simp [h call]

lemma isPartitioned_event (call : Call α ε σ) : (call.event describe).isPartitioned = false := by
  rw [event]
  split <;> rfl

@[simp] lemma isKept_event (call : Call α ε σ) : (call.event describe).isKept = false := by
  rw [event]
  split <;> rfl

lemma level_event_ne_info (call : Call α ε σ) : (call.event describe).level ≠ .info := by
  rw [event]
  split <;> exact Level.noConfusion

end Call

/-- The warning that a result calls for: one if a write has been refused, and none otherwise. -/
def warnings (describe : ε → String) : Except (ReconcileError ε) ρ → List Event
  | .error (.transaction phase key e) => [.refused phase key (describe e)]
  | _ => []

lemma warnings_map {τ : Type} (describe : ε → String) (f : ρ → τ)
    (result : Except (ReconcileError ε) ρ) :
    warnings describe (result.map f) = warnings describe result := by
  rcases result with (_ | _ | _) | _ <;> rfl

namespace Step

/-- The calls that are issued on a walk through steps: for each of them, up to the first write that is
refused and before the first step that has no write. -/
def calls (backend : Backend α ε σ) : List (Step α) → σ → List (Call α ε σ)
  | [], _ => []
  | step :: steps, s =>
    match step.call with
    | .error _ => []
    | .ok w =>
      let reply := backend.answer w s
      ⟨step.phase, step.key, w, reply⟩ :: match reply.error? with
        | none => calls backend steps reply.state
        | some _ => []

/-- On the way the log grows by what the backend tells of each call and the event of the call. -/
lemma events_walk_take (backend : Backend α ε σ) (steps : List (Step α)) (p : Progress σ) :
    (Outcome.walk (take backend) steps p).state.events = p.events ++
      (calls backend steps p.state).flatMap fun call =>
        call.reply.events ++ [call.event backend.describe] := by
  induction steps generalizing p with
  | nil => simp [Outcome.walk, calls]
  | cons step steps ih =>
    rcases hcall : step.call with e | w
    · simp [Outcome.walk, take, calls, hcall]
    · rcases hreply : backend.answer w p.state with ⟨t, _ | e, events⟩
      · simp only [Outcome.walk, take, Progress.issue, calls, hcall, hreply]
        rw [ih]
        simp [Call.event]
      · simp [Outcome.walk, take, Progress.issue, calls, Call.event, hcall, hreply]

lemma map_step_calls_prefix (backend : Backend α ε σ) (steps : List (Step α)) (s : σ) :
    (calls backend steps s).map Call.step <+: steps := by
  induction steps generalizing s with
  | nil => exact List.prefix_refl _
  | cons step steps ih =>
    rcases hcall : step.call with e | w
    · simp [calls, hcall]
    · have hstep : (⟨step.phase, step.key, .ok w⟩ : Step α) = step := by rw [← hcall]
      rcases hreply : backend.answer w s with ⟨t, _ | e, events⟩ <;>
        simp [calls, Call.step, hcall, hreply, hstep, ih t]

lemma calls_walk_observed (backend : Backend α ε σ) (steps : List (Step α))
    (s : Backend.Observed α ε σ) :
    (Outcome.walk (attempt backend.observed) steps s).state.calls = s.calls ++
      (calls backend steps s.inner).map Call.seen := by
  induction steps generalizing s with
  | nil => simp [Outcome.walk, calls]
  | cons step steps ih =>
    rcases hcall : step.call with e | w
    · simp [Outcome.walk, attempt, calls, hcall]
    · rcases hreply : backend.answer w s.inner with ⟨t, _ | e, events⟩
      · have hrest := ih ⟨s.calls ++ [(w, none)], t⟩
        simpa [Outcome.walk, attempt, calls, Backend.observed, Call.seen, hcall, hreply] using hrest
      · simp [Outcome.walk, attempt, calls, Backend.observed, Call.seen, hcall, hreply]

lemma map_reply_calls (backend : Backend α ε σ) (steps : List (Step α)) (s : σ) :
    (calls backend steps s).map Call.reply =
      backend.replies ((calls backend steps s).map Call.write) s := by
  induction steps generalizing s with
  | nil => rfl
  | cons step steps ih =>
    rcases hcall : step.call with e | w
    · simp [calls, Backend.replies, hcall]
    · rcases hreply : backend.answer w s with ⟨t, _ | e, events⟩ <;>
        simp [calls, Backend.replies, hcall, hreply, ih]

lemma tally_accepted_eq_taken (backend : Backend α ε σ) {steps : List (Step α)}
    (hkind : ∀ step ∈ steps, ∀ w, step.call = .ok w → w.kind = step.phase.kind) (s : σ) :
    tally (accepted backend steps s) = Backend.taken ((calls backend steps s).map Call.seen) := by
  obtain ⟨seen, hseen, -, htally⟩ := walk_observed_cut backend hkind ⟨[], s⟩
  obtain ⟨-, -, haccepted⟩ := walk_observed_inner backend steps ⟨[], s⟩
  have hcalls : seen = (calls backend steps s).map Call.seen :=
    (hseen.symm.trans (calls_walk_observed backend steps ⟨[], s⟩) : [] ++ seen = [] ++ _)
  rw [← haccepted, htally, hcalls]

lemma calls_muted (backend : Backend α ε σ) (steps : List (Step α)) (s : σ) :
    calls backend.muted steps s = (calls backend steps s).map Call.mute := by
  induction steps generalizing s with
  | nil => rfl
  | cons step steps ih =>
    rcases hcall : step.call with e | w
    · simp [calls, hcall]
    · rcases hreply : backend.answer w s with ⟨t, _ | e, events⟩ <;>
        simp [calls, Backend.muted, Call.mute, hcall, hreply, ← ih]

/-- There is a warning among the events of the calls exactly if the walk ends with a refused write. -/
lemma filter_warn_calls (backend : Backend α ε σ) (steps : List (Step α)) (s : σ) :
    ((calls backend steps s).map (Call.event backend.describe)).filter (·.level = .warn) =
      warnings backend.describe (ρ := Unit)
        ((Outcome.walk (attempt backend) steps s).error?.elim (.ok ()) .error) := by
  induction steps generalizing s with
  | nil => rfl
  | cons step steps ih =>
    rcases hcall : step.call with e | w
    · simp [calls, Outcome.walk, attempt, hcall, warnings]
    · rcases hreply : backend.answer w s with ⟨t, _ | e, events⟩
      · simpa [calls, Outcome.walk, attempt, hcall, hreply, Call.event, Event.level] using ih t
      · simp [calls, Outcome.walk, attempt, hcall, hreply, Call.event, Event.level, warnings]

end Step

lemma Counts.add_since (c taken : Counts) : (c + taken).since c = taken := by
  ext <;> simp [since]

namespace Collection

def observing (c : Collection α σ) : Collection α (Backend.Observed α ε σ) :=
  { c with state := ⟨[], c.state⟩ }

namespace Request

/-- Whether the request goes over each entry of a partition once, in all phases. -/
def Enumerates (p : Partition α) : Request α → Prop
  | .perform _ order _ => ∀ phase, (order p phase).Perm p.entries
  | .plan order _ => (order p).Perm p.entries

/-- The steps that the request would take if nothing went wrong. A plan takes none. -/
def steps (kind : RecordKind α) (c : Collection α σ) : Request α → List (Step α)
  | .perform op order desired =>
    script (c.policy kind) (lastOf kind.key c.stored.pending) (lastOf kind.key desired)
      (fun phase => (order (Partition.ofRecords kind.key c.stored.pending desired) phase).map (·.1))
      op.phases
  | .plan _ _ => []

lemma pending_of_mem_steps {kind : RecordKind α} {c : Collection α σ} {request : Request α}
    {step : Step α} (h : step ∈ request.steps kind c) :
    pending (c.policy kind) (lastOf kind.key c.stored.pending) (lastOf kind.key request.desired)
      step.phase step.key = some step := by
  cases request with
  | perform op order desired => exact (mem_script.1 h).2.2
  | plan order desired => cases h

/-- The summary that a request ends with: one if it is a reconciliation and has succeeded. -/
def summary (kind : RecordKind α) (counts : Counts) :
    Request α → Except (ReconcileError ε) ρ → List Event
  | .perform .reconcile _ _, .ok _ => [.reconciled kind.name counts]
  | _, _ => []

lemma summary_map {τ : Type} (kind : RecordKind α) (counts : Counts) (request : Request α)
    (f : ρ → τ) (result : Except (ReconcileError ε) ρ) :
    request.summary kind counts (result.map f) = request.summary kind counts result := by
  cases request with
  | perform op order desired => cases op <;> cases result <;> rfl
  | plan order desired => rfl

lemma summary_eq_nil_or (kind : RecordKind α) (counts : Counts) (request : Request α)
    (result : Except (ReconcileError ε) ρ) : request.summary kind counts result = [] ∨
      request.summary kind counts result = [.reconciled kind.name counts] := by
  cases request with
  | perform op order desired => cases op <;> cases result <;> simp [summary]
  | plan order desired => exact .inl rfl

section Filter
variable {kind : RecordKind α} {counts : Counts} {tells : Event → Bool} (request : Request α)
  (result : Except (ReconcileError ε) ρ)

lemma filter_summary_eq_nil (h : tells (.reconciled kind.name counts) = false) :
    (request.summary kind counts result).filter tells = [] := by
  rcases request.summary_eq_nil_or kind counts result with hs | hs <;> simp [hs, h]

lemma filter_summary_eq_self (h : tells (.reconciled kind.name counts) = true) :
    (request.summary kind counts result).filter tells = request.summary kind counts result := by
  rcases request.summary_eq_nil_or kind counts result with hs | hs <;> simp [hs, h]

end Filter

end Request

/-- A log that accounts for the calls of a request and for its result. -/
structure Accounts (kind : RecordKind α) (describe : ε → String) (p : Partition α)
    (request : Request α) (calls : List (Call α ε σ)) (result : Except (ReconcileError ε) ρ)
    (log : List Event) : Prop where
  /-- It is told once how the records have been paired. -/
  partitioned_eq : log.filter Event.isPartitioned =
    [.partitioned kind.name p.size (p.count .add) (p.count .update) (p.count .delete)]
  /-- Every write that was taken is told once, under its key, and no other. -/
  applied_eq : log.filter Event.isApplied =
    (calls.filter Call.isTaken).map fun call => .applied call.phase call.key
  /-- There is a warning exactly if a write was refused. -/
  warnings_eq : log.filter (·.level = .warn) = warnings describe result
  /-- There is a summary exactly if a reconciliation has succeeded. -/
  summary_eq : log.filter (·.level = .info) = request.summary kind
    (Backend.taken (calls.map Call.seen)) result

variable {kind : RecordKind α} {backend : Backend α ε σ} {c : Collection α σ} {request : Request α}

lemma events_performIn_of_not_drained (order : Partition α → Phase → Entries (Pairing α))
    (kind : RecordKind α) (backend : Backend α ε σ) (op : Operation) (hc : c.drained = false)
    (desired : List α) :
    let p := Partition.ofRecords kind.key c.stored.pending desired
    let run := Progress.runAll backend (c.policy kind) (order p) op.phases
      ⟨c.state, c.counts, [partitionEvent kind p]⟩
    let out := c.performIn order kind backend op { pending := desired }
    out.events = run.state.events ++ (Request.perform op order desired).summary kind
      (out.collection.counts.since c.counts) out.result := by
  simp only [performIn, withPartition, hc, Partition.ofFeeds_eq, policy, Bool.false_eq_true,
    ite_false]
  generalize Progress.runAll backend _ _ _ _ = run
  rcases run with ⟨q, _ | e⟩
  · cases op <;> rfl
  · cases op <;> exact (List.append_nil _).symm

/-- An operation counts the calls that are issued on the walk through its script. It tells how the
records are paired, then of the calls, and the summary in the end. -/
lemma performIn_eq_calls (order : Partition α → Phase → Entries (Pairing α)) (kind : RecordKind α)
    (backend : Backend α ε σ) (op : Operation) (hc : c.drained = false) (desired : List α)
    (horder : ∀ phase, order (Partition.ofRecords kind.key c.stored.pending desired) phase ⊆
      (Partition.ofRecords kind.key c.stored.pending desired).entries) :
    let request := Request.perform op order desired
    let calls := Step.calls backend (request.steps kind c) c.state
    let out := c.performIn order kind backend op { pending := desired }
    out.collection.counts = c.counts + Backend.taken (calls.map Call.seen) ∧
    out.events = partitionEvent kind (Partition.ofRecords kind.key c.stored.pending desired) ::
      calls.flatMap (fun call => call.reply.events ++ [call.event backend.describe]) ++
      request.summary kind (Backend.taken (calls.map Call.seen)) out.result := by
  intro request calls out
  have hkind (step) (hstep : step ∈ request.steps kind c) (w) :=
    kind_of_pending (w := w) (request.pending_of_mem_steps hstep)
  have hcounts : out.collection.counts = c.counts + Backend.taken (calls.map Call.seen) := by
    rw [← Step.tally_accepted_eq_taken backend hkind]
    exact (performIn_eq_walk order kind backend op hc { pending := desired } horder).2.2
  have hevents := events_performIn_of_not_drained order kind backend op hc desired
  dsimp only at hevents
  rw [Progress.runAll_eq_walk backend _ horder, Step.events_walk_take, hcounts,
    Counts.add_since] at hevents
  exact ⟨hcounts, hevents⟩

variable (kind) in
theorem serve_eq_calls (backend : Backend α ε σ) (hc : c.drained = false)
    (h : request.Enumerates (Partition.ofRecords kind.key c.stored.pending request.desired)) :
    let walked := Outcome.walk (Step.attempt backend) (request.steps kind c) c.state
    let calls := Step.calls backend (request.steps kind c) c.state
    let out := c.serve kind backend request
    warnings backend.describe out.result =
      warnings backend.describe (ρ := Unit) (walked.error?.elim (.ok ()) .error) ∧
    out.collection.state = walked.state ∧
    out.collection.counts = c.counts + Backend.taken (calls.map Call.seen) ∧
    out.events = partitionEvent kind (Partition.ofRecords kind.key c.stored.pending request.desired) ::
      calls.flatMap (fun call => call.reply.events ++ [call.event backend.describe]) ++
      request.summary kind (Backend.taken (calls.map Call.seen)) out.result := by
  intro walked calls out
  cases request with
  | perform op order desired =>
    have hsub (phase) := (h phase).subset
    obtain ⟨hresult, hstate, -⟩ :=
      performIn_eq_walk order kind backend op hc { pending := desired } hsub
    obtain ⟨hcounts, hevents⟩ := performIn_eq_calls order kind backend op hc desired hsub
    refine ⟨?_, hstate, hcounts, ?_⟩
    · simp only [out, serve, Performed.map, warnings_map, hresult]
      rfl
    · simp only [out, serve, Performed.map, Request.summary_map]
      exact hevents
  | plan order desired =>
    have hplan : out = ⟨{ c with stored := ⟨[], c.stored.taken ++ c.stored.pending⟩, drained := true },
        ⟨[], desired⟩, .ok (some (Plan.ofEntries (c.policy kind)
          (order (Partition.ofRecords kind.key c.stored.pending desired)))),
        [partitionEvent kind (Partition.ofRecords kind.key c.stored.pending desired)]⟩ := by
      simp [out, serve, planIn, withPartition, hc, Partition.ofFeeds_eq, Performed.map, Except.map,
        policy]
    rw [hplan]
    exact ⟨rfl, rfl, rfl, rfl⟩

variable (kind) in
lemma calls_serve_observed (backend : Backend α ε σ) (hc : c.drained = false)
    (h : request.Enumerates (Partition.ofRecords kind.key c.stored.pending request.desired)) :
    (c.observing.serve kind backend.observed request).collection.state.calls =
      (Step.calls backend (request.steps kind c) c.state).map Call.seen := by
  obtain ⟨-, hstate, -⟩ := serve_eq_calls kind backend.observed (c := c.observing) hc h
  rw [hstate]
  exact Step.calls_walk_observed backend (request.steps kind c) ⟨[], c.state⟩

variable (kind) in
/-- Over a backend that tells nothing, a request tells the same without the events of the backend. -/
lemma events_serve_muted (backend : Backend α ε σ) (hc : c.drained = false)
    (h : request.Enumerates (Partition.ofRecords kind.key c.stored.pending request.desired)) :
    let calls := Step.calls backend (request.steps kind c) c.state
    (c.serve kind backend.muted request).events =
      partitionEvent kind (Partition.ofRecords kind.key c.stored.pending request.desired) ::
        calls.map (Call.event backend.describe) ++ request.summary kind
          (Backend.taken (calls.map Call.seen)) (c.serve kind backend request).result := by
  intro calls
  obtain ⟨-, -, -, hevents⟩ := serve_eq_calls kind backend.muted hc h
  have hsame : c.Rel Eq c := ⟨rfl, rfl, rfl, rfl, rfl⟩
  have hrel := serve_rel (backend.muted_simulates fun _ => True) kind request hsame
    fun _ _ _ _ => trivial
  rw [hevents, hrel.result_eq, Step.calls_muted, List.flatMap_map, List.map_map,
    List.map_eq_flatMap (f := Call.event backend.describe)]
  rfl

lemma accounts_of_events {describe : ε → String} (p : Partition α) (request : Request α)
    {calls : List (Call α ε σ)} {result : Except (ReconcileError ε) ρ}
    (hwarn : (calls.map (Call.event describe)).filter (·.level = .warn) = warnings describe result) :
    Accounts kind describe p request calls result (partitionEvent kind p ::
      calls.map (Call.event describe) ++ request.summary kind
        (Backend.taken (calls.map Call.seen)) result) := by
  refine ⟨?_, ?_, ?_, ?_⟩ <;> rw [List.cons_append, List.filter_cons, List.filter_append]
  · rw [Call.filter_events_eq_nil calls Call.isPartitioned_event,
      request.filter_summary_eq_nil result rfl]
    rfl
  · rw [Call.filter_isApplied_events, request.filter_summary_eq_nil result rfl]
    exact List.append_nil _
  · rw [hwarn, request.filter_summary_eq_nil result rfl]
    exact List.append_nil _
  · rw [Call.filter_events_eq_nil calls fun call => decide_eq_false (Call.level_event_ne_info call),
      request.filter_summary_eq_self result rfl]
    rfl

end Collection

namespace Store
variable {schema : Schema}

lemma events_answer (w : Write schema.table.Row) (s : Store schema.table) :
    ((backend schema).answer w s).events = if ((backend schema).answer w s).error? = none
      then [.kept w.kind schema.table.name (schema.key w.record)] else [] := by
  cases w with
  | insert row =>
    simp only [backend, insert]
    split
    · rfl
    · rcases number row s.nextId with ⟨n, _ | e⟩ <;> rfl
  | update row =>
    simp only [backend, update]
    split <;> rfl
  | delete row =>
    simp only [backend, delete]
    split <;> rfl

lemma journal_answer (w : Write schema.table.Row) (s : Store schema.table) :
    ((backend schema).answer w s).state.journal = s.journal ++
      if ((backend schema).answer w s).error? = none then [⟨w.kind, schema.key w.record⟩] else [] := by
  split
  · next h => rw [answer_eq_written h, written]
  · next h => rw [answer_of_refused h, List.append_nil]

def entryOf (call : Call schema.table.Row StoreError (Store schema.table)) : JournalEntry :=
  ⟨call.write.kind, schema.key call.write.record⟩

lemma journal_walk (steps : List (Step schema.table.Row)) (s : Store schema.table) :
    (Outcome.walk (Step.attempt (backend schema)) steps s).state.journal = s.journal ++
      ((Step.calls (backend schema) steps s).filter Call.isTaken).map entryOf := by
  induction steps generalizing s with
  | nil => simp [Outcome.walk, Step.calls]
  | cons step steps ih =>
    rcases hcall : step.call with e | w
    · simp [Outcome.walk, Step.attempt, Step.calls, hcall]
    · rcases hreply : (backend schema).answer w s with ⟨t, _ | e, events⟩
      · have hkept : t.journal = s.journal ++ [⟨w.kind, schema.key w.record⟩] := by
          simpa [hreply] using journal_answer w s
        simp [Outcome.walk, Step.attempt, Step.calls, Call.isTaken, List.filter_cons, entryOf, hcall,
          hreply, ih, hkept]
      · have hrefused : t.journal = s.journal := by simpa [hreply] using journal_answer w s
        simp [Outcome.walk, Step.attempt, Step.calls, Call.isTaken, hcall, hreply, hrefused]

def keptEvent (call : Call schema.table.Row StoreError (Store schema.table)) : Event :=
  .kept call.write.kind schema.table.name (schema.key call.write.record)

/-- Of what is told about calls, the store tells which of them it has kept, and the run all the rest. -/
lemma filter_isKept_calls (describe : StoreError → String) (steps : List (Step schema.table.Row))
    (s : Store schema.table) :
    let calls := Step.calls (backend schema) steps s
    let events := calls.flatMap fun call => call.reply.events ++ [call.event describe]
    events.filter Event.isKept = (calls.filter Call.isTaken).map keptEvent ∧
      events.filter (!Event.isKept ·) = calls.map (Call.event describe) := by
  induction steps generalizing s with
  | nil => exact ⟨rfl, rfl⟩
  | cons step steps ih =>
    rcases hcall : step.call with e | w
    · simp [Step.calls, hcall]
    · have htold := events_answer w s
      rcases hreply : (backend schema).answer w s with ⟨t, _ | e, events⟩
      · obtain ⟨hkept, hrest⟩ := ih t
        obtain rfl : events = [.kept w.kind schema.table.name (schema.key w.record)] := by
          simpa [hreply] using htold
        simp [Step.calls, Call.isTaken, keptEvent, List.filter_cons, hcall, hreply, hkept, hrest]
      · obtain rfl : events = [] := by simpa [hreply] using htold
        simp [Step.calls, Call.isTaken, hcall, hreply]

end Store

namespace Collection

lemma journal_of_serve {schema : Schema} {c : Collection schema.table.Row (Store schema.table)}
    {request : Request schema.table.Row} (hc : c.drained = false)
    (h : request.Enumerates (Partition.ofRecords schema.key c.stored.pending request.desired)) :
    let out := c.serve schema.kind (Store.backend schema) request
    let calls := Step.calls (Store.backend schema) (request.steps schema.kind c) c.state
    out.collection.state.journal =
        c.state.journal ++ (calls.filter Call.isTaken).map Store.entryOf ∧
      out.events.filter Event.isKept = (calls.filter Call.isTaken).map Store.keptEvent ∧
      out.events.filter (!Event.isKept ·) =
        (c.serve schema.kind (Store.backend schema).muted request).events := by
  intro out calls
  obtain ⟨-, hstate, -, hevents⟩ := serve_eq_calls schema.kind (Store.backend schema) hc h
  obtain ⟨hkept, hrest⟩ :=
    Store.filter_isKept_calls StoreError.message (request.steps schema.kind c) c.state
  have hmuted := events_serve_muted schema.kind (Store.backend schema) hc h
  refine ⟨by rw [hstate, Store.journal_walk], ?_, ?_⟩
  · rw [hevents, List.cons_append, List.filter_cons, List.filter_append]
    exact (congrArg₂ (· ++ ·) hkept (request.filter_summary_eq_nil out.result rfl)).trans
      (List.append_nil _)
  · rw [hevents, hmuted, List.cons_append, List.filter_cons, List.filter_append]
    exact congrArg (_ :: ·)
      (congrArg₂ (· ++ ·) hrest (request.filter_summary_eq_self out.result rfl))

/-- What is told about a request, whatever the records are written to, whatever the policy and in whatever
order the keys are gone through. A collection that has been drained tells nothing. Any other one tells
first how the records are paired, with numbers for the phases that sum up to the number of keys. Then it
tells of each call, after what the backend has told of it, and each write that was taken has its own
event with its key. There is a warning exactly if a write was refused, for that write, and a summary
exactly if a reconciliation has succeeded, with the numbers of the writes that were taken. A store adds
the events for what it has written to its journal, and no others. -/
theorem log_accounts_for_request (kind : RecordKind α) (backend : Backend α ε σ) (c : Collection α σ)
    (request : Request α)
    (horder : request.Enumerates (Partition.ofRecords kind.key c.stored.pending request.desired)) :
    let p := Partition.ofRecords kind.key c.stored.pending request.desired
    let out := c.serve kind backend request
    let own := (c.serve kind backend.muted request).events
    let seen := c.observing.serve kind backend.observed request
    (c.drained = true → out.events = []) ∧
    (c.drained = false → ∃ (calls : List (Call α ε σ)) (summary : List Event),
      calls.map Call.step <+: request.steps kind c ∧
      (∀ call ∈ calls, call.write.kind = call.phase.kind ∧
        (p.get? call.key).bind (·.step? (c.policy kind) call.key call.phase) = some call.step) ∧
      seen.collection.state.calls = calls.map Call.seen ∧
      calls.map Call.reply = backend.replies (calls.map Call.write) c.state ∧
      out.collection.counts = c.counts + Backend.taken (calls.map Call.seen) ∧
      own = partitionEvent kind p :: calls.map (Call.event backend.describe) ++ summary ∧
      out.events = partitionEvent kind p :: calls.flatMap (fun call =>
        call.reply.events ++ [call.event backend.describe]) ++ summary ∧
      p.count .delete + p.count .add + p.count .update = p.size ∧
      Accounts kind backend.describe p request calls out.result own) ∧
    ∀ (schema : Schema) (c : Collection schema.table.Row (Store schema.table))
      (request : Request schema.table.Row),
      request.Enumerates (Partition.ofRecords schema.key c.stored.pending request.desired) →
      let out := c.serve schema.kind (Store.backend schema) request
      let own := (c.serve schema.kind (Store.backend schema).muted request).events
      let seen := c.observing.serve schema.kind (Store.backend schema).observed request
      let kept : List JournalEntry := (seen.collection.state.calls.filter (·.2.isNone)).map fun call =>
        ⟨call.1.kind, schema.key call.1.record⟩
      out.collection.state.journal = c.state.journal ++ kept ∧
      out.events.filter Event.isKept =
        kept.map (fun entry => .kept entry.kind schema.table.name entry.key) ∧
      out.events.filter (!Event.isKept ·) = own := by
  intro p out own seen
  refine ⟨fun hdrained => ?_, fun hfresh => ?_, fun schema c request horder => ?_⟩
  · simp only [out, serve_of_drained hdrained]
  · obtain ⟨hwarnings, -, hcounts, hevents⟩ := serve_eq_calls kind backend hfresh horder
    have hown := events_serve_muted kind backend hfresh horder
    have hsteps : (Step.calls backend (request.steps kind c) c.state).map Call.step <+:
        request.steps kind c := Step.map_step_calls_prefix _ _ _
    refine ⟨Step.calls backend (request.steps kind c) c.state, _, hsteps, fun call hcall => ?_,
      calls_serve_observed kind backend hfresh horder, Step.map_reply_calls _ _ _, hcounts, hown,
      hevents, Partition.count_add_count_add_count p, ?_⟩
    · have hpending := request.pending_of_mem_steps
        (hsteps.subset (List.mem_map.2 ⟨call, hcall, rfl⟩))
      refine ⟨kind_of_pending hpending rfl, ?_⟩
      rw [Partition.get?_ofRecords]
      exact hpending
    · rw [show own = _ from hown]
      exact accounts_of_events p request ((Step.filter_warn_calls _ _ _).trans hwarnings.symm)
  · cases hdrained : c.drained with
    | true =>
      have hseen : (c.observing (ε := StoreError)).drained = true := hdrained
      simp only [serve_of_drained hdrained, serve_of_drained hseen]
      exact ⟨(List.append_nil _).symm, rfl, rfl⟩
    | false =>
      obtain ⟨hjournal, hkept, hrest⟩ := journal_of_serve hdrained horder
      have hseen := calls_serve_observed schema.kind (Store.backend schema) hdrained horder
      simp only [hseen, List.filter_map, List.map_map]
      exact ⟨hjournal, hkept, hrest⟩

/-- The rows of one host that is there and of one that has gone meanwhile, written to a store: of three
calls two are taken, which the store tells as well, and one is refused. A plan that is asked for later
tells nothing. -/
theorem log_accounts_for_request_hosts :
    let stored := [Store.host "a" "old" (.ofNat 1), Store.host "c" "old" (.ofNat 3)]
    let desired := [Store.host "c" "new" (.ofNat 4), Store.host "d" "new" (.ofNat 5)]
    let c := Collection.ofRecords stored (Store.twoHosts {}) none
    let request : Request Store.hosts.table.Row := .perform .reconcile (fun p _ => p.entries) desired
    let later : Request Store.hosts.table.Row := .plan KeyMap.entries desired
    let p := Partition.ofRecords Store.hosts.key stored desired
    let out := c.serve Store.hosts.kind (Store.backend Store.hosts) request
    let own := (c.serve Store.hosts.kind (Store.backend Store.hosts).muted request).events
    request.Enumerates p ∧ c.drained = false ∧
    out.events = [.partitioned "hosts" 3 1 1 1, .kept .delete "hosts" "a", .applied .delete "a",
      .kept .insert "hosts" "d", .applied .add "d", .refused .update "c" "not found: hosts `c`"] ∧
    own = [.partitioned "hosts" 3 1 1 1, .applied .delete "a", .applied .add "d",
      .refused .update "c" "not found: hosts `c`"] ∧
    (∃ calls : List (Call _ StoreError (Store Store.hosts.table)), calls.length = 3 ∧
      Accounts Store.hosts.kind StoreError.message p request calls out.result own) ∧
    out.collection.state.journal = c.state.journal ++ [⟨.delete, "a"⟩, ⟨.insert, "d"⟩] ∧
    (out.collection.serve Store.hosts.kind (Store.backend Store.hosts) later).events = [] := by
  intro stored desired c request later p out own
  have horder : request.Enumerates p := fun _ => List.Perm.refl _
  obtain ⟨-, hfresh, hstore⟩ :=
    log_accounts_for_request Store.hosts.kind (Store.backend Store.hosts) c request horder
  obtain ⟨calls, -, -, -, hcalls, -, -, -, -, -, haccounts⟩ := hfresh rfl
  obtain ⟨hjournal, -, hown⟩ := hstore Store.hosts c request horder
  obtain ⟨hlater, -⟩ := log_accounts_for_request Store.hosts.kind (Store.backend Store.hosts)
    out.collection later (.refl _)
  have hevents : out.events = [.partitioned "hosts" 3 1 1 1, .kept .delete "hosts" "a",
      .applied .delete "a", .kept .insert "hosts" "d", .applied .add "d",
      .refused .update "c" "not found: hosts `c`"] := by decide +kernel
  refine ⟨horder, rfl, hevents, ?_, ⟨calls, ?_, haccounts⟩, hjournal.trans ?_, hlater ?_⟩
  · rw [show own = _ from hown.symm, hevents]
    decide
  · rw [← List.length_map Call.seen, ← hcalls]
    decide +kernel
  · decide +kernel
  · decide +kernel

end Collection
end DesiredState
