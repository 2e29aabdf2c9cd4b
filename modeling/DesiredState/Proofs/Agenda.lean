import DesiredState.Proofs.Replay

/-! What reconciling has to do on a store. Where rows are filed under their own keys and the key of a
row does not change while it is numbered or merged, this depends only on what the store holds under
each key, and on the last desired row of each key. -/
namespace DesiredState

namespace Schema
variable {schema : Schema}

/-- The key of a row depends on ignored slots alone, and on none that is assigned. -/
def KeyKept (schema : Schema) : Prop :=
  ∀ a b : schema.table.Row, (∀ i, (schema.table.column i).ignored = true →
    (schema.table.column i).isAssigned = false → Table.get a i = Table.get b i) →
    schema.key a = schema.key b

/-- The key of a row depends on no slot that is assigned. -/
def KeyUnassigned (schema : Schema) : Prop :=
  ∀ a b : schema.table.Row, (∀ i, (schema.table.column i).isAssigned = false →
    Table.get a i = Table.get b i) → schema.key a = schema.key b

lemma KeyKept.unassigned (hkey : schema.KeyKept) : schema.KeyUnassigned := fun a b hab =>
  hkey a b fun i _ hassigned => hab i hassigned

lemma keyKept_ofKeyColumns {table : Table} {columns : List (Fin table.width)}
    (h : ∀ i ∈ columns, (table.column i).ignored = true ∧ (table.column i).isAssigned = false) :
    (ofKeyColumns table columns).KeyKept := by
  intro a b hab
  apply congrArg (String.intercalate "/")
  exact List.map_congr_left fun i hi => congrArg keyPart (hab i (h i hi).1 (h i hi).2)

lemma KeyUnassigned.key_numbered (hkey : schema.KeyUnassigned) (row : schema.table.Row)
    (n : Int64) : schema.key (Store.numbered row n) = schema.key row := by
  refine hkey _ _ fun i hassigned => ?_
  rw [Store.get_numbered, hassigned]
  rfl

lemma KeyKept.key_merge (hkey : schema.KeyKept) (stored desired : schema.table.Row) :
    schema.key (schema.table.policy.merge stored desired).state = schema.key stored :=
  hkey _ _ fun _ hignored _ => Table.get_merge_of_ignored hignored stored desired

lemma KeyKept.writeOrder_eq_entries (hkey : schema.KeyKept) (stored desired : List schema.table.Row) :
    (Partition.ofRecords schema.key stored desired).writeOrder schema.kind schema.table.policy =
      (Partition.ofRecords schema.key stored desired).entries := by
  refine Partition.writeOrder_eq_entries _ _ fun ⟨k, pairing⟩ he => ?_
  have hpairing := KeyMap.get?_eq_some_iff.2 he
  rw [Partition.get?_ofRecords] at hpairing
  have hstored := Pairing.stored?_of_ofSides hpairing
  have hdesired := Pairing.desired?_of_ofSides hpairing
  cases pairing with
  | storedOnly stored => exact (mem_of_lastOf hstored.symm).2
  | desiredOnly row => exact (mem_of_lastOf hdesired.symm).2
  | both stored row => exact (hkey.key_merge stored row).trans (mem_of_lastOf hstored.symm).2

/-- Where the key of a row does not change, the writes of an operation are issued by ascending keys. -/
theorem KeyKept.perform_eq_performIn {ε σ : Type} (hkey : schema.KeyKept)
    (backend : Backend schema.table.Row ε σ) (op : Operation) (state : σ)
    (stored desired : List schema.table.Row) :
    (Collection.ofRecords stored state none).perform schema.kind backend op { pending := desired } =
      (Collection.ofRecords stored state none).performIn (fun p _ => p.entries) schema.kind backend op
        { pending := desired } :=
  Collection.performIn_congr (funext fun _ => hkey.writeOrder_eq_entries stored desired) backend op

/-- The steps of phases over any stored rows, each phase by ascending keys. -/
def script (schema : Schema) (stored desired : List schema.table.Row) (phases : List Phase) :
    List (Step schema.table.Row) :=
  DesiredState.script schema.table.policy (lastOf schema.key stored) (lastOf schema.key desired)
    (fun _ => (Partition.ofRecords schema.key stored desired).keys) phases

end Schema

namespace Store
variable {schema : Schema} {s t : Store schema.table} {desired : List schema.table.Row}

/-- Every row is filed under its own key. -/
def Filed (schema : Schema) (s : Store schema.table) : Prop :=
  ∀ k row, s.get? k = some row → schema.key row = k

lemma filed_empty {config : StoreConfig} : (empty config).Filed schema := fun _ _ h => by cases h

lemma Filed.mem_list_iff (hfiled : s.Filed schema) {row : schema.table.Row} :
    row ∈ s.list ↔ s.get? (schema.key row) = some row := by
  constructor
  · intro hrow
    obtain ⟨⟨k, row'⟩, hentry, rfl⟩ := List.mem_map.1 hrow
    have hget : s.get? k = some row' := KeyMap.get?_eq_some_iff.2 hentry
    rw [hfiled k row' hget]
    exact hget
  · intro hget
    exact List.mem_map.2 ⟨(schema.key row, row), KeyMap.get?_eq_some_iff.1 hget, rfl⟩

lemma Filed.lastOf_list (hfiled : s.Filed schema) : lastOf schema.key s.list = s.get? := by
  funext k
  cases hlast : lastOf schema.key s.list k with
  | some row =>
    obtain ⟨hrow, rfl⟩ := mem_of_lastOf hlast
    exact (hfiled.mem_list_iff.1 hrow).symm
  | none =>
    rw [lastOf_eq_none_iff] at hlast
    refine (Option.eq_none_iff_forall_ne_some.2 fun row hget => hlast ?_).symm
    obtain rfl := hfiled k row hget
    exact List.mem_map.2 ⟨row, hfiled.mem_list_iff.2 hget, rfl⟩

lemma Filed.written_of_unassigned (hkey : schema.KeyUnassigned) (hfiled : s.Filed schema)
    (w : Write schema.table.Row) : (written schema w s).Filed schema := by
  intro k row hrow
  rw [get?_written] at hrow
  split at hrow
  · next hk =>
    subst hk
    cases w with
    | insert row' => cases hrow; exact hkey.key_numbered row' s.nextId
    | update row' => cases hrow; rfl
    | delete row' => cases hrow
  · exact hfiled k row hrow

lemma Filed.written (hkey : schema.KeyKept) (hfiled : s.Filed schema)
    (w : Write schema.table.Row) : (written schema w s).Filed schema :=
  hfiled.written_of_unassigned hkey.unassigned w

lemma Filed.attempt (hkey : schema.KeyKept) (hfiled : s.Filed schema)
    {step : Step schema.table.Row} (h : step.attempt (backend schema) s = ⟨t, none⟩) :
    t.Filed schema := by
  obtain ⟨w, -, rfl⟩ := eq_written_of_attempt h
  exact hfiled.written hkey w

lemma Filed.walk (hkey : schema.KeyKept) (hfiled : s.Filed schema)
    {steps : List (Step schema.table.Row)}
    (h : Outcome.walk (Step.attempt (backend schema)) steps s = ⟨t, none⟩) : t.Filed schema := by
  induction steps generalizing s with
  | nil => cases h; exact hfiled
  | cons step steps ih =>
    obtain ⟨u, hstep, hwalk⟩ := Outcome.walk_cons_eq_done_iff.1 h
    exact ih (hfiled.attempt hkey hstep) hwalk

variable (schema)

/-- All keys that are stored or desired, ascending. -/
def keys (s : Store schema.table) (desired : List schema.table.Row) : List String :=
  (Partition.ofRecords schema.key s.list desired).keys

/-- The steps that a phase of reconciling has to take, by ascending keys. -/
def due (s : Store schema.table) (desired : List schema.table.Row) (phase : Phase) :
    List (Step schema.table.Row) :=
  (s.keys schema desired).filterMap
    (pending schema.table.policy s.get? (lastOf schema.key desired) phase)

def agenda (s : Store schema.table) (desired : List schema.table.Row) :
    List (Step schema.table.Row) :=
  s.due schema desired .delete ++ (s.due schema desired .add ++ s.due schema desired .update)

/-- Each phase comes to every entry of the partition once, in whatever order. -/
def Enumerates (s : Store schema.table) (desired : List schema.table.Row)
    (order : Phase → Entries (Pairing schema.table.Row)) : Prop :=
  ∀ phase, (order phase).Perm (Partition.ofRecords schema.key s.list desired).entries

/-- The entries of the partition by ascending keys, in every phase. -/
def ascending (s : Store schema.table) (desired : List schema.table.Row) (_ : Phase) :
    Entries (Pairing schema.table.Row) :=
  (Partition.ofRecords schema.key s.list desired).entries

/-- An operation of a new collection over the rows of a store, with the entries of each phase in some
order. -/
def operate (op : Operation) (order : Phase → Entries (Pairing schema.table.Row))
    (s : Store schema.table) (desired : List schema.table.Row) :
    Performed schema.table.Row StoreError (Store schema.table) Unit :=
  (Collection.ofRecords s.list s none).performIn (fun _ => order) schema.kind (backend schema) op
    { pending := desired }

/-- The operation with the keys of each phase in ascending order. -/
def perform (op : Operation) (s : Store schema.table) (desired : List schema.table.Row) :
    Performed schema.table.Row StoreError (Store schema.table) Unit :=
  s.operate schema op (s.ascending schema desired) desired

variable {schema}

lemma mem_keys_of_pending (hfiled : s.Filed schema) {phase : Phase} {k : String}
    {step : Step schema.table.Row}
    (h : pending schema.table.policy s.get? (lastOf schema.key desired) phase k = some step) :
    k ∈ s.keys schema desired := by
  rw [← hfiled.lastOf_list] at h
  exact Partition.mem_keys_of_pending h

/-- The steps of a phase may be collected over any ascending keys that have all of them. -/
lemma due_eq_filterMap (hfiled : s.Filed schema) {phase : Phase} {keys : List String}
    (hascend : keys.Pairwise (· < ·)) (hkeys : ∀ k step,
      pending schema.table.policy s.get? (lastOf schema.key desired) phase k = some step → k ∈ keys) :
    s.due schema desired phase = keys.filterMap
      (pending schema.table.policy s.get? (lastOf schema.key desired) phase) := by
  rw [due]
  generalize hf : pending schema.table.policy s.get? (lastOf schema.key desired) phase = f at hkeys ⊢
  have : Std.Irrefl (α := String) (· < ·) := ⟨String.lt_irrefl⟩
  have hfilter : (s.keys schema desired).filter (fun k => (f k).isSome) =
      keys.filter fun k => (f k).isSome := by
    refine ((KeyMap.pairwise_keys _).filter _).eq_of_mem_iff (hascend.filter _) fun k => ?_
    rw [List.mem_filter, List.mem_filter, Option.isSome_iff_exists]
    refine and_congr_left fun ⟨step, hstep⟩ => iff_of_true ?_ (hkeys k step hstep)
    exact mem_keys_of_pending hfiled (by rw [hf]; exact hstep)
  have hsome (ks : List String) :
      ks.filterMap f = (ks.filter fun k => (f k).isSome).filterMap f := by
    rw [List.filterMap_filter]
    refine List.filterMap_congr fun k _ => ?_
    cases f k <;> rfl
  rw [hsome, hfilter, ← hsome]

def orderKeys {α : Type} (order : Phase → Entries (Pairing α)) (phase : Phase) : List String :=
  (order phase).map (·.1)

/-- The steps of phases, each with its keys in some order. -/
def schedule (schema : Schema) (keys : Phase → List String) (phases : List Phase)
    (s : Store schema.table) (desired : List schema.table.Row) : List (Step schema.table.Row) :=
  script schema.table.policy s.get? (lastOf schema.key desired) keys phases

lemma agenda_eq_schedule (s : Store schema.table) (desired : List schema.table.Row) :
    s.agenda schema desired =
      s.schedule schema (fun _ => s.keys schema desired) Operation.reconcile.phases desired := by
  simp [agenda, due, schedule, script, Operation.phases]

lemma enumerates_ascending (s : Store schema.table) (desired : List schema.table.Row) :
    s.Enumerates schema desired (s.ascending schema desired) := fun _ => .refl _

lemma Enumerates.keys_perm {order : Phase → Entries (Pairing schema.table.Row)}
    (h : s.Enumerates schema desired order) (phase : Phase) :
    (orderKeys order phase).Perm (s.keys schema desired) := (h phase).map _

section
variable {keys : Phase → List String} {phases : List Phase}

lemma mem_schedule (hfiled : s.Filed schema)
    (hkeys : ∀ phase, (keys phase).Perm (s.keys schema desired)) {step : Step schema.table.Row} :
    step ∈ s.schedule schema keys phases desired ↔ step.phase ∈ phases ∧
      pending schema.table.policy s.get? (lastOf schema.key desired) step.phase step.key =
        some step := by
  rw [schedule, mem_script]
  refine and_congr_right fun _ => and_iff_right_of_imp fun h => ?_
  rw [(hkeys step.phase).mem_iff]
  exact mem_keys_of_pending hfiled h

lemma nodup_keys_schedule (hkeys : ∀ phase, (keys phase).Perm (s.keys schema desired))
    (hphases : phases.Nodup) : ((s.schedule schema keys phases desired).map Step.key).Nodup :=
  nodup_keys_script hphases fun phase => (hkeys phase).nodup_iff.2 (KeyMap.nodup_keys _)

end

lemma mem_agenda (hfiled : s.Filed schema) {step : Step schema.table.Row} :
    step ∈ s.agenda schema desired ↔
      pending schema.table.policy s.get? (lastOf schema.key desired) step.phase step.key =
        some step := by
  rw [agenda_eq_schedule]
  refine (mem_schedule hfiled fun _ => .refl _).trans (and_iff_right ?_)
  cases step.phase <;> decide

lemma nodup_keys_agenda (s : Store schema.table) (desired : List schema.table.Row) :
    ((s.agenda schema desired).map Step.key).Nodup := by
  rw [agenda_eq_schedule]
  exact nodup_keys_schedule (fun _ => .refl _) (by decide)

/-- The write of a step is filed under the key of the step, whatever rows have been paired by their
keys. -/
lemma fits_of_keyed (hkey : schema.KeyKept) {stored desired : String → Option schema.table.Row}
    (hstored : ∀ k row, stored k = some row → schema.key row = k)
    (hdesired : ∀ k row, desired k = some row → schema.key row = k) {phase : Phase} {k : String}
    {step : Step schema.table.Row}
    (h : pending schema.table.policy stored desired phase k = some step) : step.Fits schema := by
  intro w hw
  obtain ⟨hphase, hk⟩ := phase_and_key_of_pending h
  rw [hphase, hk]
  refine ⟨kind_of_pending h hw, ?_⟩
  cases phase with
  | delete =>
    obtain ⟨row, hrow, -, rfl⟩ := pending_delete_iff.1 h
    cases hw
    exact hstored k row hrow
  | add =>
    obtain ⟨row, -, hrow, rfl⟩ := pending_add_iff.1 h
    cases hw
    exact hdesired k row hrow
  | update =>
    obtain ⟨r, d, hr, -, -, rfl⟩ := pending_update_iff.1 h
    obtain ⟨merged, hmerge, rfl⟩ := Outcome.toExcept_map_eq_ok_iff.1 hw
    have hmerged := hkey.key_merge r d
    rw [hmerge] at hmerged
    exact hmerged.trans (hstored k r hr)

lemma fits_of_pending (hkey : schema.KeyKept) (hfiled : s.Filed schema) {phase : Phase} {k : String}
    {step : Step schema.table.Row}
    (h : pending schema.table.policy s.get? (lastOf schema.key desired) phase k = some step) :
    step.Fits schema :=
  fits_of_keyed hkey hfiled (fun _ _ hrow => (mem_of_lastOf hrow).2) h

lemma fits_of_mem_agenda (hkey : schema.KeyKept) (hfiled : s.Filed schema)
    {step : Step schema.table.Row} (h : step ∈ s.agenda schema desired) : step.Fits schema :=
  fits_of_pending hkey hfiled ((mem_agenda hfiled).1 h)

/-- An operation on the rows of a store, whatever it writes to, is walking through its schedule. -/
theorem performIn_eq_walk_schedule {ε σ : Type} (hfiled : s.Filed schema)
    {order : Phase → Entries (Pairing schema.table.Row)} (horder : s.Enumerates schema desired order)
    (backend : Backend schema.table.Row ε σ) (op : Operation) (state : σ) :
    let steps := s.schedule schema (orderKeys order) op.phases desired
    let walked := Outcome.walk (Step.attempt backend) steps state
    let out := (Collection.ofRecords s.list state none).performIn (fun _ => order) schema.kind
      backend op { pending := desired }
    out.result = walked.error?.elim (.ok ()) .error ∧ out.collection.state = walked.state ∧
      out.collection.counts = Step.tally (Step.accepted backend steps state) := by
  obtain ⟨hresult, hstate, hcounts⟩ := Collection.performIn_eq_walk (fun _ => order) schema.kind
    backend op (c := Collection.ofRecords s.list state none) rfl { pending := desired }
    fun phase => (horder phase).subset
  have hsteps : script schema.table.policy (lastOf schema.key s.list) (lastOf schema.key desired)
      (orderKeys order) op.phases = s.schedule schema (orderKeys order) op.phases desired := by
    rw [hfiled.lastOf_list]
    rfl
  rw [← hsteps]
  exact ⟨hresult, hstate, hcounts.trans (Counts.zero_add _)⟩

/-- Reconciling the rows of a store by ascending keys, whatever it writes to, is walking through the
agenda. -/
theorem performIn_eq_walk_agenda {ε σ : Type} (hfiled : s.Filed schema)
    (backend : Backend schema.table.Row ε σ) (state : σ) (desired : List schema.table.Row) :
    let steps := s.agenda schema desired
    let walked := Outcome.walk (Step.attempt backend) steps state
    let out := (Collection.ofRecords s.list state none).performIn
      (fun _ => s.ascending schema desired) schema.kind backend .reconcile { pending := desired }
    out.result = walked.error?.elim (.ok ()) .error ∧ out.collection.state = walked.state ∧
      out.collection.counts = Step.tally (Step.accepted backend steps state) := by
  rw [agenda_eq_schedule]
  exact performIn_eq_walk_schedule hfiled (enumerates_ascending s desired) backend .reconcile state

/-- An operation on any stored rows by ascending keys, whatever it writes to, is walking through their
script. -/
theorem performIn_eq_walk_script {ε σ : Type} (backend : Backend schema.table.Row ε σ)
    (op : Operation) (state : σ) (stored desired : List schema.table.Row) :
    let steps := schema.script stored desired op.phases
    let walked := Outcome.walk (Step.attempt backend) steps state
    let out := (Collection.ofRecords stored state none).performIn (fun p _ => p.entries) schema.kind
      backend op { pending := desired }
    out.result = walked.error?.elim (.ok ()) .error ∧ out.collection.state = walked.state ∧
      out.collection.counts = Step.tally (Step.accepted backend steps state) := by
  obtain ⟨hresult, hstate, hcounts⟩ := Collection.performIn_eq_walk (fun p _ => p.entries)
    schema.kind backend op (c := Collection.ofRecords stored state none) rfl { pending := desired }
    fun _ => List.Subset.refl _
  exact ⟨hresult, hstate, hcounts.trans (Counts.zero_add _)⟩

section
variable {order : Phase → Entries (Pairing schema.table.Row)} (hfiled : s.Filed schema)
  (horder : s.Enumerates schema desired order)
include hfiled horder

lemma operate_eq_ok_iff (op : Operation) : (s.operate schema op order desired).result = .ok () ↔
    (Outcome.walk (Step.attempt (backend schema))
      (s.schedule schema (orderKeys order) op.phases desired) s).error? = none := by
  obtain ⟨hresult, -, -⟩ := performIn_eq_walk_schedule hfiled horder (backend schema) op s
  rw [operate, hresult, Outcome.elim_eq_ok_iff]

lemma operate_eq_error_iff (op : Operation) {e : ReconcileError StoreError} :
    (s.operate schema op order desired).result = .error e ↔
      (Outcome.walk (Step.attempt (backend schema))
        (s.schedule schema (orderKeys order) op.phases desired) s).error? = some e := by
  obtain ⟨hresult, -, -⟩ := performIn_eq_walk_schedule hfiled horder (backend schema) op s
  rw [operate, hresult, Outcome.elim_eq_error_iff]

lemma operate_of_walk {op : Operation} (h : Outcome.walk (Step.attempt (backend schema))
      (s.schedule schema (orderKeys order) op.phases desired) s = ⟨t, none⟩) :
    (s.operate schema op order desired).result = .ok () ∧
      (s.operate schema op order desired).collection.state = t ∧
      (s.operate schema op order desired).collection.counts =
        Step.tally (s.schedule schema (orderKeys order) op.phases desired) := by
  obtain ⟨hresult, hstate, hcounts⟩ :=
    performIn_eq_walk_schedule hfiled horder (backend schema) op s
  rw [h] at hresult hstate
  rw [Step.accepted_of_walk_done (by rw [h])] at hcounts
  exact ⟨hresult, hstate, hcounts⟩

lemma walk_of_operate {op : Operation} (h : (s.operate schema op order desired).result = .ok ()) :
    Outcome.walk (Step.attempt (backend schema))
        (s.schedule schema (orderKeys order) op.phases desired) s =
      ⟨(s.operate schema op order desired).collection.state, none⟩ ∧
    (s.operate schema op order desired).collection.counts =
      Step.tally (s.schedule schema (orderKeys order) op.phases desired) := by
  have hdone := (operate_eq_ok_iff hfiled horder op).1 h
  obtain ⟨-, hstate, hcounts⟩ :=
    operate_of_walk hfiled horder (congrArg (Outcome.mk _) hdone)
  exact ⟨by rw [hstate, ← hdone], hcounts⟩

end

lemma reconcile_of_walk (hfiled : s.Filed schema)
    (h : Outcome.walk (Step.attempt (backend schema)) (s.agenda schema desired) s = ⟨t, none⟩) :
    (s.perform schema .reconcile desired).result = .ok () ∧
      (s.perform schema .reconcile desired).collection.state = t ∧
      (s.perform schema .reconcile desired).collection.counts =
        Step.tally (s.agenda schema desired) := by
  rw [agenda_eq_schedule] at h ⊢
  exact operate_of_walk hfiled (enumerates_ascending s desired) h

lemma walk_of_reconcile (hfiled : s.Filed schema)
    (h : (s.perform schema .reconcile desired).result = .ok ()) :
    Outcome.walk (Step.attempt (backend schema)) (s.agenda schema desired) s =
        ⟨(s.perform schema .reconcile desired).collection.state, none⟩ ∧
      (s.perform schema .reconcile desired).collection.counts =
        Step.tally (s.agenda schema desired) := by
  rw [agenda_eq_schedule]
  exact walk_of_operate hfiled (enumerates_ascending s desired) h

/-- Hosts with names, numbers that the store assigns, notes that are left alone, and loads. -/
def hosts : Schema := Schema.ofTable ⟨"hosts", [
  { name := "name", type := .text, isKey := true },
  { name := "number", type := .int64, isAssigned := true },
  { name := "note", type := .text, tags := ⟨[("eq", "-")]⟩ },
  { name := "load", type := .real }]⟩

def host (name note : String) (load : Binary64) : hosts.table.Row :=
  #v[.text name, .integer 0, .text note, .real load]

lemma keyKept_hosts : hosts.KeyKept := Schema.keyKept_ofKeyColumns (by decide +kernel)

def twoHosts (config : StoreConfig) : Store hosts.table :=
  written hosts (.insert (host "b" "old" (.ofNat 2)))
    (written hosts (.insert (host "a" "old" (.ofNat 1))) (empty config))

lemma filed_twoHosts (config : StoreConfig) : (twoHosts config).Filed hosts :=
  (filed_empty.written keyKept_hosts _).written keyKept_hosts _

end Store
end DesiredState
