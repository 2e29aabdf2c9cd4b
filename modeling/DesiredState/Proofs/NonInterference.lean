import DesiredState.Proofs.Answers
import DesiredState.Proofs.Simulation

/-! Ignored slots of desired rows. Two runs whose desired rows differ in such slots alone compare,
merge and number alike, so that they go through the same steps and end in the same way. What the slots
hold gets into a store only with a row that is inserted, and not into the slots that the store
assigns. The stored rows may be any rows here, and keys may depend on any slots. -/
namespace DesiredState

namespace Outcome
variable {ε σ β : Type}

lemma walk_congr {act act' : β → σ → Outcome ε σ} {bs : List β} (h : ∀ b ∈ bs, act b = act' b)
    (s : σ) : walk act bs s = walk act' bs s := by
  induction bs generalizing s with
  | nil => rfl
  | cons b bs ih =>
    rw [walk, walk, h b (.head _)]
    rcases act' b s with ⟨t, _ | e⟩
    · exact ih (fun c hc => h c (.tail _ hc)) t
    · rfl

end Outcome

lemma lastOf_rel {α : Type} {key : α → String} {R : α → α → Prop} (hR : ∀ a b, R a b → key a = key b)
    {as bs : List α} (h : List.Forall₂ R as bs) (k : String) :
    Option.Rel R (lastOf key as k) (lastOf key bs k) := by
  have hfilter : List.Forall₂ R (as.filter fun a => key a == k) (bs.filter fun b => key b == k) :=
    List.rel_filter (fun a b hab => by simp [hR a b hab]) h
  have hhead {as bs : List α} (h : List.Forall₂ R as bs) : Option.Rel R as.head? bs.head? := by
    cases h with
    | nil => exact .none
    | cons hab _ => exact .some hab
  rw [lastOf, lastOf, List.getLast?_eq_head?_reverse, List.getLast?_eq_head?_reverse]
  exact hhead (List.forall₂_reverse_iff.2 hfilter)

namespace Table
variable {t : Table} {d d' : t.Row}

lemma equals_congr (h : ∀ i ∈ t.compared, get d i = get d' i) (stored : t.Row) :
    t.policy.equals stored d = t.policy.equals stored d' := by
  rw [Bool.eq_iff_iff, policy_equals_iff, policy_equals_iff]
  exact forall₂_congr fun i hi => by rw [h i hi]

lemma merge_congr (h : ∀ i ∈ t.compared, get d i = get d' i) (stored : t.Row) :
    t.policy.merge stored d = t.policy.merge stored d' :=
  Outcome.walk_congr (fun i hi => by rw [h i hi]) stored

end Table

namespace Schema

/-- Rows of one key that agree in all compared slots. -/
def Alike (schema : Schema) (d d' : schema.table.Row) : Prop :=
  schema.key d = schema.key d' ∧ ∀ i ∈ schema.table.compared, Table.get d i = Table.get d' i

end Schema

/-- Writes that may differ in the ignored slots of a row that is inserted. -/
inductive Write.Alike (schema : Schema) : Write schema.table.Row → Write schema.table.Row → Prop
  | insert {d d'} (h : schema.Alike d d') : Alike schema (.insert d) (.insert d')
  | update (row) : Alike schema (.update row) (.update row)
  | delete (row) : Alike schema (.delete row) (.delete row)

/-- Steps that differ in their writes at most. -/
inductive Step.Alike (schema : Schema) : Step schema.table.Row → Step schema.table.Row → Prop
  | write (phase key) {w w'} (h : w.Alike schema w') :
    Alike schema ⟨phase, key, .ok w⟩ ⟨phase, key, .ok w'⟩
  | unmerged (phase key e) : Alike schema ⟨phase, key, .error e⟩ ⟨phase, key, .error e⟩

section
variable {schema : Schema} {stored desired desired' : String → Option schema.table.Row} {k : String}

/-- A key has alike steps, or none, where its desired rows are alike. -/
lemma pending_rel (h : Option.Rel schema.Alike (desired k) (desired' k)) (phase : Phase) :
    Option.Rel (Step.Alike schema) (pending schema.table.policy stored desired phase k)
      (pending schema.table.policy stored desired' phase k) := by
  rw [pending, pending]
  generalize desired k = d? at h
  generalize desired' k = d?' at h
  cases h with
  | none =>
    cases stored k with
    | none => exact .none
    | some r =>
      cases phase with
      | delete => exact .some (.write _ _ (.delete r))
      | add => exact .none
      | update => exact .none
  | @some d d' hd =>
    cases stored k with
    | none =>
      cases phase with
      | delete => exact .none
      | add => exact .some (.write _ _ (.insert hd))
      | update => exact .none
    | some r =>
      cases phase with
      | delete => exact .none
      | add => exact .none
      | update =>
        -- The two merges are the same.
        simp only [Pairing.ofSides, Option.bind_some, Pairing.step?, Table.equals_congr hd.2 r,
          Table.merge_congr hd.2 r]
        split
        · exact .none
        · rcases schema.table.policy.merge r d' with ⟨row, _ | e⟩
          · exact .some (.write _ _ (.update row))
          · exact .some (.unmerged _ _ e)

lemma script_rel (stored : String → Option schema.table.Row)
    (h : ∀ k, Option.Rel schema.Alike (desired k) (desired' k))
    (keys : Phase → List String) (phases : List Phase) :
    List.Forall₂ (Step.Alike schema) (script schema.table.policy stored desired keys phases)
      (script schema.table.policy stored desired' keys phases) := by
  refine List.rel_flatMap (R := Eq) (List.forall₂_refl _) ?_
  rintro phase _ rfl
  refine List.rel_filterMap (R := Eq) ?_ (List.forall₂_refl _)
  rintro k _ rfl
  exact pending_rel (h k) phase

lemma writtenKey_ofSides_eq {d? d?' : Option schema.table.Row} (h : Option.Rel schema.Alike d? d?')
    (r? : Option schema.table.Row) :
    (Pairing.ofSides r? d?).map (Pairing.writtenKey schema.kind schema.table.policy) =
      (Pairing.ofSides r? d?').map (Pairing.writtenKey schema.kind schema.table.policy) := by
  cases h with
  | none => rfl
  | @some d d' hd =>
    cases r? with
    | none => exact congrArg some hd.1
    | some r =>
      simp only [Pairing.ofSides, Option.map_some, Pairing.writtenKey, Table.merge_congr hd.2 r]

end

section
variable {schema : Schema} (stored : List schema.table.Row) {desired desired' : List schema.table.Row}
  (h : List.Forall₂ schema.Alike desired desired')
include h

lemma map_writtenKey_entries_eq :
    (Partition.ofRecords schema.key stored desired).entries.map
        (fun e => (e.1, e.2.writtenKey schema.kind schema.table.policy)) =
      (Partition.ofRecords schema.key stored desired').entries.map
        (fun e => (e.1, e.2.writtenKey schema.kind schema.table.policy)) := by
  refine Entries.Ascending.map_eq (Partition.ofRecords schema.key stored desired).ascending
    (Partition.ofRecords schema.key stored desired').ascending fun k => ?_
  have hget := writtenKey_ofSides_eq (lastOf_rel (fun _ _ hd => hd.1) h k) (lastOf schema.key stored k)
  rwa [← Partition.get?_ofRecords, ← Partition.get?_ofRecords] at hget

lemma keys_ofRecords_eq : (Partition.ofRecords schema.key stored desired).keys =
    (Partition.ofRecords schema.key stored desired').keys := by
  simpa [KeyMap.keys, Function.comp_def] using
    congrArg (List.map Prod.fst) (map_writtenKey_entries_eq stored h)

lemma map_key_writeOrder_eq :
    ((Partition.ofRecords schema.key stored desired).writeOrder schema.kind
        schema.table.policy).map (·.1) =
      ((Partition.ofRecords schema.key stored desired').writeOrder schema.kind
        schema.table.policy).map (·.1) := by
  -- Sorting looks at the keys of the writes alone.
  have hsort (p : Partition schema.table.Row) :
      (p.writeOrder schema.kind schema.table.policy).map
          (fun e => (e.1, e.2.writtenKey schema.kind schema.table.policy)) =
        (p.entries.map fun e => (e.1, e.2.writtenKey schema.kind schema.table.policy)).mergeSort
          fun a b => decide (a.2 ≤ b.2) :=
    List.map_mergeSort fun _ _ _ _ => rfl
  have hwrite := hsort (Partition.ofRecords schema.key stored desired)
  rw [map_writtenKey_entries_eq stored h, ← hsort] at hwrite
  simpa [Function.comp_def] using congrArg (List.map Prod.fst) hwrite

end

namespace Store
variable {schema : Schema} {s t t' : Store schema.table} {w w' : Write schema.table.Row}
  {kept : List JournalEntry}

/-- Whether a slot holds what the desired row brought with it: an ignored slot that is not assigned,
of a row that has been inserted and not written since. -/
def Brought (schema : Schema) (kept : List JournalEntry) (k : String) (i : Fin schema.table.width) :
    Prop :=
  (schema.table.column i).ignored = true ∧ (schema.table.column i).isAssigned = false ∧
    lastOf JournalEntry.key kept k = some ⟨.insert, k⟩

/-- Stores that have come from one store by the same kept writes, and hold the same but for the slots
that desired rows have brought. -/
structure Similar (schema : Schema) (s : Store schema.table) (kept : List JournalEntry)
    (t t' : Store schema.table) : Prop where
  config_eq : t.config = t'.config
  nextId_eq : t.nextId = t'.nextId
  journal_left : t.journal = s.journal ++ kept
  journal_right : t'.journal = s.journal ++ kept
  holds_iff : ∀ k, t.get? k = none ↔ t'.get? k = none
  slot : ∀ k row row', t.get? k = some row → t'.get? k = some row' →
    ∀ i, Table.get row i = Table.get row' i ∨ Brought schema kept k i

lemma similar_self (s : Store schema.table) : Similar schema s [] s s where
  config_eq := rfl
  nextId_eq := rfl
  journal_left := (List.append_nil _).symm
  journal_right := (List.append_nil _).symm
  holds_iff _ := Iff.rfl
  slot k row row' h h' i := .inl (by rw [Option.some_inj.1 (h.symm.trans h')])

/-- Whether a number is rejected, and with what error, does not depend on the row. -/
lemma error?_number_eq {table : Table} (row row' : table.Row) (n : Int64) :
    (number row n).error? = (number row' n).error? := by
  have hassign (i i' : Fin table.width) (m m' : Numbering table) (hi : i = i')
      (hm : m.nextId = m'.nextId) : (m.assign i).error? = (m'.assign i').error? ∧
        (m.assign i).state.nextId = (m'.assign i').state.nextId := by
    subst hi
    simp only [Numbering.assign, Table.write, hm]
    cases (table.column i).accept (.integer m'.nextId) with
    | ok v => exact ⟨rfl, rfl⟩
    | error e => exact ⟨rfl, hm⟩
  have hnext : (Numbering.mk row n).nextId = (Numbering.mk row' n).nextId := rfl
  exact (Outcome.walk_rel (R := fun m m' : Numbering table => m.nextId = m'.nextId) hassign
    (List.forall₂_refl (assigned table)) hnext).1

namespace Similar

lemma contains_eq (h : Similar schema s kept t t') (k : String) :
    t.rows.contains k = t'.rows.contains k := by
  have hholds := h.holds_iff k
  rw [Bool.eq_iff_iff, KeyMap.contains, KeyMap.contains, Option.isSome_iff_ne_none,
    Option.isSome_iff_ne_none]
  exact not_congr hholds

lemma error?_answer_eq (h : Similar schema s kept t t') (hw : w.Alike schema w') :
    ((backend schema).answer w t).error? = ((backend schema).answer w' t').error? := by
  cases hw with
  | @insert d d' hd =>
    have hnumber := error?_number_eq d d' t'.nextId
    simp only [backend, insert, h.config_eq, h.contains_eq, h.nextId_eq, hd.1]
    split
    · rfl
    · rcases hn : number d t'.nextId with ⟨n, _ | e⟩ <;>
        rcases hn' : number d' t'.nextId with ⟨n', _ | e'⟩ <;> rw [hn, hn'] at hnumber
      · rfl
      · cases hnumber
      · cases hnumber
      · cases hnumber
        rfl
  | update row =>
    simp only [backend, update, h.config_eq, h.contains_eq]
    split <;> rfl
  | delete row =>
    simp only [backend, delete, h.config_eq, h.contains_eq]
    split <;> rfl

lemma taken_eq (h : Similar schema s kept t t') (hw : w.Alike schema w') :
    w.taken schema t = w'.taken schema t' := by
  cases hw with
  | insert hd => simp only [Write.taken, h.config_eq, h.contains_eq, h.nextId_eq, hd.1]
  | update row => rfl
  | delete row => rfl

lemma written (h : Similar schema s kept t t') (hw : w.Alike schema w') :
    Similar schema s (kept ++ [⟨w.kind, schema.key w.record⟩]) (written schema w t)
      (written schema w' t') := by
  have hkind : w'.kind = w.kind := by cases hw <;> rfl
  have hkey : schema.key w'.record = schema.key w.record := by
    cases hw with
    | insert hd => exact hd.1.symm
    | update row => rfl
    | delete row => rfl
  have hused : w'.used = w.used := by cases hw <;> rfl
  refine ⟨h.config_eq, ?_, ?_, ?_, fun k => ?_, fun k row row' hrow hrow' i => ?_⟩
  · rw [Store.written, Store.written, h.nextId_eq, hused]
  · rw [Store.written, h.journal_left, List.append_assoc]
  · rw [Store.written, h.journal_right, List.append_assoc, hkind, hkey]
  · rw [get?_written, get?_written, hkey]
    split
    · cases hw <;> simp [Write.filed]
    · exact h.holds_iff k
  · rw [get?_written] at hrow hrow'
    rw [hkey] at hrow'
    rw [Brought, lastOf_concat]
    split at hrow
    · next hk =>
      rw [if_pos hk] at hrow' ⊢
      cases hw with
      | @insert d d' hd =>
        cases hrow
        cases hrow'
        rw [get_numbered, get_numbered, h.nextId_eq]
        split
        · exact .inl rfl
        · next hassigned =>
          cases hignored : (schema.table.column i).ignored with
          | true => exact .inr ⟨rfl, by simpa using hassigned, by rw [← hk]; rfl⟩
          | false => exact .inl (hd.2 i (Table.mem_compared.2 hignored))
      | update row =>
        cases hrow
        cases hrow'
        exact .inl rfl
      | delete row => cases hrow
    · next hk =>
      rw [if_neg hk] at hrow' ⊢
      exact h.slot k row row' hrow hrow' i

theorem answer (h : Similar schema s kept t t') (hw : w.Alike schema w') :
    ((backend schema).answer w t).error? = ((backend schema).answer w' t').error? ∧
      ∃ kept', Similar schema s kept' ((backend schema).answer w t).state
        ((backend schema).answer w' t').state := by
  have herror := h.error?_answer_eq hw
  refine ⟨herror, ?_⟩
  by_cases hkept : ((backend schema).answer w t).error? = none
  · rw [answer_eq_written hkept, answer_eq_written (herror ▸ hkept)]
    exact ⟨_, h.written hw⟩
  · rw [answer_of_refused hkept, answer_of_refused (herror ▸ hkept)]
    exact ⟨kept, { h with nextId_eq := by rw [h.nextId_eq, h.taken_eq hw] }⟩

end Similar

/-- Runs that have come equally far: they have counted the same writes, into similar stores. -/
def Together (schema : Schema) (s : Store schema.table) (p p' : Progress (Store schema.table)) :
    Prop :=
  p.counts = p'.counts ∧ ∃ kept, Similar schema s kept p.state p'.state

namespace Together
variable {p p' : Progress (Store schema.table)}

lemma take (h : Together schema s p p') {step step' : Step schema.table.Row}
    (hstep : step.Alike schema step') :
    (step.take (backend schema) p).error? = (step'.take (backend schema) p').error? ∧
      Together schema s (step.take (backend schema) p).state
        (step'.take (backend schema) p').state := by
  obtain ⟨hcounts, kept, hsimilar⟩ := h
  cases hstep with
  | unmerged phase key e => exact ⟨rfl, hcounts, kept, hsimilar⟩
  | @write phase key w w' hw =>
    obtain ⟨herror, hsimilar⟩ := hsimilar.answer hw
    simp only [Step.take, Progress.issue, ← herror]
    cases ((backend schema).answer w p.state).error? with
    | none => exact ⟨rfl, congrArg (Counts.bump · phase) hcounts, hsimilar⟩
    | some e => exact ⟨rfl, hcounts, hsimilar⟩

theorem walk (h : Together schema s p p') {steps steps' : List (Step schema.table.Row)}
    (hsteps : List.Forall₂ (Step.Alike schema) steps steps') :
    (Outcome.walk (Step.take (backend schema)) steps p).error? =
        (Outcome.walk (Step.take (backend schema)) steps' p').error? ∧
      Together schema s (Outcome.walk (Step.take (backend schema)) steps p).state
        (Outcome.walk (Step.take (backend schema)) steps' p').state :=
  Outcome.walk_rel (fun _ _ _ _ hstep h => h.take hstep) hsteps h

end Together

/-- Two runs into one store, of which no more can be told apart than the slots that hold what desired
rows have brought. -/
structure EndAlike (schema : Schema) (s : Store schema.table)
    (out out' : Performed schema.table.Row StoreError (Store schema.table) Unit) : Prop where
  result_eq : out.result = out'.result
  counts_eq : out.collection.counts = out'.collection.counts
  journal_eq : out.collection.state.journal = out'.collection.state.journal
  nextId_eq : out.collection.state.nextId = out'.collection.state.nextId
  holds_iff : ∀ k, out.collection.state.get? k = none ↔ out'.collection.state.get? k = none
  slot : ∃ kept, out.collection.state.journal = s.journal ++ kept ∧
    ∀ k row row', out.collection.state.get? k = some row → out'.collection.state.get? k = some row' →
      ∀ i, Table.get row i = Table.get row' i ∨ Brought schema kept k i

section
variable {desired desired' : List schema.table.Row}

lemma performIn_eq_walk_take (op : Operation) (s : Store schema.table)
    (stored : List schema.table.Row) {order : Partition schema.table.Row → Phase →
      Entries (Pairing schema.table.Row)}
    (horder : ∀ phase, order (Partition.ofRecords schema.key stored desired) phase ⊆
      (Partition.ofRecords schema.key stored desired).entries) :
    let p := Partition.ofRecords schema.key stored desired
    let steps := script schema.table.policy (lastOf schema.key stored) (lastOf schema.key desired)
      (fun phase => (order p phase).map (·.1)) op.phases
    let run := Outcome.walk (Step.take (backend schema)) steps
      ⟨s, {}, [Collection.partitionEvent schema.kind p]⟩
    let out := (Collection.ofRecords stored s none).performIn order schema.kind (backend schema) op
      { pending := desired }
    out.result = run.error?.elim (.ok ()) .error ∧ out.collection.state = run.state.state ∧
      out.collection.counts = run.state.counts := by
  intro p steps run out
  have hrun : Progress.runAll (backend schema) schema.table.policy (order p) op.phases
      ⟨s, {}, [Collection.partitionEvent schema.kind p]⟩ = run :=
    Progress.runAll_eq_walk (backend schema) schema.table.policy horder op.phases _
  rw [← hrun]
  exact Collection.performIn_of_not_drained order schema.kind (backend schema) op
    (c := Collection.ofRecords stored s none) rfl { pending := desired }

/-- Runs that come to the same keys in the same order, with alike desired rows. -/
theorem endAlike_of_map_key_eq (op : Operation) (s : Store schema.table)
    (stored : List schema.table.Row) (h : List.Forall₂ schema.Alike desired desired')
    {order : Partition schema.table.Row → Phase → Entries (Pairing schema.table.Row)}
    (horder : ∀ p phase, order p phase ⊆ p.entries)
    (hkeys : ∀ phase, (order (Partition.ofRecords schema.key stored desired) phase).map (·.1) =
      (order (Partition.ofRecords schema.key stored desired') phase).map (·.1)) :
    EndAlike schema s
      ((Collection.ofRecords stored s none).performIn order schema.kind (backend schema) op
        { pending := desired })
      ((Collection.ofRecords stored s none).performIn order schema.kind (backend schema) op
        { pending := desired' }) := by
  obtain ⟨hresult, hstate, hcounts⟩ := performIn_eq_walk_take op s stored
    (horder (Partition.ofRecords schema.key stored desired))
  obtain ⟨hresult', hstate', hcounts'⟩ := performIn_eq_walk_take op s stored
    (horder (Partition.ofRecords schema.key stored desired'))
  have hsteps := script_rel (lastOf schema.key stored) (lastOf_rel (fun _ _ hd => hd.1) h)
    (fun phase => (order (Partition.ofRecords schema.key stored desired) phase).map (·.1)) op.phases
  rw [← funext hkeys] at hresult' hstate' hcounts'
  -- Both runs start from the one store.
  have hstart (told told' : List Event) : Together schema s ⟨s, {}, told⟩ ⟨s, {}, told'⟩ :=
    ⟨rfl, [], similar_self s⟩
  obtain ⟨herror, hsame, kept, hsimilar⟩ := (hstart _ _).walk hsteps
  rw [← hstate, ← hstate'] at hsimilar
  exact {
    result_eq := by rw [hresult, hresult', herror]
    counts_eq := by rw [hcounts, hcounts', hsame]
    journal_eq := hsimilar.journal_left.trans hsimilar.journal_right.symm
    nextId_eq := hsimilar.nextId_eq
    holds_iff := hsimilar.holds_iff
    slot := ⟨kept, hsimilar.journal_left, hsimilar.slot⟩ }

/-- The writes are issued by the keys that they are filed under. These may be other keys than those of
the partition, but they are the same ones for alike desired rows. -/
theorem endAlike_writeOrder (op : Operation) (s : Store schema.table)
    (stored : List schema.table.Row) (h : List.Forall₂ schema.Alike desired desired') :
    EndAlike schema s
      ((Collection.ofRecords stored s none).perform schema.kind (backend schema) op
        { pending := desired })
      ((Collection.ofRecords stored s none).perform schema.kind (backend schema) op
        { pending := desired' }) :=
  endAlike_of_map_key_eq op s stored h
    (fun p _ => (Partition.writeOrder_perm schema.kind schema.table.policy p).subset)
    fun _ => map_key_writeOrder_eq stored h

/-- Two runs of an operation over the same stored rows, each phase by ascending keys, whose desired rows
agree one by one in their keys and in all compared slots. They end in the same result, with the same
counts, journal and next number, and leave rows under the same keys. The rows agree in every slot, but
for the ignored and not assigned slots of those whose last write was their insertion. -/
theorem performIn_of_alike (op : Operation) (s : Store schema.table)
    (stored : List schema.table.Row) (h : List.Forall₂ schema.Alike desired desired') :
    EndAlike schema s
      ((Collection.ofRecords stored s none).performIn (fun p _ => p.entries) schema.kind
        (backend schema) op { pending := desired })
      ((Collection.ofRecords stored s none).performIn (fun p _ => p.entries) schema.kind
        (backend schema) op { pending := desired' }) :=
  endAlike_of_map_key_eq op s stored h (fun _ _ => List.Subset.refl _)
    fun _ => keys_ofRecords_eq stored h

end

/-- The notes and the numbers of the desired hosts differ. The note gets into the store with the new
host, its number does not, and the host that is merged takes neither. -/
theorem performIn_of_alike_hosts :
    let s := twoHosts { firstId := 7 }
    let filled (name note : String) (number : Int64) (load : Binary64) : hosts.table.Row :=
      #v[.text name, .integer number, .text note, .real load]
    let run (desired : List hosts.table.Row) :=
      (Collection.ofRecords s.list s none).performIn (fun p _ => p.entries) hosts.kind (backend hosts)
        .reconcile { pending := desired }
    let out := run [filled "c" "left" 1 (.ofNat 5), filled "b" "left" 2 (.ofNat 4)]
    let out' := run [filled "c" "right" 3 (.ofNat 5), filled "b" "right" 4 (.ofNat 4)]
    let cells (t : Store hosts.table) (k : String) := (t.get? k).map fun row =>
      [Schema.keyPart (Table.get row ⟨1, by decide⟩), Schema.keyPart (Table.get row ⟨2, by decide⟩)]
    List.Forall₂ hosts.Alike
      [filled "c" "left" 1 (.ofNat 5), filled "b" "left" 2 (.ofNat 4)]
      [filled "c" "right" 3 (.ofNat 5), filled "b" "right" 4 (.ofNat 4)] ∧
    out.result = .ok () ∧ EndAlike hosts s out out' ∧
    cells out.collection.state "c" = some ["9", "left"] ∧
    cells out'.collection.state "c" = some ["9", "right"] ∧
    cells out.collection.state "b" = some ["8", "old"] ∧
    cells out'.collection.state "b" = some ["8", "old"] := by
  intro s filled run out out' cells
  have hcompared : hosts.table.compared = [⟨3, by decide⟩] := by decide +kernel
  have halike (name note note' : String) (number number' : Int64) (load : Binary64) :
      hosts.Alike (filled name note number load) (filled name note' number' load) := by
    refine ⟨rfl, fun i hi => ?_⟩
    rw [hcompared, List.mem_singleton] at hi
    subst hi
    rfl
  have h : List.Forall₂ hosts.Alike
      [filled "c" "left" 1 (.ofNat 5), filled "b" "left" 2 (.ofNat 4)]
      [filled "c" "right" 3 (.ofNat 5), filled "b" "right" 4 (.ofNat 4)] :=
    .cons (halike "c" _ _ _ _ _) (.cons (halike "b" _ _ _ _ _) .nil)
  exact ⟨h, by decide +kernel, performIn_of_alike .reconcile s s.list h, by decide +kernel,
    by decide +kernel, by decide +kernel, by decide +kernel⟩

end Store
end DesiredState
