import DesiredState.Proofs.Schedule

/-! Numbers over whole histories. Whatever operations a store goes through and wherever they stop, a
number is given out once, and a row keeps its numbers, and all else that is left alone, for as long as
it stays. -/
namespace DesiredState

lemma toInt_add_ofNat {n : Int64} {m : Nat} (h : n.toInt + m ≤ Int64.maxValue.toInt) :
    (n + Int64.ofNat m).toInt = n.toInt + m := by
  have hmax : Int64.maxValue.toInt = 9223372036854775807 := rfl
  have hmin : -9223372036854775808 ≤ n.toInt := Int64.le_toInt n
  have hofNat : (Int64.ofNat m).toInt = (m : Int).bmod (2 ^ 64) := Int64.toInt_ofNat'
  rw [Int64.toInt_add, hofNat, Int.add_bmod_bmod]
  exact Int.bmod_eq_of_le (by omega) (by omega)

/-- A write that leaves alone what its key holds in ignored slots: an insertion finds the key free, and
an update puts the ignored slots back. -/
def Write.Respects (schema : Schema) (s : Store schema.table) : Write schema.table.Row → Prop
  | insert row => s.get? (schema.key row) = none
  | update row => ∃ stored, s.get? (schema.key row) = some stored ∧
    ∀ i, (schema.table.column i).ignored = true → Table.get row i = Table.get stored i
  | delete _ => True

namespace Store
variable {schema : Schema} {s t : Store schema.table} {desired : List schema.table.Row}
  {w : Write schema.table.Row} {writes : List (Write schema.table.Row)} {first : Int64}

/-- How many numbers a store gives out for some writes, one after another. -/
def given (schema : Schema) : List (Write schema.table.Row) → Store schema.table → Nat
  | [], _ => 0
  | w :: writes, s => w.taken schema s + given schema writes ((backend schema).answer w s).state

lemma nextId_after (writes : List (Write schema.table.Row)) (s : Store schema.table) :
    ((backend schema).after writes s).nextId = s.nextId + Int64.ofNat (given schema writes s) := by
  induction writes generalizing s with
  | nil => exact (Int64.add_zero s.nextId).symm
  | cons w writes ih =>
    have hrest := ih ((backend schema).answer w s).state
    rw [nextId_answer, Int64.add_assoc, ← Int64.ofNat_add] at hrest
    exact hrest

/-- Each assigned slot holds a number that has been given out, and no two hold the same one. -/
structure Identified (first : Int64) (s : Store schema.table) : Prop where
  first_le : first ≤ s.nextId
  slot : ∀ k row i, s.get? k = some row → (schema.table.column i).isAssigned = true →
    ∃ n, Table.get row i = .integer n ∧ first ≤ n ∧ n < s.nextId
  unique : ∀ k k' row row' i i', s.get? k = some row → s.get? k' = some row' →
    (schema.table.column i).isAssigned = true → (schema.table.column i').isAssigned = true →
    Table.get row i = Table.get row' i' → k = k' ∧ i = i'

lemma identified_empty (config : StoreConfig) :
    (empty config : Store schema.table).Identified config.firstId where
  first_le := Int64.le_refl _
  slot _ _ _ h := nomatch h
  unique _ _ _ _ _ _ h := nomatch h

/-- Nothing is lost where each row has the numbers of a row that was there under its key. -/
lemma Identified.of_slots (h : s.Identified first) (hnext : s.nextId ≤ t.nextId)
    (hslots : ∀ k row, t.get? k = some row → ∃ stored, s.get? k = some stored ∧
      ∀ i, (schema.table.column i).isAssigned = true → Table.get row i = Table.get stored i) :
    t.Identified first where
  first_le := Int64.le_trans h.first_le hnext
  slot k row i hrow hi := by
    obtain ⟨stored, hstored, hsame⟩ := hslots k row hrow
    obtain ⟨n, hn, hfirst, hlt⟩ := h.slot k stored i hstored hi
    exact ⟨n, (hsame i hi).trans hn, hfirst, Int64.lt_of_lt_of_le hlt hnext⟩
  unique k k' row row' i i' hrow hrow' hi hi' heq := by
    obtain ⟨stored, hstored, hsame⟩ := hslots k row hrow
    obtain ⟨stored', hstored', hsame'⟩ := hslots k' row' hrow'
    rw [hsame i hi, hsame' i' hi'] at heq
    exact h.unique k k' stored stored' i i' hstored hstored' hi hi' heq

lemma exists_number {n : Int64} (hroom : n.toInt + span schema.table ≤ Int64.maxValue.toInt)
    (row : schema.table.Row) {i : Fin schema.table.width}
    (hi : (schema.table.column i).isAssigned = true) :
    ∃ m, Table.get (numbered row n) i = .integer m ∧
      m.toInt = n.toInt + (assigned schema.table).idxOf i ∧
      (assigned schema.table).idxOf i < span schema.table := by
  have hidx : (assigned schema.table).idxOf i < span schema.table :=
    List.idxOf_lt_length_iff.2 (mem_assigned.2 hi)
  refine ⟨n + Int64.ofNat ((assigned schema.table).idxOf i), ?_, toInt_add_ofNat ?_, hidx⟩
  · rw [get_numbered, if_pos hi]
  · omega

lemma Identified.of_insert (h : s.Identified first)
    (hroom : s.nextId.toInt + span schema.table ≤ Int64.maxValue.toInt) {k : String}
    {row : schema.table.Row} (hnext : t.nextId = s.nextId + Int64.ofNat (span schema.table))
    (hget : ∀ j, t.get? j = if k = j then some (numbered row s.nextId) else s.get? j) :
    t.Identified first := by
  have hnext' : t.nextId.toInt = s.nextId.toInt + span schema.table := by
    rw [hnext, toInt_add_ofNat hroom]
  have hle : s.nextId ≤ t.nextId := Int64.le_iff_toInt_le.2 (by omega)
  have hrows {j r} (hj : t.get? j = some r) :
      (k = j ∧ numbered row s.nextId = r) ∨ s.get? j = some r := by
    rw [hget] at hj
    split at hj
    · next heq => exact .inl ⟨heq, Option.some_inj.1 hj⟩
    · exact .inr hj
  -- A number that is new comes after all that have been given out.
  have hne {j r i i'} (hold : s.get? j = some r) (hi : (schema.table.column i).isAssigned = true)
      (hi' : (schema.table.column i').isAssigned = true) :
      Table.get (numbered row s.nextId) i ≠ Table.get r i' := by
    obtain ⟨m, hm, hnew, -⟩ := exists_number hroom row hi
    obtain ⟨n, hn, -, hlt⟩ := h.slot j r i' hold hi'
    rw [hm, hn]
    intro heq
    obtain rfl := Value.integer.inj heq
    have := Int64.lt_iff_toInt_lt.1 hlt
    omega
  refine ⟨Int64.le_trans h.first_le hle, fun j r i hj hi => ?_, fun j j' r r' i i' hj hj' hi hi' heq => ?_⟩
  · rcases hrows hj with ⟨rfl, rfl⟩ | hold
    · obtain ⟨m, hm, hnew, hidx⟩ := exists_number hroom row hi
      have hfirst := Int64.le_iff_toInt_le.1 h.first_le
      exact ⟨m, hm, Int64.le_iff_toInt_le.2 (by omega), Int64.lt_iff_toInt_lt.2 (by omega)⟩
    · obtain ⟨n, hn, hfirst, hlt⟩ := h.slot j r i hold hi
      exact ⟨n, hn, hfirst, Int64.lt_of_lt_of_le hlt hle⟩
  · rcases hrows hj with ⟨rfl, rfl⟩ | hold <;> rcases hrows hj' with ⟨rfl, rfl⟩ | hold'
    · obtain ⟨m, hm, hnew, hidx⟩ := exists_number hroom row hi
      obtain ⟨m', hm', hnew', -⟩ := exists_number hroom row hi'
      rw [hm, hm'] at heq
      obtain rfl := Value.integer.inj heq
      have hsame : (assigned schema.table).idxOf i = (assigned schema.table).idxOf i' := by omega
      exact ⟨rfl, (List.idxOf_inj (mem_assigned.2 hi)).1 hsame⟩
    · exact absurd heq (hne hold' hi hi')
    · exact absurd heq.symm (hne hold hi' hi)
    · exact h.unique j j' r r' i i' hold hold' hi hi' heq

/-- A write that respects what is there leaves the numbers in order, whether it is kept or not. -/
theorem Identified.answer (h : s.Identified first) (hw : w.Respects schema s)
    (hroom : s.nextId.toInt + w.taken schema s ≤ Int64.maxValue.toInt) :
    ((backend schema).answer w s).state.Identified first := by
  have hle : s.nextId ≤ ((backend schema).answer w s).state.nextId := by
    rw [nextId_answer, Int64.le_iff_toInt_le, toInt_add_ofNat hroom]
    omega
  by_cases hkept : ((backend schema).answer w s).error? = none
  · have hget := get?_answer w s
    simp only [hkept, true_and] at hget
    cases w with
    | insert row =>
      have htaken := taken_of_kept hkept
      rw [htaken] at hroom
      exact h.of_insert hroom (by rw [nextId_answer, htaken]; rfl) hget
    | update row =>
      obtain ⟨stored, hstored, hsame⟩ := hw
      refine h.of_slots hle fun k row' hrow' => ?_
      rw [hget] at hrow'
      split at hrow'
      · next hk =>
        obtain rfl := Option.some_inj.1 hrow'
        exact ⟨stored, hk ▸ hstored, fun i hi => hsame i (Column.ignored_of_isAssigned hi)⟩
      · exact ⟨row', hrow', fun _ _ => rfl⟩
    | delete row =>
      refine h.of_slots hle fun k row' hrow' => ?_
      rw [hget] at hrow'
      split at hrow'
      · cases hrow'
      · exact ⟨row', hrow', fun _ _ => rfl⟩
  · refine h.of_slots hle fun k row' hrow' => ⟨row', ?_, fun _ _ => rfl⟩
    rw [get?_answer, if_neg fun hboth => hkept hboth.1] at hrow'
    exact hrow'

lemma get_answer_of_respects (hw : w.Respects schema s) {k : String} {row row' : schema.table.Row}
    (hrow : s.get? k = some row) (hrow' : ((backend schema).answer w s).state.get? k = some row')
    {i : Fin schema.table.width} (hi : (schema.table.column i).ignored = true) :
    Table.get row' i = Table.get row i := by
  rw [get?_answer] at hrow'
  split at hrow'
  · next hkept =>
    obtain ⟨-, rfl⟩ := hkept
    cases w with
    | insert row => exact absurd (hrow.symm.trans hw) (Option.some_ne_none _)
    | update row =>
      obtain ⟨stored, hstored, hsame⟩ := hw
      obtain rfl := Option.some_inj.1 hrow'
      obtain rfl := Option.some_inj.1 (hstored.symm.trans hrow)
      exact hsame i hi
    | delete row => cases hrow'
  · obtain rfl := Option.some_inj.1 (hrow.symm.trans hrow')
    rfl

lemma respects_of_get?_eq {s t : Store schema.table} (hw : w.Respects schema s)
    (h : t.get? (schema.key w.record) = s.get? (schema.key w.record)) : w.Respects schema t := by
  cases w with
  | insert row => exact h.trans hw
  | update row =>
    obtain ⟨stored, hstored, hsame⟩ := hw
    exact ⟨stored, h.trans hstored, hsame⟩
  | delete row => trivial

/-- Writes that respect what is there, no two of them for one key. -/
structure Respectful (schema : Schema) (s : Store schema.table)
    (writes : List (Write schema.table.Row)) : Prop where
  nodup : (writes.map fun w => schema.key w.record).Nodup
  respects : ∀ w ∈ writes, w.Respects schema s

lemma Respectful.tail (h : Respectful schema s (w :: writes)) :
    Respectful schema ((backend schema).answer w s).state writes := by
  obtain ⟨hnodup, hrespects⟩ := h
  rw [List.map_cons, List.nodup_cons] at hnodup
  refine ⟨hnodup.2, fun w' hw' => ?_⟩
  refine respects_of_get?_eq (hrespects w' (.tail _ hw')) (get?_answer_of_ne fun heq => hnodup.1 ?_)
  exact List.mem_map.2 ⟨w', hw', heq.symm⟩

theorem Identified.after (h : s.Identified first) (hwrites : Respectful schema s writes)
    (hroom : s.nextId.toInt + given schema writes s ≤ Int64.maxValue.toInt) :
    ((backend schema).after writes s).Identified first := by
  induction writes generalizing s with
  | nil => exact h
  | cons w writes ih =>
    rw [given] at hroom
    have hroom_first : s.nextId.toInt + w.taken schema s ≤ Int64.maxValue.toInt := by omega
    refine ih (h.answer (hwrites.respects w (.head _)) hroom_first) hwrites.tail ?_
    rw [nextId_answer, toInt_add_ofNat hroom_first, Int.add_assoc, ← Int.natCast_add]
    exact hroom

theorem Respectful.get_after (hwrites : Respectful schema s writes) {k : String}
    {row row' : schema.table.Row} (hrow : s.get? k = some row)
    (hrow' : ((backend schema).after writes s).get? k = some row') {i : Fin schema.table.width}
    (hi : (schema.table.column i).ignored = true) : Table.get row' i = Table.get row i := by
  induction writes generalizing s with
  | nil =>
    obtain rfl := Option.some_inj.1 (hrow.symm.trans hrow')
    rfl
  | cons w writes ih =>
    by_cases hk : schema.key w.record = k
    · -- The first write is the only one for the key.
      have hrest : k ∉ writes.map fun w => schema.key w.record := by
        rw [← hk]
        exact (List.nodup_cons.1 hwrites.nodup).1
      refine get_answer_of_respects (hwrites.respects w (.head _)) hrow ?_ hi
      rw [← get?_after_of_notMem hrest]
      exact hrow'
    · exact ih hwrites.tail ((get?_answer_of_ne hk).trans hrow) hrow'

/-- The write that a key has to have respects what is there. -/
lemma respects_of_pending (hkey : schema.KeyKept) (hfiled : s.Filed schema) {phase : Phase}
    {k : String} {step : Step schema.table.Row}
    (h : pending schema.table.policy s.get? (lastOf schema.key desired) phase k = some step)
    (hw : step.call = .ok w) : w.Respects schema s := by
  have hk : schema.key w.record = k :=
    (fits_of_pending hkey hfiled h w hw).2.trans (phase_and_key_of_pending h).2
  cases phase with
  | delete =>
    obtain ⟨row, -, -, rfl⟩ := pending_delete_iff.1 h
    cases hw
    trivial
  | add =>
    obtain ⟨d, hnone, -, rfl⟩ := pending_add_iff.1 h
    cases hw
    rw [← hk] at hnone
    exact hnone
  | update =>
    obtain ⟨stored, d, hstored, -, -, rfl⟩ := pending_update_iff.1 h
    obtain ⟨merged, hmerge, rfl⟩ := Outcome.toExcept_map_eq_ok_iff.1 hw
    obtain ⟨-, rfl⟩ := Table.merge_eq_done_iff.1 hmerge
    refine ⟨stored, hk ▸ hstored, fun i hi => ?_⟩
    rw [Table.get_overlay, if_pos hi]

lemma map_key_filterMap_call_sublist {steps : List (Step schema.table.Row)}
    (hfits : ∀ step ∈ steps, step.Fits schema) :
    ((steps.filterMap (·.call.toOption)).map fun w => schema.key w.record).Sublist
      (steps.map Step.key) := by
  induction steps with
  | nil => exact List.Sublist.refl _
  | cons step steps ih =>
    have hrest := ih fun st hst => hfits st (.tail _ hst)
    cases hcall : step.call with
    | error e =>
      rw [List.filterMap_cons_none (by rw [hcall]; rfl)]
      exact hrest.cons _
    | ok w =>
      rw [List.filterMap_cons_some (b := w) (by rw [hcall]; rfl), List.map_cons, List.map_cons,
        (hfits step (.head _) w hcall).2]
      exact hrest.cons_cons _

def requests (schema : Schema) (op : Operation)
    (order : Phase → Entries (Pairing schema.table.Row)) (s : Store schema.table)
    (desired : List schema.table.Row) : List (Write schema.table.Row) :=
  ((Collection.ofRecords s.list (Backend.Observed.mk [] s) none).performIn (fun _ => order)
    schema.kind (backend schema).observed op { pending := desired }).collection.state.calls.map (·.1)

/-- Whether the numbers that an operation gives out, to rows that are kept and to others, stay in
range. -/
def HasRoom (schema : Schema) (op : Operation)
    (order : Phase → Entries (Pairing schema.table.Row)) (s : Store schema.table)
    (desired : List schema.table.Row) : Prop :=
  s.nextId.toInt + given schema (s.requests schema op order desired) s ≤ Int64.maxValue.toInt

instance (op : Operation) (order : Phase → Entries (Pairing schema.table.Row)) :
    Decidable (s.HasRoom schema op order desired) := inferInstanceAs (Decidable (_ ≤ _))

section
variable {op : Operation} {order : Phase → Entries (Pairing schema.table.Row)}
  (hfiled : s.Filed schema) (horder : s.Enumerates schema desired order)
include hfiled horder

lemma requests_eq_asked : s.requests schema op order desired = Step.asked (backend schema)
    (s.schedule schema (orderKeys order) op.phases desired) s := by
  obtain ⟨-, hstate, -⟩ :=
    performIn_eq_walk_schedule hfiled horder (backend schema).observed op ⟨[], s⟩
  rw [requests, hstate, Step.map_calls_walk_observed]
  rfl

lemma state_operate_eq_after : (s.operate schema op order desired).collection.state =
    (backend schema).after (s.requests schema op order desired) s := by
  obtain ⟨-, hstate, -⟩ := performIn_eq_walk_schedule hfiled horder (backend schema) op s
  rw [operate, hstate, Step.state_walk_eq_after, requests_eq_asked hfiled horder]

lemma respectful_requests (hkey : schema.KeyKept) :
    Respectful schema s (s.requests schema op order desired) := by
  have hphases : op.phases.Nodup := by cases op <;> decide
  have hkeys := horder.keys_perm
  rw [requests_eq_asked hfiled horder]
  have hsub := Step.asked_sublist (backend schema)
    (s.schedule schema (orderKeys order) op.phases desired) s
  refine ⟨(nodup_keys_schedule hkeys hphases).sublist ((hsub.map _).trans ?_), fun w hw => ?_⟩
  · exact map_key_filterMap_call_sublist fun _ => fits_of_mem_schedule hkey hfiled hkeys
  · obtain ⟨step, hstep, hsome⟩ := List.mem_filterMap.1 (hsub.subset hw)
    have hpending := ((mem_schedule hfiled hkeys).1 hstep).2
    cases hcall : step.call with
    | error e =>
      rw [hcall] at hsome
      cases hsome
    | ok w' =>
      rw [hcall] at hsome
      cases hsome
      exact respects_of_pending hkey hfiled hpending hcall

end

/-- The stores that come about by operations of new collections, one after another, each with desired
rows and an order of the keys of its own, and each successful or not. -/
inductive Reached (schema : Schema) (config : StoreConfig) : Store schema.table → Prop
  | empty : Reached schema config (empty config)
  | operate {s op order desired} (reached : Reached schema config s)
    (horder : s.Enumerates schema desired order) (hroom : s.HasRoom schema op order desired) :
    Reached schema config (s.operate schema op order desired).collection.state

lemma Reached.filed (hkey : schema.KeyKept) {config : StoreConfig} (h : Reached schema config s) :
    s.Filed schema := by
  induction h with
  | empty => exact filed_empty
  | operate _ horder _ ih =>
    rw [state_operate_eq_after ih horder]
    exact ih.after hkey.unassigned _

lemma Reached.identified (hkey : schema.KeyKept) {config : StoreConfig}
    (h : Reached schema config s) : s.Identified config.firstId := by
  induction h with
  | empty => exact identified_empty config
  | operate reached horder hroom ih =>
    have hfiled := reached.filed hkey
    rw [state_operate_eq_after hfiled horder]
    exact ih.after (respectful_requests hfiled horder hkey) hroom

/-- In every store that is reached from an empty one, each assigned slot holds a number that has been
given out, and no other slot holds the same one. An operation on such a store never moves the next
number back, and changes no ignored slot of a row that stays. -/
theorem identity_of_reached (hkey : schema.KeyKept) {config : StoreConfig}
    (h : Reached schema config s) :
    (∀ k row i, s.get? k = some row → (schema.table.column i).isAssigned = true →
      ∃ n, Table.get row i = .integer n ∧ config.firstId ≤ n ∧ n < s.nextId) ∧
    (∀ k k' row row' i i', s.get? k = some row → s.get? k' = some row' →
      (schema.table.column i).isAssigned = true → (schema.table.column i').isAssigned = true →
      Table.get row i = Table.get row' i' → k = k' ∧ i = i') ∧
    ∀ op order desired, s.Enumerates schema desired order → s.HasRoom schema op order desired →
      let t := (s.operate schema op order desired).collection.state
      s.nextId ≤ t.nextId ∧ ∀ k row row', s.get? k = some row → t.get? k = some row' →
        ∀ i, (schema.table.column i).ignored = true → Table.get row' i = Table.get row i := by
  have hidentified := h.identified hkey
  have hfiled := h.filed hkey
  refine ⟨hidentified.slot, hidentified.unique, fun op order desired horder hroom => ?_⟩
  intro t
  have ht : t = (backend schema).after (s.requests schema op order desired) s :=
    state_operate_eq_after hfiled horder
  rw [ht]
  refine ⟨?_, fun k row row' hrow hrow' i hi =>
    (respectful_requests hfiled horder hkey).get_after hrow hrow' hi⟩
  rw [nextId_after, Int64.le_iff_toInt_le, toInt_add_ofNat hroom]
  omega

/-- A host goes, another one comes, and then an update stops at a load that is none, after another host
has been updated. -/
theorem identity_of_reached_hosts :
    let order (s : Store hosts.table) (desired : List hosts.table.Row) (_ : Phase) :=
      (Partition.ofRecords hosts.key s.list desired).entries
    let run (s : Store hosts.table) (op : Operation) (desired : List hosts.table.Row) :=
      s.operate hosts op (order s desired) desired
    let added := (run (empty { firstId := 7 }) .add
      [host "a" "old" (.ofNat 1), host "b" "old" (.ofNat 2)]).collection.state
    let s := (run added .reconcile
      [host "b" "new" (.ofNat 3), host "c" "new" (.ofNat 4)]).collection.state
    let desired := [host "b" "late" (.ofNat 5), #v[.text "c", .null, .null, .text "none"]]
    let out := s.operate hosts .update (order s desired) desired
    let t := out.collection.state
    hosts.KeyKept ∧ Reached hosts { firstId := 7 } s ∧
    s.Enumerates hosts desired (order s desired) ∧ s.HasRoom hosts .update (order s desired) desired ∧
    out.result ≠ .ok () ∧ out.collection.counts = ⟨0, 1, 0⟩ ∧ s.nextId = 10 ∧
    (∀ k row i, s.get? k = some row → (hosts.table.column i).isAssigned = true →
      ∃ n, Table.get row i = .integer n ∧ 7 ≤ n ∧ n < 10) ∧
    (∀ k row row', s.get? k = some row → t.get? k = some row' →
      ∀ i, (hosts.table.column i).ignored = true → Table.get row' i = Table.get row i) := by
  intro order run added s desired out t
  have henumerates (u : Store hosts.table) (rows : List hosts.table.Row) :
      u.Enumerates hosts rows (order u rows) := fun _ => .refl _
  have hadded : Reached hosts { firstId := 7 } added :=
    Reached.empty.operate (henumerates _ _) (by decide +kernel)
  have hreached : Reached hosts { firstId := 7 } s :=
    hadded.operate (henumerates _ _) (by decide +kernel)
  have hroom : s.HasRoom hosts .update (order s desired) desired := by decide +kernel
  have hnext : s.nextId = 10 := by decide +kernel
  obtain ⟨hslot, -, hoperation⟩ := identity_of_reached keyKept_hosts hreached
  obtain ⟨-, hsame⟩ := hoperation .update _ desired (henumerates s desired) hroom
  rw [hnext] at hslot
  subst t out
  refine ⟨keyKept_hosts, hreached, henumerates s desired, hroom, ?_, ?_, hnext, hslot, hsame⟩
  · decide +kernel
  · decide +kernel

end Store
end DesiredState
