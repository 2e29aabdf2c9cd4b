import DesiredState.Proofs.Attained

/-! Reconciling in two orders of the keys. How many rows are new decides which numbers are given out,
and what the policy makes of a key depends on no other key; so the order decides nothing but which of
the new rows gets which of the numbers. -/
namespace DesiredState
namespace Store
variable {schema : Schema} {s t : Store schema.table} {desired : List schema.table.Row}

/-- The values in the assigned slots of the rows that are filed under some keys. -/
def numbersUnder (schema : Schema) (keys : List String) (t : Store schema.table) : Set Value :=
  {v | ∃ k ∈ keys, ∃ row i, t.get? k = some row ∧ (schema.table.column i).isAssigned = true ∧
    Table.get row i = v}

def journalOf (deleted added updated : List String) : List JournalEntry :=
  deleted.map (JournalEntry.mk .delete) ++ added.map (JournalEntry.mk .insert) ++
    updated.map (JournalEntry.mk .update)

lemma Attained.journal_eq_append {deleted added updated : List String}
    (h : Attained schema s desired deleted added updated t) :
    t.journal = s.journal ++ journalOf deleted added updated := by
  rw [h.journal_eq, journalOf, List.append_assoc, List.append_assoc, List.append_assoc]

/-- The new rows share out the numbers that have been given out. -/
lemma Attained.numbersUnder_eq {deleted added updated : List String}
    (h : Attained schema s desired deleted added updated t) :
    numbersUnder schema added t =
      {v | ∃ m < added.length * span schema.table, v = .integer (s.nextId + Int64.ofNat m)} := by
  have hrow {j : Nat} {k : String} (hj : added[j]? = some k) :
      ∃ d, t.get? k = some (numbered d (s.nextId + Int64.ofNat (j * span schema.table))) := by
    obtain ⟨-, hdesired⟩ := (h.mem_added k).1 (List.mem_of_getElem? hj)
    obtain ⟨d, hd⟩ := exists_lastOf_iff.2 hdesired
    exact ⟨d, h.added_row j k d hj hd⟩
  have hslot (d : schema.table.Row) (j : Nat) {i : Fin schema.table.width}
      (hi : (schema.table.column i).isAssigned = true) :
      Table.get (numbered d (s.nextId + Int64.ofNat (j * span schema.table))) i =
        .integer (s.nextId + Int64.ofNat
          (j * span schema.table + (assigned schema.table).idxOf i)) := by
    rw [get_numbered, if_pos hi, Int64.ofNat_add, Int64.add_assoc]
  ext v
  constructor
  · rintro ⟨k, hk, row, i, hget, hi, rfl⟩
    obtain ⟨j, hj⟩ := List.mem_iff_getElem?.1 hk
    obtain ⟨d, hd⟩ := hrow hj
    obtain rfl : row = _ := Option.some_inj.1 (hget.symm.trans hd)
    refine ⟨_, ?_, hslot d j hi⟩
    have hidx : (assigned schema.table).idxOf i < span schema.table :=
      List.idxOf_lt_length_iff.2 (mem_assigned.2 hi)
    have hlt : j + 1 ≤ added.length := (List.getElem?_eq_some_iff.1 hj).1
    calc j * span schema.table + (assigned schema.table).idxOf i
        < (j + 1) * span schema.table := by rw [Nat.succ_mul]; omega
      _ ≤ added.length * span schema.table := Nat.mul_le_mul_right _ hlt
  · -- The new rows take equal shares, so quotient and remainder are the row and the column.
    rintro ⟨m, hm, rfl⟩
    have hspan : 0 < span schema.table := Nat.pos_of_mul_pos_left (Nat.zero_lt_of_lt hm)
    have hj : m / span schema.table < added.length := Nat.div_lt_of_lt_mul (by rwa [Nat.mul_comm])
    have hi : m % span schema.table < (assigned schema.table).length := Nat.mod_lt m hspan
    obtain ⟨d, hd⟩ := hrow (List.getElem?_eq_getElem hj)
    have hassigned : (schema.table.column (assigned schema.table)[m % span schema.table]).isAssigned =
        true := mem_assigned.1 (List.getElem_mem hi)
    refine ⟨_, List.getElem_mem hj, _, _, hd, hassigned, ?_⟩
    rw [hslot d _ hassigned, nodup_assigned.idxOf_getElem, Nat.mul_comm,
      Nat.div_add_mod]

lemma Attained.get?_eq {deleted added updated deleted' added' updated' : List String}
    {t' : Store schema.table} (h : Attained schema s desired deleted added updated t)
    (h' : Attained schema s desired deleted' added' updated' t') {k : String} (hk : k ∉ added) :
    t.get? k = t'.get? k := by
  by_cases hdesired : k ∈ desired.map schema.key
  · obtain ⟨d, hd⟩ := exists_lastOf_iff.2 hdesired
    obtain ⟨r, hr⟩ := Option.ne_none_iff_exists'.1 fun hnone => hk ((h.mem_added k).2 ⟨hnone, hdesired⟩)
    rw [h.stored_row k r d hr hd, h'.stored_row k r d hr hd]
  · rw [not_not.1 (mt (h.holds_iff k).1 hdesired), not_not.1 (mt (h'.holds_iff k).1 hdesired)]

lemma Attained.exists_rows {deleted added updated deleted' added' updated' : List String}
    {t' : Store schema.table} (h : Attained schema s desired deleted added updated t)
    (h' : Attained schema s desired deleted' added' updated' t') {k : String} (hk : k ∈ added) :
    ∃ row row', t.get? k = some row ∧ t'.get? k = some row' ∧
      ∀ i, (schema.table.column i).isAssigned = false → Table.get row i = Table.get row' i := by
  have hnew := (h.mem_added k).1 hk
  obtain ⟨d, hd⟩ := exists_lastOf_iff.2 hnew.2
  obtain ⟨j, hj⟩ := List.mem_iff_getElem?.1 hk
  obtain ⟨j', hj'⟩ := List.mem_iff_getElem?.1 ((h'.mem_added k).2 hnew)
  refine ⟨_, _, h.added_row j k d hj hd, h'.added_row j' k d hj' hd, fun i hi => ?_⟩
  rw [get_numbered, get_numbered, hi]
  rfl

lemma phase?_eq_of_failed (hkey : schema.KeyKept) (hfiled : s.Filed schema)
    {keys keys' : Phase → List String} (hkeys : ∀ phase, (keys phase).Perm (s.keys schema desired))
    (hkeys' : ∀ phase, (keys' phase).Perm (s.keys schema desired)) {e e' : ReconcileError StoreError}
    (h : (Outcome.walk (Step.attempt (backend schema))
      (s.schedule schema keys Operation.reconcile.phases desired) s).error? = some e)
    (h' : (Outcome.walk (Step.attempt (backend schema))
      (s.schedule schema keys' Operation.reconcile.phases desired) s).error? = some e') :
    e'.phase? = e.phase? ∧ e.phase? ≠ none := by
  obtain ⟨hadmitted, hrefused⟩ := phase?_of_failed hkey hfiled hkeys h
  obtain ⟨hadmitted', hrefused'⟩ := phase?_of_failed hkey hfiled hkeys' h'
  have hadds : (s.schedule schema keys [.add] desired).length =
      (s.schedule schema keys' [.add] desired).length :=
    (schedule_perm (fun phase => (hkeys phase).trans (hkeys' phase).symm) [.add]).length_eq
  rw [hadds] at hadmitted hrefused
  by_cases hall : ∀ j < (s.schedule schema keys' [.add] desired).length,
    Admits schema.table (s.nextId + Int64.ofNat (j * span schema.table))
  · rw [hadmitted hall, hadmitted' hall]
    exact ⟨rfl, Option.some_ne_none _⟩
  · rw [hrefused hall, hrefused' hall]
    exact ⟨rfl, Option.some_ne_none _⟩

/-- Reconciling in two orders of the keys, which may be different ones in each phase. Both runs succeed,
or both fail in the same phase. Where they succeed, they count the same writes and use up the same
numbers, the journal entries of each phase are the same in another order, and so are the rows, but for
the numbers of the rows that have been inserted; and these are the same numbers altogether. -/
theorem reconcile_order_independent (hkey : schema.KeyKept) (hfiled : s.Filed schema)
    {order order' : Phase → Entries (Pairing schema.table.Row)}
    (horder : s.Enumerates schema desired order) (horder' : s.Enumerates schema desired order') :
    let out := s.operate schema .reconcile order desired
    let out' := s.operate schema .reconcile order' desired
    let t := out.collection.state
    let t' := out'.collection.state
    (out.result = .ok () ↔ out'.result = .ok ()) ∧
    (∀ e, out.result = .error e →
      ∃ e', out'.result = .error e' ∧ e'.phase? = e.phase? ∧ e.phase? ≠ none) ∧
    (out.result = .ok () →
      out.collection.counts = out'.collection.counts ∧ t.nextId = t'.nextId ∧
      ∃ deleted added updated deleted' added' updated' : List String,
        t.journal = s.journal ++ journalOf deleted added updated ∧
        t'.journal = s.journal ++ journalOf deleted' added' updated' ∧
        deleted.Perm deleted' ∧ added.Perm added' ∧ updated.Perm updated' ∧
        (∀ k, k ∉ added → t.get? k = t'.get? k) ∧
        (∀ k ∈ added, ∃ row row', t.get? k = some row ∧ t'.get? k = some row' ∧
          ∀ i, (schema.table.column i).isAssigned = false → Table.get row i = Table.get row' i) ∧
        numbersUnder schema added t = numbersUnder schema added' t') := by
  intro out out' t t'
  have hkeys := horder.keys_perm
  have hkeys' := horder'.keys_perm
  have hperm (phases : List Phase) :
      (s.schedule schema (orderKeys order) phases desired).Perm
        (s.schedule schema (orderKeys order') phases desired) :=
    schedule_perm (fun phase => (hkeys phase).trans (hkeys' phase).symm) phases
  have hok : out.result = .ok () ↔ out'.result = .ok () := by
    rw [operate_eq_ok_iff hfiled horder, operate_eq_ok_iff hfiled horder',
      error?_walk_schedule_iff hkey hfiled hkeys (by decide),
      error?_walk_schedule_iff hkey hfiled hkeys' (by decide), Step.tally_perm (hperm _)]
    refine and_congr_left fun _ => ?_
    simp only [(hperm _).mem_iff]
  refine ⟨hok, fun e he => ?_, fun hdone => ?_⟩
  · obtain ⟨e', he'⟩ : ∃ e', out'.result = .error e' := by
      cases hout' : out'.result with
      | ok => rw [hok.2 hout'] at he; cases he
      | error e' => exact ⟨e', rfl⟩
    exact ⟨e', he', phase?_eq_of_failed hkey hfiled hkeys hkeys'
      ((operate_eq_error_iff hfiled horder .reconcile).1 he)
      ((operate_eq_error_iff hfiled horder' .reconcile).1 he')⟩
  · obtain ⟨hwalk, hcounts⟩ := walk_of_operate hfiled horder hdone
    obtain ⟨hwalk', hcounts'⟩ := walk_of_operate hfiled horder' (hok.1 hdone)
    have ha := attained_of_walk hkey hfiled hkeys hwalk
    have ha' := attained_of_walk hkey hfiled hkeys' hwalk'
    have hsame (phase : Phase) := (hperm [phase]).map Step.key
    refine ⟨by rw [hcounts, hcounts', Step.tally_perm (hperm _)], ?_, _, _, _, _, _, _,
      ha.journal_eq_append, ha'.journal_eq_append, hsame .delete, hsame .add, hsame .update,
      fun k => ha.get?_eq ha', fun k => ha.exists_rows ha', ?_⟩
    · rw [ha.nextId_eq, ha'.nextId_eq, (hsame .add).length_eq]
    · rw [ha.numbersUnder_eq, ha'.numbersUnder_eq, (hsame .add).length_eq]

/-- In ascending and in descending order, the two new hosts have got each other's numbers. -/
theorem reconcile_order_independent_hosts :
    let s := twoHosts { firstId := 7 }
    let desired := [host "d" "new" (.ofNat 3), host "b" "new" (.ofNat 4), host "c" "new" (.ofNat 5)]
    let entries := (Partition.ofRecords hosts.key s.list desired).entries
    let out := s.operate hosts .reconcile (fun _ => entries) desired
    let out' := s.operate hosts .reconcile (fun _ => entries.reverse) desired
    let number (t : Store hosts.table) (k : String) (n : Int64) : Bool :=
      (t.get? k).any fun row => (Table.get row ⟨1, by decide⟩).equals (.integer n)
    hosts.KeyKept ∧ s.Filed hosts ∧ s.Enumerates hosts desired (fun _ => entries) ∧
    s.Enumerates hosts desired (fun _ => entries.reverse) ∧
    out.result = .ok () ∧ out'.result = .ok () ∧
    out.collection.counts = out'.collection.counts ∧
    out.collection.state.nextId = out'.collection.state.nextId ∧
    number out.collection.state "c" 9 ∧ number out'.collection.state "c" 10 := by
  intro s desired entries out out' number
  have hfiled : s.Filed hosts := filed_twoHosts _
  have horder : s.Enumerates hosts desired fun _ => entries := fun _ => .refl _
  have horder' : s.Enumerates hosts desired fun _ => entries.reverse :=
    fun _ => List.reverse_perm _
  have hdone : out.result = .ok () := by decide +kernel
  obtain ⟨hok, -, hsame⟩ := reconcile_order_independent keyKept_hosts hfiled horder horder'
  obtain ⟨hcounts, hnext, -⟩ := hsame hdone
  exact ⟨keyKept_hosts, hfiled, horder, horder', hdone, hok.1 hdone, hcounts, hnext,
    by decide +kernel, by decide +kernel⟩

end Store
end DesiredState
