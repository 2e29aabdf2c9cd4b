import DesiredState.Proofs.FailurePoint
import DesiredState.Proofs.Identity
import DesiredState.Proofs.Snapshot

/-! The numbers that a store hands to its columns, call by call and column by column. A write that is
refused changes nothing but the next number, and that one only where an insertion has stopped at a
column. So the numbers follow one another without a gap, whatever has become of the rows that they were
for. -/
namespace DesiredState

namespace Store
variable {table : Table}

/-- A row that is being given its numbers, behind what has been found in its slots each time that one
of them had been written. -/
structure Watched (table : Table) where
  found : List Value
  inner : Numbering table

/-- Gives a number to one column, and looks into its slot if the column has taken it. -/
def Watched.assign (i : Fin table.width) (n : Watched table) : Outcome SchemaError (Watched table) :=
  match n.inner.assign i with
  | ⟨m, none⟩ => ⟨⟨n.found ++ [Table.get m.row i], m⟩, none⟩
  | ⟨m, some e⟩ => ⟨⟨n.found, m⟩, some e⟩

def numbersFrom (n : Int64) (count : Nat) : List Value :=
  (List.range count).map fun k => .integer (n + Int64.ofNat k)

lemma numbersFrom_add (n : Int64) (j k : Nat) :
    numbersFrom n (j + k) = numbersFrom n j ++ numbersFrom (n + Int64.ofNat j) k := by
  simp [numbersFrom, List.range_add, Function.comp_def, Int64.ofNat_add, Int64.add_assoc]

/-- Watching a row changes nothing about it, and what is found are the numbers that are used up. -/
lemma walk_watched (columns : List (Fin table.width)) (n : Watched table) :
    let out := Outcome.walk Watched.assign columns n
    let unwatched := Outcome.walk Numbering.assign columns n.inner
    out.state.inner = unwatched.state ∧ out.error? = unwatched.error? ∧
      out.state.found = n.found ++ numbersFrom n.inner.nextId (taking table columns n.inner.nextId) := by
  induction columns generalizing n with
  | nil => exact ⟨rfl, rfl, (List.append_nil _).symm⟩
  | cons i columns ih =>
    -- Both go on or stop together, and where they go on the slot holds the number just given.
    rcases hassign : n.inner.assign i with ⟨m, _ | e⟩
    · obtain ⟨haccepts, hm⟩ := assign_eq_done_iff.1 hassign
      have hslot : Table.get m.row i = .integer n.inner.nextId := by
        rw [hm, Table.get_put, if_pos rfl]
      have hwatched : n.assign i = ⟨⟨n.found ++ [.integer n.inner.nextId], m⟩, none⟩ := by
        simp only [Watched.assign, hassign, hslot]
      obtain ⟨hinner, herror, hfound⟩ := ih ⟨n.found ++ [.integer n.inner.nextId], m⟩
      have hnext : m.nextId = n.inner.nextId + Int64.ofNat 1 := by rw [hm]; rfl
      have hfirst : numbersFrom n.inner.nextId 1 = [.integer n.inner.nextId] := by
        simp [numbersFrom]
      rw [Outcome.walk_cons_of_done columns hwatched, Outcome.walk_cons_of_done columns hassign]
      refine ⟨hinner, herror, hfound.trans ?_⟩
      rw [taking, if_pos haccepts, Nat.add_comm, numbersFrom_add, hfirst, ← hnext, hm,
        List.append_assoc]
    · have hrejects : ¬(table.column i).accepts (.integer n.inner.nextId) = true := fun haccepts => by
        rw [assign_eq_done_iff.2 ⟨haccepts, rfl⟩] at hassign
        cases hassign
      have hwatched : n.assign i = ⟨⟨n.found, m⟩, some e⟩ := by rw [Watched.assign, hassign]
      rw [Outcome.walk_cons_of_failed columns hwatched, Outcome.walk_cons_of_failed columns hassign]
      refine ⟨rfl, rfl, ?_⟩
      rw [taking, if_neg hrejects]
      exact (List.append_nil _).symm

end Store

/-- What the assigned columns of a row take for a write, in their order, also if the write is refused in
the end. Each value is read from its slot after it has been written there. -/
def Write.found (schema : Schema) (s : Store schema.table) :
    Write schema.table.Row → List Value
  | insert row =>
    if s.config.strict && s.rows.contains (schema.key row) then []
    else (Outcome.walk Store.Watched.assign (Store.assigned schema.table)
      ⟨[], ⟨row, s.nextId⟩⟩).state.found
  | update _ => []
  | delete _ => []

namespace Store
variable {schema : Schema} {s : Store schema.table} {w : Write schema.table.Row}

lemma found_eq (w : Write schema.table.Row) (s : Store schema.table) :
    w.found schema s = numbersFrom s.nextId (w.taken schema s) := by
  cases w with
  | insert row =>
    rw [Write.found, Write.taken]
    split
    · rfl
    · exact (walk_watched _ _).2.2
  | update row => rfl
  | delete row => rfl

/-- What columns take for the writes among some requests, one after another. -/
def foundBy (schema : Schema) : List (Request schema.table.Row) → Store schema.table → List Value
  | [], _ => []
  | .write w :: requests, s =>
    w.found schema s ++ foundBy schema requests (s.serve schema (.write w))
  | .clearJournal :: requests, s => foundBy schema requests (s.serve schema .clearJournal)

lemma foundBy_eq (requests : List (Request schema.table.Row)) (s : Store schema.table) :
    ∃ count, foundBy schema requests s = numbersFrom s.nextId count ∧
      (requests.foldl (serve schema) s).nextId = s.nextId + Int64.ofNat count := by
  induction requests generalizing s with
  | nil => exact ⟨0, rfl, (Int64.add_zero s.nextId).symm⟩
  | cons request requests ih =>
    obtain ⟨count, hfound, hnext⟩ := ih (s.serve schema request)
    rw [List.foldl_cons]
    cases request with
    | write w =>
      have hanswer : (s.serve schema (.write w)).nextId =
          s.nextId + Int64.ofNat (w.taken schema s) := nextId_answer w s
      refine ⟨w.taken schema s + count, ?_, ?_⟩
      · rw [foundBy, hfound, hanswer, found_eq, numbersFrom_add]
      · rw [hnext, hanswer, Int64.add_assoc, Int64.ofNat_add]
    | clearJournal => exact ⟨count, hfound, hnext⟩

/-- A store in which an insertion has stopped at a column. The assigned columns before it have taken
their numbers, and these are used up; all else is as it was. -/
structure StoppedAt (s : Store schema.table) (i : Fin schema.table.width) (e : SchemaError)
    (t : Store schema.table) : Prop where
  isAssigned : (schema.table.column i).isAssigned = true
  before : ∀ k < (assigned schema.table).countP (· < i), ∀ j, (assigned schema.table)[k]? = some j →
    ∃ a, (schema.table.column j).type.read (.integer (s.nextId + Int64.ofNat k)) = .ok a
  error_eq : ∃ source, (schema.table.column i).type.read (.integer t.nextId) = .error source ∧
    e = .field (schema.table.column i).name source
  rows_eq : t.rows = s.rows
  journal_eq : t.journal = s.journal
  nextId_eq : t.nextId = s.nextId + Int64.ofNat ((assigned schema.table).countP (· < i))

/-- An insertion that stops does so at the first column that rejects its number. -/
lemma stoppedAt_of_number {row : schema.table.Row} {n : Numbering schema.table} {e : SchemaError}
    (h : number row s.nextId = ⟨n, some e⟩) : ∃ i, s.StoppedAt i e { s with nextId := n.nextId } := by
  obtain ⟨k, i, hi, hbefore, hrejects, hnext⟩ := walk_assign_of_failed h
  -- The assigned columns are in order, so that as many come before this one as its place says.
  have hcount : (assigned schema.table).countP (· < i) = k := by
    obtain ⟨hk, rfl⟩ := List.getElem?_eq_some_iff.1 hi
    have hsplit : assigned schema.table = (assigned schema.table).take k ++
        (assigned schema.table)[k] :: (assigned schema.table).drop (k + 1) := by
      rw [← List.drop_eq_getElem_cons hk, List.take_append_drop]
    have hascend : (assigned schema.table).Pairwise (· < ·) :=
      (List.pairwise_lt_finRange schema.table.width).filter _
    have hplace := countP_lt_of_split (hsplit ▸ hascend)
    rwa [← hsplit, List.length_take_of_le hk.le] at hplace
  refine ⟨i, mem_assigned.1 (List.mem_of_getElem? hi), fun k' hk' j hj => ?_, ?_, rfl, rfl, ?_⟩
  · exact Column.accepts_iff.1 (hbefore k' (hcount ▸ hk') j hj)
  · rw [hnext]
    exact Column.accept_eq_error_iff.1 hrejects
  · rw [hcount]
    exact hnext

lemma insert_of_refused {row : schema.table.Row} {e : StoreError}
    (h : (insert schema row s).error? = some e) :
    e = .duplicate schema.table.name (schema.key row) ∧ (insert schema row s).state = s ∨
      ∃ source i, e = .model source ∧ s.StoppedAt i source (insert schema row s).state := by
  simp only [insert] at h ⊢
  split at h
  · next hthere =>
    rw [if_pos hthere]
    exact .inl ⟨(Option.some_inj.1 h).symm, rfl⟩
  · next hfree =>
    rw [if_neg hfree]
    rcases hnumber : number row s.nextId with ⟨n, _ | source⟩
    · rw [hnumber] at h
      cases h
    · rw [hnumber] at h
      obtain ⟨i, hstopped⟩ := stoppedAt_of_number hnumber
      exact .inr ⟨source, i, (Option.some_inj.1 h).symm, hstopped⟩

lemma answer_of_refused_of_taken (h : ((backend schema).answer w s).error? ≠ none)
    (htaken : w.taken schema s = 0) : ((backend schema).answer w s).state = s := by
  rw [answer_of_refused h, htaken]
  exact congrArg (fun next => { s with nextId := next }) (Int64.add_zero s.nextId)

lemma map_get_numbered (row : table.Row) (n : Int64) :
    (assigned table).map (Table.get (numbered row n)) = numbersFrom n (span table) := by
  have hget : (assigned table).map (Table.get (numbered row n)) =
      (assigned table).map fun i => .integer (n + Int64.ofNat ((assigned table).idxOf i)) := by
    refine List.map_congr_left fun i hi => ?_
    rw [get_numbered, if_pos (mem_assigned.1 hi)]
  rw [hget]
  refine List.ext_getElem (by simp [numbersFrom, span]) fun k hk _ => ?_
  rw [List.length_map] at hk
  simp [numbersFrom, nodup_assigned.idxOf_getElem k hk]

lemma exists_filed_of_kept {row : schema.table.Row} (h : (insert schema row s).error? = none) :
    ∃ filed, (insert schema row s).state.get? (schema.key row) = some filed ∧
      (assigned schema.table).map (Table.get filed) = (Write.insert row).found schema s := by
  have htaken : (Write.insert row).taken schema s = span schema.table := taken_of_kept h
  refine ⟨numbered row s.nextId, ?_, ?_⟩
  · rw [insert_eq_written h, get?_written, Write.record, if_pos rfl, Write.filed]
  · rw [found_eq, htaken, map_get_numbered]

lemma getElem?_numbersFrom {n : Int64} {count k : Nat} {v : Value}
    (h : (numbersFrom n count)[k]? = some v) : k < count ∧ v = .integer (n + Int64.ofNat k) := by
  rw [numbersFrom, List.getElem?_map, Option.map_eq_some_iff] at h
  obtain ⟨k', hk, rfl⟩ := h
  obtain ⟨hlt, rfl⟩ := List.getElem?_eq_some_iff.1 hk
  simpa using hlt

lemma nodup_numbersFrom {n : Int64} {count : Nat} (h : n.toInt + count ≤ Int64.maxValue.toInt) :
    (numbersFrom n count).Nodup := by
  refine List.Nodup.map_on (fun j hj k hk heq => ?_) List.nodup_range
  rw [List.mem_range] at hj hk
  have htoInt := congrArg Int64.toInt (Value.integer.inj heq)
  rw [toInt_add_ofNat (by omega), toInt_add_ofNat (by omega)] at htoInt
  omega

/-- What a store does with numbers. A refused update or deletion leaves it as it was, and so does an
insertion that is refused for its key; one that is refused for a number has used up those of the
columns before, and nothing else has changed. A row that is inserted holds the numbers that have been
found for it. Over any requests to a store that was empty once, all that is found are the first number
and those after it, each of them once, and the next number is the one after the last. -/
theorem numbers_follow (schema : Schema) :
    (∀ (s : Store schema.table) row, (update schema row s).error? ≠ none →
      (update schema row s).state = s) ∧
    (∀ (s : Store schema.table) row, (delete schema row s).error? ≠ none →
      (delete schema row s).state = s) ∧
    (∀ (s : Store schema.table) row e, (insert schema row s).error? = some e →
      e = .duplicate schema.table.name (schema.key row) ∧ (insert schema row s).state = s ∨
        ∃ source i, e = .model source ∧ s.StoppedAt i source (insert schema row s).state) ∧
    (∀ (s : Store schema.table) row, (insert schema row s).error? = none →
      ∃ filed, (insert schema row s).state.get? (schema.key row) = some filed ∧
        (assigned schema.table).map (Table.get filed) = (Write.insert row).found schema s) ∧
    ∀ (config : StoreConfig) (requests : List (Request schema.table.Row)),
      let t := requests.foldl (serve schema) (empty config)
      let found := foundBy schema requests (empty config)
      config.firstId.toInt + found.length ≤ Int64.maxValue.toInt →
        (∀ (k : Nat) (v : Value), found[k]? = some v →
          ∃ n, v = .integer n ∧ n.toInt = config.firstId.toInt + k) ∧
        found.Nodup ∧ t.nextId.toInt = config.firstId.toInt + found.length := by
  refine ⟨fun s row h => answer_of_refused_of_taken (w := .update row) h rfl,
    fun s row h => answer_of_refused_of_taken (w := .delete row) h rfl,
    fun s row e => insert_of_refused, fun s row => exists_filed_of_kept, fun config requests => ?_⟩
  intro t found hroom
  obtain ⟨count, hfound, hnext⟩ := foundBy_eq requests (empty config)
  have hlength : found.length = count := by
    simp only [found, hfound, numbersFrom, List.length_map, List.length_range]
  have hfirst : found = numbersFrom config.firstId count := hfound
  rw [hlength] at hroom ⊢
  refine ⟨fun k v hk => ?_, hfirst ▸ nodup_numbersFrom hroom, ?_⟩
  · rw [hfirst] at hk
    obtain ⟨hlt, rfl⟩ := getElem?_numbersFrom hk
    exact ⟨_, rfl, toInt_add_ofNat (by omega)⟩
  · rw [hnext]
    exact toInt_add_ofNat hroom

/-- Ports are numbered from a negative number on, which the port column does not take: two insertions
stop there, the third is kept, and the next one is refused for its key. -/
theorem numbers_follow_ports :
    let schema := Schema.ofTable ⟨"ports", [
      { name := "name", type := .text, isKey := true },
      { name := "serial", type := .int64, isAssigned := true },
      { name := "port", type := .uint32, isAssigned := true }]⟩
    let row (name : String) : schema.table.Row := #v[.text name, .integer 0, .integer 0]
    let s : Store schema.table := empty { firstId := -3 }
    let requests : List (Request schema.table.Row) := [.write (.insert (row "a")),
      .write (.insert (row "a")), .clearJournal, .write (.insert (row "a")),
      .write (.insert (row "a")), .write (.insert (row "b")), .write (.update (row "c"))]
    let found := foundBy schema requests s
    let e := SchemaError.field "port" (.outOfRange "u32" (-2))
    (insert schema (row "a") s).error? = some (.model e) ∧
    (∃ i, s.StoppedAt i e (insert schema (row "a") s).state) ∧
    found.map Schema.keyPart = ["-3", "-2", "-1", "0", "1", "2"] ∧ found.Nodup ∧
    (requests.foldl (serve schema) s).nextId.toInt = 3 := by
  intro schema row s requests found e
  obtain ⟨-, -, hinsert, -, hrun⟩ := numbers_follow schema
  have herror : (insert schema (row "a") s).error? = some (.model e) := by decide +kernel
  have hkeys : found.map Schema.keyPart = ["-3", "-2", "-1", "0", "1", "2"] := by decide +kernel
  have hlength : found.length = 6 := by
    rw [← List.length_map Schema.keyPart, hkeys]
    rfl
  obtain ⟨-, hnodup, hnext⟩ := hrun { firstId := -3 } requests (by
    rw [show (foundBy schema requests (empty { firstId := -3 })).length = 6 from hlength]
    decide)
  refine ⟨herror, ?_, hkeys, hnodup, ?_⟩
  · rcases hinsert s (row "a") (.model e) herror with ⟨hduplicate, -⟩ | ⟨source, i, hsource, hstopped⟩
    · cases hduplicate
    · cases hsource
      exact ⟨i, hstopped⟩
  · refine hnext.trans ?_
    rw [show (foundBy schema requests (empty { firstId := -3 })).length = 6 from hlength]
    decide

end Store
end DesiredState
