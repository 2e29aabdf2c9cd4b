import DesiredState.Proofs.Answers
import DesiredState.Proofs.ByteOrder

/-! The rows that a store lists. Rows are filed under the keys that they have before they are numbered,
and whoever reads the list takes the keys of the numbered rows. Where no key depends on a number these
are the same keys, so that the list can stand for the store: it has one row for each key, and the
partition of it loses none. -/
namespace DesiredState

namespace Store
variable {schema : Schema} {s : Store schema.table}

lemma Filed.map_key_list (hfiled : s.Filed schema) : s.list.map schema.key = s.rows.keys := by
  rw [list, KeyMap.values, KeyMap.keys, List.map_map]
  refine List.map_congr_left fun e he => ?_
  exact hfiled e.1 e.2 (KeyMap.get?_eq_some_iff.2 he)

lemma Filed.pairwise_key_list (hfiled : s.Filed schema) :
    (s.list.map schema.key).Pairwise (· < ·) := by
  rw [hfiled.map_key_list]
  exact s.rows.pairwise_keys

lemma Filed.get?_ofRecords_list (hfiled : s.Filed schema) (k : String) :
    (Partition.ofRecords schema.key s.list []).get? k = (s.get? k).map .storedOnly := by
  rw [Partition.get?_ofRecords, hfiled.lastOf_list, lastOf_nil]
  cases s.get? k <;> rfl

/-- The partition of the listed rows has one entry for each of them, in their order. -/
lemma Filed.entries_ofRecords_list (hfiled : s.Filed schema) :
    (Partition.ofRecords schema.key s.list []).entries =
      s.list.map fun row => (schema.key row, .storedOnly row) := by
  have hascend : Entries.Ascending (s.rows.entries.map fun e => (e.1, Pairing.storedOnly e.2)) :=
    List.pairwise_map.2 s.rows.ascending
  have hentries : (Partition.ofRecords schema.key s.list []).entries =
      s.rows.entries.map fun e => (e.1, Pairing.storedOnly e.2) := by
    refine Entries.Ascending.ext (KeyMap.ascending _) hascend fun k => ?_
    rw [Entries.get?_map]
    exact hfiled.get?_ofRecords_list k
  rw [hentries, list, KeyMap.values, List.map_map]
  refine List.map_congr_left fun e he => ?_
  rw [Function.comp_apply, hfiled e.1 e.2 (KeyMap.get?_eq_some_iff.2 he)]

/-- What a store can be asked for between two looks at its rows. -/
inductive Request (α : Type) where
  | write (w : Write α)
  | clearJournal

def serve (schema : Schema) (s : Store schema.table) :
    Request schema.table.Row → Store schema.table
  | .write w => ((backend schema).answer w s).state
  | .clearJournal => s.clearJournal

lemma Filed.serve (hkey : schema.KeyUnassigned) (hfiled : s.Filed schema)
    (request : Request schema.table.Row) : (s.serve schema request).Filed schema := by
  cases request with
  | write w => exact hfiled.answer hkey w
  | clearJournal => exact hfiled

lemma Filed.foldl_serve (hkey : schema.KeyUnassigned) (hfiled : s.Filed schema)
    (requests : List (Request schema.table.Row)) :
    (requests.foldl (Store.serve schema) s).Filed schema := by
  induction requests generalizing s with
  | nil => exact hfiled
  | cons request requests ih => exact ih (hfiled.serve hkey request)

/-- The rows listed by a store that was empty once, after any requests, taken or refused. Their keys
ascend, byte by byte; each row is the one filed under its key, and no other key has a row. As stored
records they make one entry each, and all of these are to be deleted if nothing is desired. -/
theorem list_coherent (hkey : schema.KeyUnassigned) (config : StoreConfig)
    (requests : List (Request schema.table.Row)) :
    let t := requests.foldl (serve schema) (empty config)
    let p := Partition.ofRecords schema.key t.list []
    (t.list.map schema.key).Pairwise (fun j k => Text.bytes j < Text.bytes k) ∧
    (∀ row ∈ t.list, t.get? (schema.key row) = some row) ∧
    (∀ k row, t.get? k = some row → row ∈ t.list ∧ schema.key row = k) ∧
    t.size = t.list.length ∧
    p.entries = (t.list.map fun row => (schema.key row, .storedOnly row)) ∧
    p.count .delete = t.list.length ∧ p.count .add = 0 ∧ p.count .update = 0 ∧
    ∀ k ∈ p.keys, ∃ row ∈ t.list, schema.key row = k ∧ t.get? k = some row := by
  intro t p
  have hfiled : t.Filed schema := filed_empty.foldl_serve hkey requests
  have hentries : p.entries = t.list.map fun row => (schema.key row, .storedOnly row) :=
    hfiled.entries_ofRecords_list
  have hcount (phase : Phase) : p.count phase = if phase = .delete then t.list.length else 0 := by
    rw [Partition.count, Partition.entriesOf, hentries, List.filter_map, List.length_map]
    cases phase <;> simp [Function.comp_def, Pairing.phase]
  refine ⟨?_, fun row => hfiled.mem_list_iff.1, fun k row hrow => ?_, ?_, hentries,
    hcount .delete, hcount .add, hcount .update, fun k hk => ?_⟩
  · exact hfiled.pairwise_key_list.imp Text.bytes_lt_iff.2
  · obtain rfl := hfiled k row hrow
    exact ⟨hfiled.mem_list_iff.2 hrow, rfl⟩
  · rw [size, KeyMap.size, list, KeyMap.values, List.length_map]
  · rw [KeyMap.keys, hentries, List.map_map] at hk
    obtain ⟨row, hrow, rfl⟩ := List.mem_map.1 hk
    exact ⟨row, hrow, rfl, hfiled.mem_list_iff.1 hrow⟩

/-- Hosts with keys of one to four bytes for a character, written in another order, with requests that
are refused and a journal that is forgotten on the way. -/
theorem list_coherent_hosts :
    let requests : List (Request hosts.table.Row) := [.write (.insert (host "😀" "" (.ofNat 1))),
      .write (.insert (host "é" "" (.ofNat 2))), .write (.insert (host "z" "" (.ofNat 3))),
      .write (.insert (host "z" "" (.ofNat 4))), .clearJournal,
      .write (.insert (host "￦" "" (.ofNat 5))), .write (.delete (host "y" "" (.ofNat 6))),
      .write (.delete (host "é" "" (.ofNat 7))), .write (.update (host "z" "" (.ofNat 8)))]
    let t := requests.foldl (serve hosts) (empty { firstId := 7 })
    hosts.KeyUnassigned ∧
    t.list.map hosts.key = ["z", "￦", "😀"] ∧
    Text.bytes "z" < Text.bytes "￦" ∧ Text.bytes "￦" < Text.bytes "😀" ∧
    (Partition.ofRecords hosts.key t.list []).count .delete = 3 := by
  intro requests t
  have hkeys : t.list.map hosts.key = ["z", "￦", "😀"] := by decide +kernel
  have hlength : t.list.length = 3 := by rw [← List.length_map hosts.key, hkeys]; rfl
  obtain ⟨hascend, -, -, -, -, hdelete, -⟩ :=
    list_coherent keyKept_hosts.unassigned { firstId := 7 } requests
  rw [hkeys] at hascend
  simp only [List.pairwise_cons, List.mem_cons, forall_eq_or_imp] at hascend
  exact ⟨keyKept_hosts.unassigned, hkeys, hascend.1.1, hascend.2.1.1, hdelete.trans hlength⟩

end Store
end DesiredState
