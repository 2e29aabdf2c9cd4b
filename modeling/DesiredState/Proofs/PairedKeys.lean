import DesiredState.Proofs.LastRecord

/-! Which keys a partition has, and how it shares them out. A key has one entry if it occurs at all,
and the sides that it occurs on tell which phase is concerned with it. A partition knows the last record
of each key on either side, and nothing else about the records. -/
namespace DesiredState
variable {α : Type} {key : α → String} {stored desired : List α}

namespace Pairing

lemma ofSides_inj {s s' d d' : Option α} : ofSides s d = ofSides s' d' ↔ s = s' ∧ d = d' := by
  cases s <;> cases d <;> cases s' <;> cases d' <;> simp [ofSides]

end Pairing

namespace Partition
variable {p : Partition α} {k : String}

lemma mem_keysOf_iff {phase : Phase} :
    k ∈ p.keysOf phase ↔ ∃ pairing, p.get? k = some pairing ∧ pairing.phase = phase := by
  simp [keysOf, entriesOf, KeyMap.get?_eq_some_iff, and_comm]

lemma nodup_keysOf (p : Partition α) (phase : Phase) : (p.keysOf phase).Nodup :=
  p.nodup_keys.sublist (List.filter_sublist.map _)

lemma disjoint_keysOf {phase phase' : Phase} (hne : phase ≠ phase') :
    (p.keysOf phase).Disjoint (p.keysOf phase') := by
  intro k hk hk'
  obtain ⟨pairing, hpairing, rfl⟩ := mem_keysOf_iff.1 hk
  obtain ⟨pairing', hpairing', rfl⟩ := mem_keysOf_iff.1 hk'
  rw [hpairing] at hpairing'
  cases hpairing'
  exact hne rfl

lemma mem_keys_iff_exists_phase : k ∈ p.keys ↔ ∃ phase, k ∈ p.keysOf phase := by
  simp only [KeyMap.mem_keys_iff, mem_keysOf_iff]
  constructor
  · rintro ⟨pairing, hpairing⟩
    exact ⟨pairing.phase, pairing, hpairing, rfl⟩
  · rintro ⟨-, pairing, hpairing, -⟩
    exact ⟨pairing, hpairing⟩

lemma count_add_count_add_count (p : Partition α) :
    p.count .delete + p.count .add + p.count .update = p.size := by
  simp only [count, entriesOf, KeyMap.size]
  induction p.entries with
  | nil => rfl
  | cons e es ih =>
    cases h : e.2.phase <;> simp [h] <;> omega

/-- A partition that pairs, under each key, the last stored record with the last desired one. -/
structure Pairs (key : α → String) (stored desired : List α) (p : Partition α) : Prop where
  both_iff : ∀ k s d, p.get? k = some (.both s d) ↔
    lastOf key stored k = some s ∧ lastOf key desired k = some d
  desiredOnly_iff : ∀ k d, p.get? k = some (.desiredOnly d) ↔
    k ∉ stored.map key ∧ lastOf key desired k = some d
  storedOnly_iff : ∀ k s, p.get? k = some (.storedOnly s) ↔
    lastOf key stored k = some s ∧ k ∉ desired.map key
  none_iff : ∀ k, p.get? k = none ↔ k ∉ stored.map key ∧ k ∉ desired.map key

lemma pairs_ofRecords (key : α → String) (stored desired : List α) :
    (ofRecords key stored desired).Pairs key stored desired where
  both_iff k s d := by
    rw [get?_ofRecords, show some (Pairing.both s d) = Pairing.ofSides (some s) (some d) from rfl,
      Pairing.ofSides_inj]
  desiredOnly_iff k d := by
    rw [get?_ofRecords, show some (Pairing.desiredOnly d) = Pairing.ofSides none (some d) from rfl,
      Pairing.ofSides_inj, lastOf_eq_none_iff]
  storedOnly_iff k s := by
    rw [get?_ofRecords, show some (Pairing.storedOnly s) = Pairing.ofSides (some s) none from rfl,
      Pairing.ofSides_inj, lastOf_eq_none_iff]
  none_iff k := by
    rw [get?_ofRecords, Pairing.ofSides_eq_none_iff, lastOf_eq_none_iff, lastOf_eq_none_iff]

lemma mem_keysOf_ofRecords (k : String) :
    (k ∈ (ofRecords key stored desired).keysOf .delete ↔
      k ∈ stored.map key ∧ k ∉ desired.map key) ∧
    (k ∈ (ofRecords key stored desired).keysOf .add ↔
      k ∉ stored.map key ∧ k ∈ desired.map key) ∧
    (k ∈ (ofRecords key stored desired).keysOf .update ↔
      k ∈ stored.map key ∧ k ∈ desired.map key) := by
  simp only [mem_keysOf_iff, get?_ofRecords, ← exists_lastOf_iff]
  cases lastOf key stored k <;> cases lastOf key desired k <;> simp [Pairing.ofSides, Pairing.phase]

lemma size_ofRecords : (ofRecords key stored desired).size =
    ((stored ++ desired).map key).toFinset.card := by
  have hkeys : (ofRecords key stored desired).keys.toFinset =
      ((stored ++ desired).map key).toFinset := by
    ext k
    simp only [List.mem_toFinset, mem_keys_ofRecords, List.map_append, List.mem_append]
  rw [← hkeys, List.toFinset_card_of_nodup (KeyMap.nodup_keys _), KeyMap.keys, List.length_map,
    KeyMap.size]

/-- Partitions are equal if their sides agree in the last record of every key. -/
lemma ofRecords_eq_iff {stored' desired' : List α} :
    ofRecords key stored' desired' = ofRecords key stored desired ↔
      ∀ k, lastOf key stored' k = lastOf key stored k ∧
        lastOf key desired' k = lastOf key desired k := by
  rw [KeyMap.ext_iff]
  simp only [get?_ofRecords, Pairing.ofSides_inj]

/-- How two sequences of records are partitioned, whatever keys they repeat and in whatever order. The
pairing of a key is made of its last record on each side. In whatever order the entries are gone
through, each key that occurs comes up once. The phases share out the keys, each key to the phase that
its sides call for, and count all of them. Sequences with the same last records have the same
partition, and no others have. -/
theorem ofRecords_shares_keys (key : α → String) (stored desired : List α) :
    let p := ofRecords key stored desired
    p.Pairs key stored desired ∧
    (∀ entries : Entries (Pairing α), entries.Perm p.entries →
      (entries.map (·.1)).Nodup ∧
      (∀ k, k ∈ entries.map (·.1) ↔ k ∈ stored.map key ∨ k ∈ desired.map key) ∧
      ∀ k pairing, (k, pairing) ∈ entries ↔ p.get? k = some pairing) ∧
    p.size = ((stored ++ desired).map key).toFinset.card ∧
    (∀ k, (k ∈ p.keysOf .delete ↔ k ∈ stored.map key ∧ k ∉ desired.map key) ∧
      (k ∈ p.keysOf .add ↔ k ∉ stored.map key ∧ k ∈ desired.map key) ∧
      (k ∈ p.keysOf .update ↔ k ∈ stored.map key ∧ k ∈ desired.map key)) ∧
    (∀ phase phase', phase ≠ phase' → (p.keysOf phase).Disjoint (p.keysOf phase')) ∧
    (∀ k, k ∈ p.keys ↔ ∃ phase, k ∈ p.keysOf phase) ∧
    (∀ phase, (p.keysOf phase).Nodup ∧ p.count phase = (p.keysOf phase).length) ∧
    p.count .delete + p.count .add + p.count .update = p.size ∧
    ∀ stored' desired', ofRecords key stored' desired' = p ↔
      ∀ k, lastOf key stored' k = lastOf key stored k ∧
        lastOf key desired' k = lastOf key desired k := by
  intro p
  refine ⟨pairs_ofRecords key stored desired, fun entries hentries => ?_, size_ofRecords,
    mem_keysOf_ofRecords, fun _ _ => disjoint_keysOf, fun _ => mem_keys_iff_exists_phase,
    fun phase => ⟨nodup_keysOf p phase, (List.length_map _).symm⟩, count_add_count_add_count p,
    fun _ _ => ofRecords_eq_iff⟩
  have hkeys : (entries.map (·.1)).Perm p.keys := hentries.map _
  refine ⟨hkeys.nodup_iff.2 p.nodup_keys, fun k => ?_, fun k pairing => ?_⟩
  · rw [hkeys.mem_iff, mem_keys_ofRecords]
  · rw [hentries.mem_iff, KeyMap.get?_eq_some_iff]

end Partition
end DesiredState
