import DesiredState.Partition
import Mathlib

/-! What a partition holds, key by key: the pairing of a key is made of the last stored and of the
last desired record that have it, and of no other record. -/
namespace DesiredState
variable {α : Type} {key : α → String}

/-- The last record of a key, if there is one. -/
def lastOf (key : α → String) (records : List α) (k : String) : Option α :=
  (records.filter fun a => key a == k).getLast?

@[simp] lemma lastOf_nil (k : String) : lastOf key [] k = none := rfl

@[simp] lemma lastOf_concat (records : List α) (a : α) (k : String) :
    lastOf key (records ++ [a]) k = if key a = k then some a else lastOf key records k := by
  by_cases h : key a = k <;> simp [lastOf, h]

lemma lastOf_map {β : Type} (f : β → α) (bs : List β) (k : String) :
    lastOf key (bs.map f) k = (lastOf (key ∘ f) bs k).map f := by
  rw [lastOf, List.filter_map, List.getLast?_map]
  rfl

lemma mem_of_lastOf {records : List α} {k : String} {a : α} (h : lastOf key records k = some a) :
    a ∈ records ∧ key a = k := by
  have ha := List.mem_of_getLast? h
  simpa using ha

lemma lastOf_eq_none_iff {records : List α} {k : String} :
    lastOf key records k = none ↔ k ∉ records.map key := by
  simp [lastOf]

lemma exists_lastOf_iff {records : List α} {k : String} :
    (∃ a, lastOf key records k = some a) ↔ k ∈ records.map key := by
  rw [← Option.isSome_iff_exists, Option.isSome_iff_ne_none, ne_eq, lastOf_eq_none_iff, not_not]

lemma lastOf_eq_some_iff {records : List α} (hnodup : (records.map key).Nodup) {k : String} {a : α} :
    lastOf key records k = some a ↔ a ∈ records ∧ key a = k := by
  refine ⟨mem_of_lastOf, ?_⟩
  rintro ⟨ha, rfl⟩
  obtain ⟨b, hb⟩ := exists_lastOf_iff.2 (List.mem_map.2 ⟨a, ha, rfl⟩)
  obtain ⟨hmem, hkey⟩ := mem_of_lastOf hb
  rw [hb, List.inj_on_of_nodup_map hnodup hmem ha hkey]

lemma lastOf_perm {as bs : List α} (h : as.Perm bs) (hnodup : (as.map key).Nodup) :
    lastOf key as = lastOf key bs := by
  funext k
  refine Option.ext fun a => ?_
  rw [lastOf_eq_some_iff hnodup, lastOf_eq_some_iff ((h.map key).nodup_iff.1 hnodup), h.mem_iff]

namespace Entries
variable {β : Type}

lemma get?_sorted (es : Entries α) (k : String) :
    (sorted es).get? k = (lastOf (·.1) es k).map (·.2) := by
  induction es using List.reverseRec with
  | nil => rfl
  | append_singleton es e ih =>
    rw [sorted, List.foldl_concat, get?_insert, lastOf_concat]
    split
    · rfl
    · exact ih

/-- Ascending entries of which one function makes the same are alike under it in their order. -/
lemma Ascending.map_eq {es fs : Entries α} (hes : es.Ascending) (hfs : fs.Ascending) {f : α → β}
    (h : ∀ k, (es.get? k).map f = (fs.get? k).map f) :
    es.map (fun e => (e.1, f e.2)) = fs.map fun e => (e.1, f e.2) := by
  refine Ascending.ext (List.pairwise_map.2 hes) (List.pairwise_map.2 hfs) fun k => ?_
  rw [get?_map, get?_map, h]

end Entries

namespace Pairing

/-- The pairing of a stored and a desired record, of which one may be missing. -/
def ofSides : Option α → Option α → Option (Pairing α)
  | some s, some d => some (both s d)
  | some s, none => some (storedOnly s)
  | none, some d => some (desiredOnly d)
  | none, none => none

lemma ofSides_eq_none_iff {s d : Option α} : ofSides s d = none ↔ s = none ∧ d = none := by
  cases s <;> cases d <;> simp [ofSides]

lemma stored?_of_ofSides {s d : Option α} {pairing : Pairing α} (h : ofSides s d = some pairing) :
    pairing.stored? = s := by
  cases s <;> cases d <;> cases h <;> rfl

lemma desired?_of_ofSides {s d : Option α} {pairing : Pairing α} (h : ofSides s d = some pairing) :
    pairing.desired? = d := by
  cases s <;> cases d <;> cases h <;> rfl

end Pairing

namespace Partition

lemma get?_foldl_addStored (stored : List α) (k : String) :
    (stored.foldl (addStored key) ∅).get? k = (lastOf key stored k).map .storedOnly := by
  induction stored using List.reverseRec with
  | nil => rfl
  | append_singleton stored s ih =>
    rw [List.foldl_append, List.foldl_cons, List.foldl_nil, addStored,
      KeyMap.get?_insert, lastOf_concat, ih]
    split <;> rfl

theorem get?_ofRecords (stored desired : List α) (k : String) :
    (ofRecords key stored desired).get? k =
      Pairing.ofSides (lastOf key stored k) (lastOf key desired k) := by
  rw [ofRecords]
  induction desired using List.reverseRec with
  | nil =>
    rw [List.foldl_nil, get?_foldl_addStored]
    cases lastOf key stored k <;> rfl
  | append_singleton desired d ih =>
    rw [List.foldl_append, List.foldl_cons, List.foldl_nil, addDesired,
      KeyMap.get?_insert, lastOf_concat]
    split
    · -- The key of `d` itself: whatever desired record stood there before is replaced.
      next hk =>
      rw [hk, ih]
      cases lastOf key stored k <;> cases lastOf key desired k <;> rfl
    · exact ih

lemma mem_keys_ofRecords {stored desired : List α} {k : String} :
    k ∈ (ofRecords key stored desired).keys ↔ k ∈ stored.map key ∨ k ∈ desired.map key := by
  rw [KeyMap.mem_keys_iff, ← Option.ne_none_iff_exists', get?_ofRecords, ne_eq,
    Pairing.ofSides_eq_none_iff, lastOf_eq_none_iff, lastOf_eq_none_iff]
  tauto

end Partition
end DesiredState
