import DesiredState.Proofs.LastRecord
import DesiredState.Proofs.Row

/-! What is said of a column, one mark after another. Of several texts that are set under one key the last
one counts, and the keys stay in the order in which they were first set. So whether a field is left alone
depends on the last text under its key alone, whatever was set before and under other keys. -/
namespace DesiredState

namespace Tags
variable {tags : Tags} {calls : List (String × String)}

def keys (tags : Tags) : List String := tags.pairs.map (·.1)

lemma lookup_set (tags : Tags) (key value k : String) :
    (tags.set key value).lookup k = if key = k then some value else tags.lookup k := by
  obtain ⟨pairs⟩ := tags
  simp only [set, lookup]
  induction pairs with
  | nil => by_cases hk : key = k <;> simp [setPair, hk]
  | cons p pairs ih =>
    by_cases hp : p.1 = key
    · by_cases hk : key = k <;> simp [setPair, hp, hk]
    · by_cases hk : p.1 = k
      · have hne : key ≠ k := fun h => hp (hk.trans h.symm)
        simp [setPair, hk, hne, hne.symm]
      · simpa [setPair, hp, hk] using ih

lemma keys_set_of_mem {key : String} (h : key ∈ tags.keys) (value : String) :
    (tags.set key value).keys = tags.keys := by
  obtain ⟨pairs⟩ := tags
  simp only [keys, set] at h ⊢
  induction pairs with
  | nil => cases h
  | cons p pairs ih =>
    by_cases hp : p.1 = key
    · simp [setPair, hp]
    · have hrest : key ∈ pairs.map (·.1) := (List.mem_cons.1 h).resolve_left (Ne.symm hp)
      simp [setPair, hp, ih hrest]

lemma keys_set_of_notMem {key : String} (h : key ∉ tags.keys) (value : String) :
    (tags.set key value).keys = tags.keys ++ [key] := by
  obtain ⟨pairs⟩ := tags
  simp only [keys, set] at h ⊢
  induction pairs with
  | nil => rfl
  | cons p pairs ih =>
    rw [List.map_cons, List.mem_cons, not_or] at h
    obtain ⟨hp, hrest⟩ := h
    simp [setPair, Ne.symm hp, ih hrest]

/-- Tags as they are after some calls, each of which has set a text under a key. -/
structure Follows (calls : List (String × String)) (tags : Tags) : Prop where
  lookup_eq : ∀ k, tags.lookup k = (lastOf (·.1) calls k).map (·.2)
  mem_keys_iff : ∀ k, k ∈ tags.keys ↔ k ∈ calls.map (·.1)
  /-- The keys stand in the order in which they come up for the first time. -/
  pairwise_idxOf : tags.keys.Pairwise fun k l =>
    (calls.map (·.1)).idxOf k < (calls.map (·.1)).idxOf l

lemma Follows.nodup_keys (h : tags.Follows calls) : tags.keys.Nodup :=
  h.pairwise_idxOf.imp fun {k l} hlt heq => by
    rw [heq] at hlt
    exact Nat.lt_irrefl _ hlt

lemma follows_nil : Follows [] ⟨[]⟩ := ⟨fun _ => rfl, fun _ => Iff.rfl, List.Pairwise.nil⟩

/-- One more call. A key that has been set before is found where it was, in the calls as in the tags. -/
lemma Follows.set (h : tags.Follows calls) (key value : String) :
    (tags.set key value).Follows (calls ++ [(key, value)]) := by
  have hbefore (k) (hk : k ∈ tags.keys) :
      ((calls ++ [(key, value)]).map (·.1)).idxOf k = (calls.map (·.1)).idxOf k := by
    rw [List.map_append, List.idxOf_append_of_mem ((h.mem_keys_iff k).1 hk)]
  have hpairwise : tags.keys.Pairwise fun k l =>
      ((calls ++ [(key, value)]).map (·.1)).idxOf k <
        ((calls ++ [(key, value)]).map (·.1)).idxOf l :=
    h.pairwise_idxOf.imp_of_mem fun hk hl hlt => by rwa [hbefore _ hk, hbefore _ hl]
  have hlookup (k) : (tags.set key value).lookup k =
      (lastOf (·.1) (calls ++ [(key, value)]) k).map (·.2) := by
    rw [lookup_set, lastOf_concat, h.lookup_eq]
    split <;> rfl
  by_cases hkey : key ∈ tags.keys
  · refine ⟨hlookup, fun k => ?_, ?_⟩
    · rw [keys_set_of_mem hkey, List.map_append, List.mem_append, ← h.mem_keys_iff k]
      refine ⟨.inl, fun hk => hk.elim id fun hk => ?_⟩
      rwa [List.mem_singleton.1 hk]
    · rw [keys_set_of_mem hkey]
      exact hpairwise
  · refine ⟨hlookup, fun k => ?_, ?_⟩
    · rw [keys_set_of_notMem hkey, List.map_append, List.mem_append, List.mem_append,
        ← h.mem_keys_iff k]
      rfl
    · rw [keys_set_of_notMem hkey]
      refine List.pairwise_append.2 ⟨hpairwise, List.pairwise_singleton _ _, fun k hk l hl => ?_⟩
      obtain rfl := List.mem_singleton.1 hl
      have hnew : l ∉ calls.map (·.1) := fun hl => hkey ((h.mem_keys_iff l).2 hl)
      calc ((calls ++ [(l, value)]).map (·.1)).idxOf k
        _ = (calls.map (·.1)).idxOf k := hbefore k hk
        _ < (calls.map (·.1)).length := List.idxOf_lt_length_of_mem ((h.mem_keys_iff k).1 hk)
        _ ≤ ((calls ++ [(l, value)]).map (·.1)).idxOf l := by
          rw [List.map_append, List.idxOf_append_of_notMem hnew]
          exact Nat.le_add_right _ _

theorem follows_ofPairs (calls : List (String × String)) : (ofPairs calls).Follows calls := by
  induction calls using List.reverseRec with
  | nil => exact follows_nil
  | append_singleton calls p ih =>
    rw [ofPairs, List.foldl_concat]
    exact ih.set p.1 p.2

end Tags

namespace Column

/-- What can be said of a column besides its name and its type. -/
inductive Mark where
  /-- It is part of the primary key. -/
  | key
  /-- The store assigns it. -/
  | assigned
  /-- It has a text under a key. -/
  | tag (key value : String)
  deriving DecidableEq

/-- The key and the text of a tag. -/
def Mark.tag? : Mark → Option (String × String)
  | tag k value => some (k, value)
  | _ => none

def mark (c : Column) : Mark → Column
  | .key => { c with isKey := true }
  | .assigned => { c with isAssigned := true }
  | .tag key value => { c with tags := c.tags.set key value }

/-- A column as it is described: without marks at first, and then with one after another. -/
def ofMarks (name : String) (type : FieldType) (marks : List Mark) : Column :=
  marks.foldl mark { name, type }

lemma ofMarks_eq (name : String) (type : FieldType) (marks : List Mark) :
    ofMarks name type marks =
      { name, type, isKey := decide (.key ∈ marks), isAssigned := decide (.assigned ∈ marks),
        tags := .ofPairs (marks.filterMap Mark.tag?) } := by
  induction marks using List.reverseRec with
  | nil => rfl
  | append_singleton marks m ih =>
    rw [ofMarks, List.foldl_concat, ← ofMarks, ih]
    rw [List.filterMap_append]
    cases m <;> simp [mark, Mark.tag?, Tags.ofPairs, List.filterMap]

lemma ignored_iff {c : Column} :
    c.ignored = true ↔ c.isKey = true ∨ c.isAssigned = true ∨ c.tags.lookup "eq" = some "-" := by
  simp [ignored, or_assoc]

/-- A column that has been given any marks, in any order. Under a key there is the text that was set last,
or none if none was. Each key that was set stands there once, in the order in which they were first set. A
field of the column is left alone in comparing and merging exactly if the column is part of the key, or
is assigned, or has the text that says so as the last one under its key. -/
theorem ofMarks_last_tag_counts (name : String) (type : FieldType) (marks : List Mark) :
    let c := ofMarks name type marks
    let calls := marks.filterMap Mark.tag?
    (∀ k, c.tags.lookup k = (lastOf (·.1) calls k).map (·.2)) ∧
    c.tags.keys.Nodup ∧ (∀ k, k ∈ c.tags.keys ↔ k ∈ calls.map (·.1)) ∧
    (c.tags.keys.Pairwise fun k l => (calls.map (·.1)).idxOf k < (calls.map (·.1)).idxOf l) ∧
    (c.isKey = true ↔ .key ∈ marks) ∧ (c.isAssigned = true ↔ .assigned ∈ marks) ∧
    (c.ignored = true ↔ c.isKey = true ∨ c.isAssigned = true ∨
      (lastOf (·.1) calls "eq").map (·.2) = some "-") ∧
    ∀ (t : Table) (i : Fin t.width), t.column i = c → (i ∈ t.compared ↔ ¬(c.isKey = true ∨
      c.isAssigned = true ∨ (lastOf (·.1) calls "eq").map (·.2) = some "-")) := by
  intro c calls
  have hmarks := ofMarks_eq name type marks
  have hfollows : c.tags.Follows calls := by
    rw [show c.tags = .ofPairs calls from congrArg Column.tags hmarks]
    exact Tags.follows_ofPairs calls
  have hignored : c.ignored = true ↔ c.isKey = true ∨ c.isAssigned = true ∨
      (lastOf (·.1) calls "eq").map (·.2) = some "-" := by
    rw [ignored_iff, hfollows.lookup_eq]
  refine ⟨hfollows.lookup_eq, hfollows.nodup_keys, hfollows.mem_keys_iff, hfollows.pairwise_idxOf,
    by simp [c, hmarks], by simp [c, hmarks], hignored, fun t i hi => ?_⟩
  rw [Table.mem_compared, hi, ← hignored, Bool.not_eq_true]

example : (ofMarks "note" .text [.tag "eq" "-", .tag "unit" "m", .tag "eq" "x"]).ignored = false := by
  decide

end Column
end DesiredState
