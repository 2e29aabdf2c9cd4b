import DesiredState.MergePolicy
import DesiredState.Partition

/-! The order in which the writes of a phase are issued: by the keys that they are filed under. That
is the key of the record that is written, and merging may give a record another key than the one by
which it was paired. Where no key changes, this is the order of the partition. -/
namespace DesiredState

variable {α : Type}

/-- The key that the write for a pairing is filed under. -/
def Pairing.writtenKey (kind : RecordKind α) (policy : MergePolicy α) : Pairing α → String
  | storedOnly s => kind.key s
  | desiredOnly d => kind.key d
  | both s d => kind.key (policy.merge s d).state

namespace Partition

/-- The entries in ascending order of the keys that their writes are filed under. Entries whose
writes meet in one key stay in ascending order of their own keys. -/
def writeOrder (kind : RecordKind α) (policy : MergePolicy α) (p : Partition α) :
    Entries (Pairing α) :=
  p.entries.mergeSort fun a b =>
    decide (a.2.writtenKey kind policy ≤ b.2.writtenKey kind policy)

theorem writeOrder_perm (kind : RecordKind α) (policy : MergePolicy α) (p : Partition α) :
    (p.writeOrder kind policy).Perm p.entries :=
  List.mergeSort_perm p.entries _

/-- Where every write is filed under the key of its entry, the order of writing is that of the
partition. -/
theorem writeOrder_eq_entries (kind : RecordKind α) (policy : MergePolicy α) {p : Partition α}
    (h : ∀ e ∈ p.entries, e.2.writtenKey kind policy = e.1) :
    p.writeOrder kind policy = p.entries := by
  refine List.mergeSort_of_pairwise (p.ascending.imp_of_mem fun ha hb hab => ?_)
  rw [decide_eq_true_eq, h _ ha, h _ hb]
  exact Std.le_of_lt hab

example : ((ofRecords (fun s : String × String => s.1) [("a", "y"), ("b", "x"), ("d", "")]
    [("a", ""), ("b", ""), ("c", "z")]).writeOrder
      ⟨"pair", fun s => s.1 ++ s.2, .alwaysEqual⟩
      (.alwaysMerge ⟨fun _ _ => true, fun s _ => ⟨(s.2, s.1), none⟩⟩)).map (·.1) =
    ["c", "d", "b", "a"] := by
  cbv

end Partition
end DesiredState
