import DesiredState.Table
import Mathlib

/-! Rows, slot by slot. A column takes a value as it is or not at all, so that merging one row into
another takes the compared slots of the one and leaves the ignored slots of the other. -/
namespace DesiredState

namespace FieldType

lemma toInt64_toInt32 {i : Int64}
    (h : Int32.minValue.toInt ≤ i.toInt ∧ i.toInt ≤ Int32.maxValue.toInt) :
    i.toInt32.toInt64 = i := by
  have hmin : Int32.minValue.toInt = -2147483648 := rfl
  have hmax : Int32.maxValue.toInt = 2147483647 := rfl
  apply Int64.toInt_inj.1
  rw [Int32.toInt_toInt64, Int64.toInt_toInt32]
  exact Int.bmod_eq_of_le (by omega) (by omega)

lemma ofNat_toNat_uint32 {i : Int64} (h : 0 ≤ i.toInt ∧ i.toInt < UInt32.size) :
    Int64.ofNat (UInt32.ofNat i.toInt.toNat).toNat = i := by
  have hsize : UInt32.size = 4294967296 := rfl
  have hn : (UInt32.ofNat i.toInt.toNat).toNat = i.toInt.toNat :=
    UInt32.toNat_ofNat_of_lt' (by omega)
  rw [hn]
  apply Int64.toInt_inj.1
  rw [Int64.toInt_ofNat_of_lt (by omega)]
  omega

/-- What is read from a value is written back as that value. -/
theorem write_of_read {type : FieldType} {v : Value} {a : type.Carrier} (h : type.read v = .ok a) :
    type.write a = v := by
  induction type generalizing v with
  | any => cases h; rfl
  | int32 =>
    cases v with
    | integer i =>
      rw [read] at h
      split at h
      · next hi => cases h; exact congrArg Value.integer (toInt64_toInt32 hi)
      · cases h
    | _ => cases h
  | uint32 =>
    cases v with
    | integer i =>
      rw [read] at h
      split at h
      · next hi => cases h; exact congrArg Value.integer (ofNat_toNat_uint32 hi)
      · cases h
    | _ => cases h
  | optional type ih =>
    -- Null is written back by the option itself, any other value by the type inside.
    have inner (hread : (type.read v).map some = .ok a) : (optional type).write a = v := by
      cases hb : type.read v with
      | ok b => rw [hb] at hread; cases hread; exact ih hb
      | error e => rw [hb] at hread; cases hread
    cases v with
    | null => cases h; rfl
    | _ => exact inner h
  | _ =>
    cases v <;> cases h
    rfl

lemma eq_of_accept {type : FieldType} {v w : Value} (h : type.accept v = .ok w) : w = v := by
  rw [accept] at h
  cases hr : type.read v with
  | ok a => rw [hr] at h; cases h; exact write_of_read hr
  | error e => rw [hr] at h; cases h

end FieldType

namespace Column

lemma ignored_of_isAssigned {c : Column} (h : c.isAssigned = true) : c.ignored = true := by
  simp [ignored, h]

def accepts (c : Column) (v : Value) : Bool := (c.accept v).isOk

lemma accept_eq_ok_iff {c : Column} {v w : Value} :
    c.accept v = .ok w ↔ c.accepts v = true ∧ w = v := by
  rw [accepts, accept]
  cases hv : c.type.accept v with
  | ok u =>
    obtain rfl := FieldType.eq_of_accept hv
    simp [Except.mapError, Except.isOk, Except.toBool, eq_comm]
  | error e => simp [Except.mapError, Except.isOk, Except.toBool]

end Column

namespace Table
variable {t : Table}

@[simp] lemma mem_indices (i : Fin t.width) : i ∈ t.indices := List.mem_finRange i

lemma nodup_indices : t.indices.Nodup := List.nodup_finRange t.width

@[simp] lemma mem_compared {i : Fin t.width} : i ∈ t.compared ↔ (t.column i).ignored = false := by
  simp [compared]

lemma row_ext {a b : t.Row} (h : ∀ i, get a i = get b i) : a = b :=
  Vector.ext fun i hi => h ⟨i, hi⟩

def put (row : t.Row) (i : Fin t.width) (v : Value) : t.Row :=
  Vector.ofFn fun j => if i = j then v else get row j

@[simp] lemma get_put (row : t.Row) (i j : Fin t.width) (v : Value) :
    get (put row i v) j = if i = j then v else get row j := by
  simp [get, put]

lemma write_eq_ok_iff {row row' : t.Row} {i : Fin t.width} {v : Value} :
    t.write row i v = .ok row' ↔ (t.column i).accepts v = true ∧ row' = put row i v := by
  have hset (w : Value) : row.set i w = put row i w := by
    refine row_ext fun j => ?_
    rw [get_put]
    simp [get, Vector.getElem_set, Fin.ext_iff]
  rw [write]
  cases hv : (t.column i).accept v with
  | ok w =>
    obtain ⟨ha, rfl⟩ := Column.accept_eq_ok_iff.1 hv
    simp [Except.map, ha, hset, eq_comm]
  | error e =>
    have ha : ¬(t.column i).accepts v = true := fun ha => by
      rw [Column.accept_eq_ok_iff.2 ⟨ha, rfl⟩] at hv
      cases hv
    simp [Except.map, ha]

/-- The row that merging makes: ignored slots of the stored row, the others of the desired one. -/
def overlay (t : Table) (stored desired : t.Row) : t.Row :=
  Vector.ofFn fun i => if (t.column i).ignored then get stored i else get desired i

@[simp] lemma get_overlay (stored desired : t.Row) (i : Fin t.width) :
    get (t.overlay stored desired) i =
      if (t.column i).ignored then get stored i else get desired i := by
  simp [get, overlay]

lemma get_overlay_of_compared (stored desired : t.Row) {i : Fin t.width} (hi : i ∈ t.compared) :
    get (t.overlay stored desired) i = get desired i := by
  rw [get_overlay, mem_compared.1 hi]
  rfl

lemma copy_cons_of_accepts {desired : t.Row} {i : Fin t.width}
    (h : (t.column i).accepts (get desired i) = true) (columns : List (Fin t.width))
    (stored : t.Row) :
    t.copy desired (i :: columns) stored = t.copy desired columns (put stored i (get desired i)) := by
  have hwrite : t.write stored i (get desired i) = .ok (put stored i (get desired i)) :=
    write_eq_ok_iff.2 ⟨h, rfl⟩
  apply Outcome.walk_cons_of_done
  rw [hwrite]

lemma copy_cons_of_rejects {desired : t.Row} {i : Fin t.width}
    (h : ¬(t.column i).accepts (get desired i) = true) (columns : List (Fin t.width))
    (stored : t.Row) : ∃ e, t.copy desired (i :: columns) stored = ⟨stored, some e⟩ := by
  cases hwrite : t.write stored i (get desired i) with
  | ok row => exact absurd (write_eq_ok_iff.1 hwrite).1 h
  | error e =>
    refine ⟨e, Outcome.walk_cons_of_failed columns ?_⟩
    rw [hwrite]

lemma get_copy_of_notMem (desired : t.Row) {columns : List (Fin t.width)} {i : Fin t.width}
    (hi : i ∉ columns) (stored : t.Row) :
    get (t.copy desired columns stored).state i = get stored i := by
  induction columns generalizing stored with
  | nil => rfl
  | cons j columns ih =>
    obtain ⟨hij, hi⟩ := not_or.1 (mt List.mem_cons.2 hi)
    by_cases h : (t.column j).accepts (get desired j) = true
    · rw [copy_cons_of_accepts h, ih hi, get_put, if_neg (Ne.symm hij)]
    · obtain ⟨e, he⟩ := copy_cons_of_rejects h columns stored
      rw [he]

lemma error?_copy_eq_none_iff (desired : t.Row) (columns : List (Fin t.width)) (stored : t.Row) :
    (t.copy desired columns stored).error? = none ↔
      ∀ i ∈ columns, (t.column i).accepts (get desired i) = true := by
  induction columns generalizing stored with
  | nil => simp [copy]
  | cons j columns ih =>
    by_cases h : (t.column j).accepts (get desired j) = true
    · rw [copy_cons_of_accepts h, ih, List.forall_mem_cons, and_iff_right h]
    · obtain ⟨e, he⟩ := copy_cons_of_rejects h columns stored
      rw [he, List.forall_mem_cons]
      exact ⟨fun hne => (Option.some_ne_none e hne).elim, fun hall => (h hall.1).elim⟩

lemma get_copy_of_mem {desired : t.Row} {columns : List (Fin t.width)} (hnodup : columns.Nodup)
    {stored : t.Row} (h : (t.copy desired columns stored).error? = none) {i : Fin t.width}
    (hi : i ∈ columns) : get (t.copy desired columns stored).state i = get desired i := by
  induction columns generalizing stored with
  | nil => cases hi
  | cons j columns ih =>
    obtain ⟨hj, hnodup⟩ := List.nodup_cons.1 hnodup
    have haccepts := (error?_copy_eq_none_iff desired (j :: columns) stored).1 h j (.head _)
    rw [copy_cons_of_accepts haccepts] at h ⊢
    rcases List.mem_cons.1 hi with rfl | hi
    · rw [get_copy_of_notMem desired hj, get_put, if_pos rfl]
    · exact ih hnodup h hi

/-- Merging keeps ignored slots, also where it fails. -/
lemma get_merge_of_ignored {i : Fin t.width} (hi : (t.column i).ignored = true)
    (stored desired : t.Row) : get (t.policy.merge stored desired).state i = get stored i := by
  apply get_copy_of_notMem
  simp [hi]

/-- Merging succeeds if every compared slot of the desired row is accepted, and then makes the overlay
of the two rows. -/
theorem merge_eq_done_iff {stored desired row : t.Row} :
    t.policy.merge stored desired = ⟨row, none⟩ ↔
      (∀ i ∈ t.compared, (t.column i).accepts (get desired i) = true) ∧
        row = t.overlay stored desired := by
  have hdone : (t.policy.merge stored desired).error? = none ↔
      ∀ i ∈ t.compared, (t.column i).accepts (get desired i) = true :=
    error?_copy_eq_none_iff desired t.compared stored
  have hstate (h : (t.policy.merge stored desired).error? = none) :
      (t.policy.merge stored desired).state = t.overlay stored desired := by
    refine row_ext fun i => ?_
    rw [get_overlay]
    split
    · next hi => exact get_merge_of_ignored hi stored desired
    · next hi => exact get_copy_of_mem (nodup_indices.filter _) h (by simpa using hi)
  constructor
  · intro h
    have hnone : (t.policy.merge stored desired).error? = none := by rw [h]
    refine ⟨hdone.1 hnone, ?_⟩
    rw [← hstate hnone, h]
  · rintro ⟨haccepts, rfl⟩
    have hnone := hdone.2 haccepts
    rw [← hstate hnone, ← hnone]

lemma policy_equals_iff {stored desired : t.Row} :
    t.policy.equals stored desired = true ↔
      ∀ i ∈ t.compared, (get stored i).equals (get desired i) = true :=
  List.all_eq_true

/-- Whether a row holds, in some compared slot, a real number that is no number. -/
def holdsNaN (t : Table) (row : t.Row) : Bool := t.compared.any fun i => (get row i).isNaN

lemma holdsNaN_eq_false_iff {row : t.Row} :
    t.holdsNaN row = false ↔ ∀ i ∈ t.compared, (get row i).isNaN = false := by
  simp [holdsNaN]

lemma holdsNaN_eq_false_of_equals {stored desired : t.Row}
    (h : t.policy.equals stored desired = true) : t.holdsNaN desired = false :=
  holdsNaN_eq_false_iff.2 fun i hi =>
    Value.isNaN_eq_false_of_equals (policy_equals_iff.1 h i hi)

/-- A row with the compared slots of another one matches it, unless these hold what does not equal
itself. -/
lemma policy_equals_of_agree {stored desired : t.Row}
    (h : ∀ i ∈ t.compared, get stored i = get desired i) :
    t.policy.equals stored desired = !t.holdsNaN desired := by
  rw [Bool.eq_iff_iff, policy_equals_iff, Bool.not_eq_true', holdsNaN_eq_false_iff]
  refine forall₂_congr fun i hi => ?_
  rw [h i hi, Value.equals_self, Bool.not_eq_true']

lemma overlay_eq_self {stored desired : t.Row}
    (h : ∀ i ∈ t.compared, get stored i = get desired i) : t.overlay stored desired = stored := by
  refine row_ext fun i => ?_
  rw [get_overlay]
  split
  · rfl
  · next hi => exact (h i (by simpa using hi)).symm

end Table
end DesiredState
