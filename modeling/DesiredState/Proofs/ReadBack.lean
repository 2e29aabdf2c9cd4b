import DesiredState.Proofs.Merging

/-! Reading fields from values and writing them back. What has been read is written back as the value
that it was read from. What has been written is read back as it was, but for options: all that they
write as null is read as nothing. What cannot be read is what the type under all options rejects. -/
namespace DesiredState

namespace FieldType

def isOptional : FieldType → Bool
  | optional _ => true
  | _ => false

/-- The type under all options. -/
def base : FieldType → FieldType
  | optional type => type.base
  | type => type

/-- The kind of the values that a type reads, unless it reads all. -/
def kind? : FieldType → Option String
  | boolean => some "bool"
  | int64 => some "int"
  | int32 => some "int"
  | uint32 => some "int"
  | real => some "real"
  | text => some "text"
  | blob => some "blob"
  | document => some "json"
  | any => none
  | optional _ => none

/-- The name of a type that does not hold all integers, with the least one and the greatest one that it
holds. -/
def bounds? : FieldType → Option (String × Int × Int)
  | int32 => some ("i32", -2147483648, 2147483647)
  | uint32 => some ("u32", 0, 4294967295)
  | _ => none

/-- What a type that is no option finds wrong with a value: its kind, or that it is out of bounds. -/
@[mk_iff]
inductive Rejects (type : FieldType) : Value → SchemaError → Prop
  | kind {expected v} (htype : type.kind? = some expected) (hv : v.kind ≠ expected) :
    Rejects type v (.typeMismatch expected v.kind)
  | bounds {target least greatest i} (htype : type.bounds? = some (target, least, greatest))
    (hi : ¬(least ≤ i.toInt ∧ i.toInt ≤ greatest)) :
    Rejects type (.integer i) (.outOfRange target i)

variable {type : FieldType} {v : Value} {e : SchemaError}

lemma read_optional (hv : v ≠ .null) : (optional type).read v = (type.read v).map some := by
  cases v with
  | null => exact absurd rfl hv
  | _ => rfl

lemma read_optional_eq_error_iff (hv : v ≠ .null) :
    (optional type).read v = .error e ↔ type.read v = .error e := by
  rw [read_optional hv]
  cases type.read v with
  | ok a => exact iff_of_false (fun h => by cases h) fun h => by cases h
  | error e' => exact ⟨fun h => by cases h; rfl, fun h => by cases h; rfl⟩

lemma read_int32_write (i : Int32) : int32.read (.integer i.toInt64) = .ok i := by
  have hmin : Int32.minValue.toInt ≤ i.toInt := i.minValue_le_toInt
  have hmax : i.toInt ≤ Int32.maxValue.toInt := i.toInt_le
  rw [read, if_pos (by rw [Int32.toInt_toInt64]; exact ⟨hmin, hmax⟩)]
  simp

lemma read_uint32_write (n : UInt32) : uint32.read (.integer (Int64.ofNat n.toNat)) = .ok n := by
  have hn : n.toNat < UInt32.size := n.toNat_lt_size
  have hsize : UInt32.size = 4294967296 := rfl
  have htoInt : (Int64.ofNat n.toNat).toInt = n.toNat := Int64.toInt_ofNat_of_lt (by omega)
  rw [read, htoInt, if_pos ⟨by omega, by omega⟩]
  simp

/-- What a type has written it reads back, unless it is an option that has written null. -/
theorem read_write (a : type.Carrier) (h : type.isOptional = false ∨ type.write a ≠ .null) :
    type.read (type.write a) = .ok a := by
  induction type with
  | int32 => exact read_int32_write a
  | uint32 => exact read_uint32_write a
  | optional type ih =>
    have hwrite : (optional type).write a ≠ .null := h.resolve_left (by simp [isOptional])
    cases a with
    | none => exact absurd rfl hwrite
    | some a =>
      rw [read_optional hwrite, write, ih a (.inr hwrite)]
      rfl
  | _ => rfl

lemma rejects_integer_iff {target : String} {least greatest : Int} {i : Int64}
    (hkind : type.kind? = some "int") (hbounds : type.bounds? = some (target, least, greatest)) :
    type.Rejects (.integer i) e ↔
      ¬(least ≤ i.toInt ∧ i.toInt ≤ greatest) ∧ e = .outOfRange target i := by
  constructor
  · intro h
    cases h with
    | kind htype hv =>
      rw [hkind] at htype
      cases htype
      exact absurd rfl hv
    | bounds htype hi =>
      rw [hbounds] at htype
      cases htype
      exact ⟨hi, rfl⟩
  · rintro ⟨hi, rfl⟩
    exact .bounds hbounds hi

/-- A type that is no option rejects values for their kind or for being out of bounds. -/
lemma read_eq_error_iff_rejects (htype : type.isOptional = false) :
    type.read v = .error e ↔ type.Rejects v e := by
  cases type with
  | optional type => cases htype
  | int32 =>
    cases v with
    | integer i =>
      rw [rejects_integer_iff rfl rfl, read]
      split
      · next hi => exact iff_of_false (by simp) fun h => h.1 hi
      · next hi => exact ⟨fun h => ⟨hi, by cases h; rfl⟩, fun h => by rw [h.2]⟩
    | _ => simp [rejects_iff, read, mismatch, kind?, Value.kind, eq_comm]
  | uint32 =>
    cases v with
    | integer i =>
      have hsize : (UInt32.size : Int) = 4294967296 := rfl
      rw [rejects_integer_iff rfl rfl, read]
      split
      · next hi => exact iff_of_false (by simp) fun h => h.1 ⟨hi.1, by omega⟩
      · next hi => exact ⟨fun h => ⟨by omega, by cases h; rfl⟩, fun h => by rw [h.2]⟩
    | _ => simp [rejects_iff, read, mismatch, kind?, Value.kind, eq_comm]
  -- The other types have no bounds: a value is of their kind or it is not.
  | _ => cases v <;> simp [rejects_iff, read, mismatch, kind?, bounds?, Value.kind, eq_comm]

/-- What is wrong with a value is what the type under all options finds, and nothing is wrong with null
for an option. -/
theorem read_eq_error_iff : type.read v = .error e ↔
    type.base.Rejects v e ∧ ¬(type.isOptional = true ∧ v = .null) := by
  induction type with
  | optional type ih =>
    by_cases hv : v = .null
    · subst hv
      simp [read, isOptional]
    · rw [read_optional_eq_error_iff hv, ih]
      simp [hv, base]
  | _ =>
    rw [read_eq_error_iff_rejects rfl]
    simp [base, isOptional]

lemma isOptional_base : type.base.isOptional = false := by
  induction type with
  | optional type ih => exact ih
  | _ => rfl

lemma exists_read_write (a : type.Carrier) : ∃ b, type.read (type.write a) = .ok b := by
  by_cases h : type.isOptional = false ∨ type.write a ≠ .null
  · exact ⟨a, read_write a h⟩
  · obtain ⟨hoptional, hnull⟩ := not_or.1 h
    rw [not_not.1 hnull]
    cases type with
    | optional type => exact ⟨none, rfl⟩
    | _ => exact absurd rfl hoptional

/-- Reading and writing undo each other. What is read from a value is written back as that value. What
is written is read back as it was, but an option that has written null is read back as nothing; so a
column takes whatever has been read from its own field, and what it takes it does not alter. A value is
refused exactly if the type under all options refuses it and it is not null for an option, and what is
wrong with it is its kind or, for the integers of 32 bits, that it is out of bounds. -/
theorem read_write_inverse (type : FieldType) :
    (∀ v a, type.read v = .ok a → type.write a = v) ∧
    (∀ a, type.isOptional = false ∨ type.write a ≠ .null → type.read (type.write a) = .ok a) ∧
    (∀ a : (optional type).Carrier, (optional type).write a = .null →
      (optional type).read ((optional type).write a) = .ok none) ∧
    (∀ c : Column, c.type = type → ∀ a, c.accept (type.write a) = .ok (type.write a)) ∧
    (∀ c : Column, c.type = type → ∀ v w, c.accept v = .ok w → w = v) ∧
    (∀ v, (∃ e, type.read v = .error e) ↔
      (∃ e, type.base.read v = .error e) ∧ ¬(type.isOptional = true ∧ v = .null)) ∧
    ∀ v e, type.read v = .error e ↔
      type.base.Rejects v e ∧ ¬(type.isOptional = true ∧ v = .null) := by
  refine ⟨fun v a => write_of_read, read_write, fun a hnull => ?_, fun c hc a => ?_,
    fun c hc v w h => (Column.accept_eq_ok_iff.1 h).2, fun v => ?_, fun v e => read_eq_error_iff⟩
  · rw [hnull]
    rfl
  · subst hc
    exact Column.accept_eq_ok_iff.2 ⟨Column.accepts_iff.2 (exists_read_write a), rfl⟩
  · simp only [read_eq_error_iff, read_eq_error_iff_rejects isOptional_base, exists_and_right]

/-- Of an option in an option nothing is left but that there is nothing. -/
example : (optional (optional int64)).read ((optional (optional int64)).write (some none)) =
    .ok none := rfl

end FieldType
end DesiredState
