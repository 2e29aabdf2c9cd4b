import DesiredState.Proofs.Denotation
import DesiredState.Proofs.LastRecord
import DesiredState.Proofs.Merging

/-! When two values are equal, and two rows. But for what is no number, values are equal if the same
remains of them when zeros have lost their signs. Documents are equal if they have the same shape and
equal leaves, where the members of an object are looked up by their keys; and rows if they have equal
values in all columns that are not ignored. -/
namespace DesiredState

namespace Document

mutual

/-- The same document with no sign at any zero. -/
def unsignedZeros : Document → Document
  | number n => number n.unsignedZero
  | array items => array (unsignedItems items)
  | object members => object (unsignedMembers members)
  | d => d

def unsignedItems : List Document → List Document
  | [] => []
  | d :: ds => d.unsignedZeros :: unsignedItems ds

def unsignedMembers : List (String × Document) → List (String × Document)
  | [] => []
  | (k, d) :: ms => (k, d.unsignedZeros) :: unsignedMembers ms

end

mutual

/-- Documents are equal if they differ in the signs of zeros at most. -/
theorem equals_iff_unsignedZeros : (d e : Document) →
    (d.equals e = true ↔ d.unsignedZeros = e.unsignedZeros)
  | null, e => by cases e <;> simp [equals, unsignedZeros]
  | boolean a, e => by cases e <;> simp [equals, unsignedZeros]
  | number m, e => by cases e <;> simp [equals, unsignedZeros, Numeral.equals_iff_unsignedZero]
  | text s, e => by cases e <;> simp [equals, unsignedZeros]
  | array as, e => by cases e <;> simp [equals, unsignedZeros, equalItems_iff as]
  | object ms, e => by cases e <;> simp [equals, unsignedZeros, equalMembers_iff ms]

theorem equalItems_iff : (as bs : List Document) →
    (equalItems as bs = true ↔ unsignedItems as = unsignedItems bs)
  | [], bs => by cases bs <;> simp [equalItems, unsignedItems]
  | a :: as, bs => by
    cases bs <;> simp [equalItems, unsignedItems, equals_iff_unsignedZeros a, equalItems_iff as]

theorem equalMembers_iff : (ms ns : List (String × Document)) →
    (equalMembers ms ns = true ↔ unsignedMembers ms = unsignedMembers ns)
  | [], ns => by cases ns <;> simp [equalMembers, unsignedMembers]
  | (k, d) :: ms, ns => by
    cases ns <;>
      simp [equalMembers, unsignedMembers, equals_iff_unsignedZeros d, equalMembers_iff ms, and_assoc]

end

lemma canonicalMembers_eq_map (ms : List (String × Document)) :
    canonicalMembers ms = ms.map fun m => (m.1, m.2.canonical) := by
  induction ms with
  | nil => rfl
  | cons m ms ih => rw [canonicalMembers, ih, List.map_cons]

lemma unsignedMembers_eq_map (ms : List (String × Document)) :
    unsignedMembers ms = ms.map fun m => (m.1, m.2.unsignedZeros) := by
  induction ms with
  | nil => rfl
  | cons m ms ih => rw [unsignedMembers, ih, List.map_cons]

/-- What the last member of a key holds, as members are written. -/
def member? (members : List (String × Document)) (k : String) : Option Document :=
  (lastOf (·.1) members k).map (·.2)

lemma exists_of_member? {ms : List (String × Document)} {k : String} {d : Document}
    (h : member? ms k = some d) : ∃ m ∈ ms, m.2 = d := by
  obtain ⟨m, hm, rfl⟩ := Option.map_eq_some_iff.1 h
  exact ⟨m, (mem_of_lastOf hm).1, rfl⟩

lemma get?_sorted_canonicalMembers (ms : List (String × Document)) (k : String) :
    (Entries.sorted (canonicalMembers ms)).get? k = (member? ms k).map canonical := by
  rw [Entries.get?_sorted, canonicalMembers_eq_map, lastOf_map, member?, Option.map_map,
    Option.map_map]
  rfl

lemma rel_equals_iff {o o' : Option Document} :
    Option.Rel (fun d e => d.equals e = true) o o' ↔ o.map unsignedZeros = o'.map unsignedZeros := by
  cases o <;> cases o' <;> simp [equals_iff_unsignedZeros]

/-- Members in the order of their keys are equal one by one if they are so key by key. -/
lemma equalMembers_iff_rel {ms ns : Entries Document} (hms : ms.Ascending) (hns : ns.Ascending) :
    equalMembers ms ns = true ↔
      ∀ k, Option.Rel (fun d e => d.equals e = true) (ms.get? k) (ns.get? k) := by
  simp only [rel_equals_iff]
  rw [equalMembers_iff, unsignedMembers_eq_map, unsignedMembers_eq_map]
  refine ⟨fun h k => ?_, hms.map_eq hns⟩
  rw [← Entries.get?_map, h, Entries.get?_map]

/-- When two documents are the same as they are written. An integer is never a real number. Arrays are
the same item by item, and objects key by key, where the last member of a key counts. -/
@[mk_iff]
inductive Same : Document → Document → Prop
  | null : Same null null
  | boolean (b : Bool) : Same (boolean b) (boolean b)
  | integer (i : Int) : Same (number (.integer i)) (number (.integer i))
  | real {x y : Binary64.Finite} (h : x.val.denoted = y.val.denoted) :
    Same (number (.real x)) (number (.real y))
  | text (s : String) : Same (text s) (text s)
  | array {as bs : List Document} (h : List.Forall₂ Same as bs) : Same (array as) (array bs)
  | object {ms ns : List (String × Document)}
    (h : ∀ k, Option.Rel Same (member? ms k) (member? ns k)) : Same (object ms) (object ns)

lemma same_number_iff {m n : Numeral} : (number m).Same (number n) ↔ m.equals n = true := by
  cases m with
  | integer i => cases n <;> simp [same_iff, Numeral.equals, @eq_comm _ i]
  | real x =>
    cases n with
    | integer j => simp [same_iff, Numeral.equals]
    | real y => simp [same_iff, Numeral.equals_real_iff]

mutual

/-- Documents are held in canonical form, and are equal then if they have been written the same. -/
theorem canonical_equals_iff : (d e : Document) → (d.canonical.equals e.canonical = true ↔ d.Same e)
  | null, e => by cases e <;> simp [canonical, equals, same_iff]
  | boolean b, e => by cases e <;> simp [canonical, equals, same_iff, @eq_comm _ b]
  | number m, e => by
    cases e with
    | number n => simp [canonical, equals, same_number_iff]
    | _ => simp [canonical, equals, same_iff]
  | text s, e => by cases e <;> simp [canonical, equals, same_iff, @eq_comm _ s]
  | array as, e => by cases e <;> simp [canonical, equals, same_iff, canonical_equalItems_iff as]
  | object ms, e => by
    have hmembers (ns : List (String × Document)) :
        (object ms).canonical.equals (object ns).canonical = true ↔
          ∀ k, Option.Rel Same (member? ms k) (member? ns k) := by
      rw [canonical, canonical, equals, equalMembers_iff_rel (Entries.ascending_sorted _)
        (Entries.ascending_sorted _)]
      simp only [get?_sorted_canonicalMembers]
      refine forall_congr' fun k => ?_
      cases hd : member? ms k with
      | none => cases member? ns k <;> simp
      | some d =>
        obtain ⟨m, hm, rfl⟩ := exists_of_member? hd
        cases member? ns k <;> simp [canonical_equals_member_iff ms m hm]
    cases e with
    | object ns => simp [hmembers, same_iff]
    | _ => simp [canonical, equals, same_iff]

theorem canonical_equalItems_iff : (as bs : List Document) →
    (equalItems (canonicalItems as) (canonicalItems bs) = true ↔ List.Forall₂ Same as bs)
  | [], bs => by cases bs <;> simp [canonicalItems, equalItems]
  | a :: as, bs => by
    cases bs <;>
      simp [canonicalItems, equalItems, canonical_equals_iff a, canonical_equalItems_iff as]

theorem canonical_equals_member_iff : (ms : List (String × Document)) → ∀ m ∈ ms, ∀ e,
    (m.2.canonical.equals e.canonical = true ↔ m.2.Same e)
  | [], m, hm => by cases hm
  | (k, d) :: ms, m, hm => by
    intro e
    rcases List.mem_cons.1 hm with rfl | hm
    · exact canonical_equals_iff d e
    · exact canonical_equals_member_iff ms m hm e

end

lemma canonical_object_of_perm {ms ns : List (String × Document)} (h : ms.Perm ns)
    (hnodup : (ms.map (·.1)).Nodup) : (object ms).canonical = (object ns).canonical := by
  rw [canonical, canonical, object.injEq]
  refine (Entries.ascending_sorted _).ext (Entries.ascending_sorted _) fun k => ?_
  rw [get?_sorted_canonicalMembers, get?_sorted_canonicalMembers, member?, member?,
    lastOf_perm h hnodup]

end Document

namespace Value
variable {u v w : Value}

/-- The same value with no sign at any zero. -/
def unsignedZeros : Value → Value
  | real x => real x.unsignedZero
  | document d => document d.unsignedZeros
  | v => v

/-- Values are equal if they are numbers where they should be, and differ in the signs of zeros at
most. -/
theorem equals_iff_unsignedZeros : v.equals w = true ↔
    v.isNaN = false ∧ w.isNaN = false ∧ v.unsignedZeros = w.unsignedZeros := by
  cases v <;> cases w <;>
    simp [equals, isNaN, unsignedZeros, Binary64.equals_iff_unsignedZero,
      Document.equals_iff_unsignedZeros]

lemma equals_symm (h : v.equals w = true) : w.equals v = true := by
  rw [equals_iff_unsignedZeros] at h ⊢
  exact ⟨h.2.1, h.1, h.2.2.symm⟩

lemma equals_trans (huv : u.equals v = true) (hvw : v.equals w = true) : u.equals w = true := by
  rw [equals_iff_unsignedZeros] at huv hvw ⊢
  exact ⟨huv.1, hvw.2.1, huv.2.2.trans hvw.2.2⟩

lemma equals_eq_false_of_kind (h : v.kind ≠ w.kind) : v.equals w = false := by
  cases v <;> cases w <;> simp [equals, kind] at h ⊢

/-- A value as a row holds it. -/
def canonical : Value → Value
  | document d => document d.canonical
  | v => v

/-- When two values are the same as they are written. -/
@[mk_iff]
inductive Same : Value → Value → Prop
  | null : Same null null
  | boolean (b : Bool) : Same (boolean b) (boolean b)
  | integer (i : Int64) : Same (integer i) (integer i)
  | real {x y : Binary64} (hx : x.isNaN = false) (hy : y.isNaN = false)
    (h : x.denoted = y.denoted) : Same (real x) (real y)
  | text (s : String) : Same (text s) (text s)
  | blob (bytes : List UInt8) : Same (blob bytes) (blob bytes)
  | document {d e : Document} (h : d.Same e) : Same (document d) (document e)

theorem canonical_equals_iff : v.canonical.equals w.canonical = true ↔ v.Same w := by
  cases v <;> cases w <;>
    simp [canonical, equals, same_iff, Binary64.equals_iff_denoted, Document.canonical_equals_iff]
  all_goals exact eq_comm

end Value

namespace Table
variable {t : Table} {a b c : t.Row}

/-- Comparing field by field: rows with the same number of fields match if all pairs of fields are
equal that are not ignored. -/
def equalFields (t : Table) (stored desired : t.Row) : Bool :=
  if (t.fields stored).length ≠ (t.fields desired).length then false
  else (t.pairedFields stored desired).all fun p => p.1.value.equals p.2.value

lemma equalFields_eq_equals (stored desired : t.Row) :
    t.equalFields stored desired = t.policy.equals stored desired := by
  have hlength (row : t.Row) : (t.fields row).length = t.indices.length := List.length_map _
  rw [equalFields, if_neg (by simp [hlength]), pairedFields_eq_map, List.all_map]
  rfl

lemma policy_equals_symm (h : t.policy.equals a b = true) : t.policy.equals b a = true :=
  policy_equals_iff.2 fun i hi => Value.equals_symm (policy_equals_iff.1 h i hi)

lemma policy_equals_trans (hab : t.policy.equals a b = true) (hbc : t.policy.equals b c = true) :
    t.policy.equals a c = true :=
  policy_equals_iff.2 fun i hi =>
    Value.equals_trans (policy_equals_iff.1 hab i hi) (policy_equals_iff.1 hbc i hi)

lemma policy_equals_self_iff : t.policy.equals a a = true ↔
    ∀ i, (t.column i).ignored = false → (get a i).isNaN = false := by
  rw [policy_equals_of_agree fun _ _ => rfl, Bool.not_eq_true', holdsNaN_eq_false_iff]
  simp only [mem_compared]

lemma policy_equals_congr {a' b' : t.Row} (ha : ∀ i ∈ t.compared, get a' i = get a i)
    (hb : ∀ i ∈ t.compared, get b' i = get b i) : t.policy.equals a' b' = t.policy.equals a b := by
  rw [Bool.eq_iff_iff, policy_equals_iff, policy_equals_iff]
  exact forall₂_congr fun i hi => by rw [ha i hi, hb i hi]

lemma policy_equals_eq_false_iff : t.policy.equals a b = false ↔
    ∃ i, (t.column i).ignored = false ∧ (get a i).equals (get b i) = false := by
  rw [← Bool.not_eq_true, policy_equals_iff]
  simp

/-- Comparing rows is comparing them field by field. It is symmetric and transitive, and a row matches
itself unless it holds a real number that is no number in a column that is not ignored. What is in
ignored columns never matters, and of the others one with unequal values is enough. Values of different
kinds are never equal, values of one kind if they have been written the same, and for this the order of
the members of an object does not matter. -/
theorem equals_sees_compared (t : Table) :
    (∀ a b : t.Row, t.equalFields a b = t.policy.equals a b) ∧
    (∀ a b : t.Row, t.policy.equals a b = true → t.policy.equals b a = true) ∧
    (∀ a b c : t.Row, t.policy.equals a b = true → t.policy.equals b c = true →
      t.policy.equals a c = true) ∧
    (∀ a : t.Row, t.policy.equals a a = true ↔
      ∀ i, (t.column i).ignored = false → (get a i).isNaN = false) ∧
    (∀ a b a' b' : t.Row, (∀ i, (t.column i).ignored = false → get a' i = get a i) →
      (∀ i, (t.column i).ignored = false → get b' i = get b i) →
      t.policy.equals a' b' = t.policy.equals a b) ∧
    (∀ a b : t.Row, t.policy.equals a b = false ↔
      ∃ i, (t.column i).ignored = false ∧ (get a i).equals (get b i) = false) ∧
    (∀ v w : Value, v.kind ≠ w.kind → v.equals w = false) ∧
    (∀ v w : Value, v.canonical.equals w.canonical = true ↔ v.Same w) ∧
    ∀ ms ns : List (String × Document), ms.Perm ns → (ms.map (·.1)).Nodup →
      (Document.object ms).canonical = (Document.object ns).canonical := by
  refine ⟨equalFields_eq_equals, fun a b => policy_equals_symm, fun a b c => policy_equals_trans,
    fun a => policy_equals_self_iff, fun a b a' b' ha hb => ?_,
    fun a b => policy_equals_eq_false_iff, fun v w => Value.equals_eq_false_of_kind,
    fun v w => Value.canonical_equals_iff, fun ms ns => Document.canonical_object_of_perm⟩
  exact policy_equals_congr (fun i hi => ha i (mem_compared.1 hi)) fun i hi => hb i (mem_compared.1 hi)

end Table
end DesiredState
