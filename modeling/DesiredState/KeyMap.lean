/-! Finite maps from texts, kept as their entries in ascending order of the keys. The view of a map
is `get?`: each operation says what it does to it, and two maps with one view are equal. -/
namespace DesiredState

/-- Keys with what they stand for. -/
abbrev Entries (α : Type) := List (String × α)

namespace Entries

variable {α : Type}

/-- What the first entry of a key holds. -/
def get? : Entries α → String → Option α
  | [], _ => none
  | (j, b) :: es, k => if j = k then some b else get? es k

/-- Puts an entry before the first greater key, in place of an entry of the same key. -/
def insert (k : String) (a : α) : Entries α → Entries α
  | [] => [(k, a)]
  | (j, b) :: es =>
    if k < j then (k, a) :: (j, b) :: es
    else if j = k then (k, a) :: es
    else (j, b) :: insert k a es

/-- Drops the entries of a key. -/
def erase (k : String) (es : Entries α) : Entries α := es.filter fun e => e.1 ≠ k

/-- The entries in ascending order, of each key the last one. -/
def sorted (es : Entries α) : Entries α := es.foldl (fun m e => insert e.1 e.2 m) []

/-- The keys ascend, so that no key occurs twice. -/
def Ascending (es : Entries α) : Prop := es.Pairwise fun a b => a.1 < b.1

theorem mem_insert {k : String} {a : α} {es : Entries α} {e : String × α}
    (h : e ∈ insert k a es) : e = (k, a) ∨ e ∈ es := by
  induction es with
  | nil => simpa [insert] using h
  | cons d es ih =>
    obtain ⟨j, b⟩ := d
    rw [insert] at h
    split at h
    · simpa using h
    · split at h
      · simp only [List.mem_cons] at h ⊢; exact h.imp_right .inr
      · simp only [List.mem_cons] at h ⊢
        rcases h with h | h
        · exact .inr (.inl h)
        · exact (ih h).imp_right .inr

theorem Ascending.insert {es : Entries α} (h : Ascending es) (k : String) (a : α) :
    Ascending (es.insert k a) := by
  induction es with
  | nil => simp [Entries.insert, Ascending]
  | cons d es ih =>
    obtain ⟨j, b⟩ := d
    rw [Ascending, List.pairwise_cons] at h
    rw [Entries.insert]
    split
    · next hk =>
      refine .cons ?_ (.cons h.1 h.2)
      intro e he
      rcases List.mem_cons.1 he with rfl | he
      · exact hk
      · exact String.lt_trans hk (h.1 e he)
    · next hk =>
      split
      · next hj => exact .cons (hj ▸ h.1) h.2
      · next hj =>
        have hlt : j < k := (Std.not_le.1 fun hle => hj
          (String.le_antisymm (Std.not_lt.1 hk) hle))
        refine .cons ?_ (ih h.2)
        intro e he
        rcases mem_insert he with rfl | he
        · exact hlt
        · exact h.1 e he

theorem Ascending.erase {es : Entries α} (h : Ascending es) (k : String) :
    Ascending (es.erase k) := List.Pairwise.filter _ h

theorem get?_insert (k j : String) (a : α) (es : Entries α) :
    (insert k a es).get? j = if k = j then some a else es.get? j := by
  induction es with
  | nil => simp [insert, get?]
  | cons d es ih =>
    obtain ⟨i, b⟩ := d
    rw [insert]
    split
    · simp [get?]
    · split <;> grind [get?]

theorem get?_erase (k j : String) (es : Entries α) :
    (erase k es).get? j = if k = j then none else es.get? j := by
  induction es with
  | nil => simp [erase, get?]
  | cons d es ih =>
    obtain ⟨i, b⟩ := d
    simp only [erase, List.filter_cons] at ih ⊢
    split <;> grind [get?]

theorem get?_map {β : Type} (f : α → β) (es : Entries α) (k : String) :
    get? (es.map fun e => (e.1, f e.2)) k = (es.get? k).map f := by
  induction es with
  | nil => rfl
  | cons e es ih =>
    simp only [List.map_cons, get?]
    split
    · rfl
    · exact ih

theorem mem_of_get? {k : String} {a : α} {es : Entries α} (h : es.get? k = some a) :
    (k, a) ∈ es := by
  induction es with
  | nil => simp [get?] at h
  | cons d es ih =>
    obtain ⟨j, b⟩ := d
    rw [get?] at h
    split at h
    · next hj => simp_all
    · exact List.mem_cons_of_mem _ (ih h)

theorem Ascending.get?_of_mem {k : String} {a : α} {es : Entries α} (h : Ascending es)
    (he : (k, a) ∈ es) : es.get? k = some a := by
  induction es with
  | nil => simp at he
  | cons d es ih =>
    obtain ⟨j, b⟩ := d
    rw [Ascending, List.pairwise_cons] at h
    rcases List.mem_cons.1 he with he | he
    · simp_all [get?]
    · have hne : j ≠ k := fun hj => String.lt_irrefl k (hj ▸ h.1 _ he)
      rw [get?, if_neg hne]
      exact ih h.2 he

theorem Ascending.get?_eq_none_of_lt {k : String} {d : String × α} {es : Entries α}
    (h : Ascending (d :: es)) (hk : k < d.1) : get? (d :: es) k = none := by
  refine Option.eq_none_iff_forall_ne_some.2 fun a ha => ?_
  rcases List.mem_cons.1 (mem_of_get? ha) with rfl | he
  · exact String.lt_irrefl _ hk
  · exact String.lt_irrefl _ (String.lt_trans hk ((List.pairwise_cons.1 h).1 _ he))

/-- Ascending entries with the same view are the same entries. -/
theorem Ascending.ext {es fs : Entries α} (he : Ascending es) (hf : Ascending fs)
    (h : ∀ k, es.get? k = fs.get? k) : es = fs := by
  induction es generalizing fs with
  | nil =>
    cases fs with
    | nil => rfl
    | cons f fs => simpa [get?] using h f.1
  | cons d es ih =>
    cases fs with
    | nil => simpa [get?] using h d.1
    | cons f fs =>
      have hd : d.1 = f.1 := by
        refine String.le_antisymm (Std.not_lt.1 fun hlt => ?_) (Std.not_lt.1 fun hlt => ?_)
        · have := h f.1
          rw [he.get?_eq_none_of_lt hlt] at this
          simp [get?] at this
        · have := h d.1
          rw [hf.get?_eq_none_of_lt hlt] at this
          simp [get?] at this
      obtain ⟨j, a⟩ := d
      obtain ⟨j', b⟩ := f
      obtain rfl : j = j' := hd
      obtain rfl : a = b := by simpa [get?] using h j
      rw [ih (List.pairwise_cons.1 he).2 (List.pairwise_cons.1 hf).2]
      intro k
      by_cases hk : j = k
      · subst hk
        have none_of {gs : Entries α} (hg : Ascending ((j, a) :: gs)) : get? gs j = none :=
          Option.eq_none_iff_forall_ne_some.2 fun c hc =>
            String.lt_irrefl j ((List.pairwise_cons.1 hg).1 (j, c) (mem_of_get? hc))
        rw [none_of he, none_of hf]
      · simpa [get?, hk] using h k

theorem Ascending.foldl_insert {m : Entries α} (h : Ascending m) (es : Entries α) :
    Ascending (es.foldl (fun m e => Entries.insert e.1 e.2 m) m) := by
  induction es generalizing m with
  | nil => exact h
  | cons e es ih => exact ih (h.insert e.1 e.2)

theorem ascending_sorted (es : Entries α) : Ascending (sorted es) :=
  Ascending.foldl_insert .nil es

theorem insert_of_forall_lt {k : String} {a : α} {es : Entries α} (h : ∀ e ∈ es, e.1 < k) :
    insert k a es = es ++ [(k, a)] := by
  induction es with
  | nil => rfl
  | cons d es ih =>
    have hd : d.1 < k := h d List.mem_cons_self
    have hle : ¬k < d.1 := fun hk => String.lt_irrefl k (String.lt_trans hk hd)
    have hne : d.1 ≠ k := fun hk => String.lt_irrefl k (hk ▸ hd)
    rw [insert, if_neg hle, if_neg hne, ih fun e he => h e (List.mem_cons_of_mem _ he),
      List.cons_append]

theorem Ascending.foldl_insert_eq_append {m es : Entries α} (h : Ascending (m ++ es)) :
    es.foldl (fun m e => Entries.insert e.1 e.2 m) m = m ++ es := by
  induction es generalizing m with
  | nil => exact (List.append_nil m).symm
  | cons e es ih =>
    have hlast : ∀ d ∈ m, d.1 < e.1 := fun d hd =>
      (List.pairwise_append.1 h).2.2 d hd e List.mem_cons_self
    rw [List.append_cons] at h ⊢
    rw [List.foldl_cons, insert_of_forall_lt hlast, ih h]

/-- Entries that ascend already stay as they are. -/
theorem Ascending.sorted_eq {es : Entries α} (h : Ascending es) : sorted es = es :=
  foldl_insert_eq_append h

end Entries

/-- A finite map from texts. -/
structure KeyMap (α : Type) where
  entries : Entries α
  ascending : entries.Ascending

namespace KeyMap

variable {α : Type}

def empty : KeyMap α := ⟨[], .nil⟩

instance : EmptyCollection (KeyMap α) := ⟨empty⟩
instance : Inhabited (KeyMap α) := ⟨empty⟩
instance [DecidableEq α] : DecidableEq (KeyMap α) := fun m n =>
  decidable_of_iff (m.entries = n.entries)
    ⟨fun h => by cases m; cases n; simp_all, fun h => h ▸ rfl⟩

/-- What a key stands for, if it occurs. -/
def get? (m : KeyMap α) (k : String) : Option α := m.entries.get? k

def contains (m : KeyMap α) (k : String) : Bool := (m.get? k).isSome

def insert (m : KeyMap α) (k : String) (a : α) : KeyMap α :=
  ⟨m.entries.insert k a, m.ascending.insert k a⟩

def erase (m : KeyMap α) (k : String) : KeyMap α := ⟨m.entries.erase k, m.ascending.erase k⟩

def size (m : KeyMap α) : Nat := m.entries.length

/-- All keys, ascending. -/
def keys (m : KeyMap α) : List String := m.entries.map (·.1)

/-- What the keys stand for, in ascending order of the keys. -/
def values (m : KeyMap α) : List α := m.entries.map (·.2)

@[simp] theorem get?_empty (k : String) : (∅ : KeyMap α).get? k = none := rfl

@[simp] theorem get?_insert (m : KeyMap α) (k j : String) (a : α) :
    (m.insert k a).get? j = if k = j then some a else m.get? j :=
  Entries.get?_insert k j a m.entries

@[simp] theorem get?_erase (m : KeyMap α) (k j : String) :
    (m.erase k).get? j = if k = j then none else m.get? j :=
  Entries.get?_erase k j m.entries

theorem get?_eq_some_iff {m : KeyMap α} {k : String} {a : α} :
    m.get? k = some a ↔ (k, a) ∈ m.entries :=
  ⟨Entries.mem_of_get?, m.ascending.get?_of_mem⟩

theorem mem_keys_iff {m : KeyMap α} {k : String} : k ∈ m.keys ↔ ∃ a, m.get? k = some a := by
  simp [keys, get?_eq_some_iff]

theorem pairwise_keys (m : KeyMap α) : m.keys.Pairwise (· < ·) := List.pairwise_map.2 m.ascending

theorem nodup_keys (m : KeyMap α) : m.keys.Nodup := by
  refine List.Pairwise.imp (fun {a b} hlt heq => ?_) m.pairwise_keys
  exact String.lt_irrefl b (heq ▸ hlt)

@[ext] theorem ext {m n : KeyMap α} (h : ∀ k, m.get? k = n.get? k) : m = n := by
  obtain ⟨es, he⟩ := m
  obtain ⟨fs, hf⟩ := n
  obtain rfl : es = fs := he.ext hf h
  rfl

example : ((∅ : KeyMap Nat).insert "b" 1 |>.insert "a" 2 |>.insert "b" 3).entries =
    [("a", 2), ("b", 3)] := by decide +kernel

end KeyMap
end DesiredState
