import DesiredState.Proofs.ByteOrder
import DesiredState.Proofs.Spelling
import DesiredState.Value.Tagged

/-! Values are read back from their texts. A document without real numbers, with its members in the
order of their keys and its integers within 64 bits, is what its compact text denotes, if it is nested
no deeper than the reader goes. -/
namespace DesiredState

namespace Numeral

lemma int64?_toInt (i : Int64) : int64? i.toInt = some i := by
  rw [int64?, if_pos ⟨i.minValue_le_toInt, i.toInt_le⟩, Int64.ofInt_toInt]

lemma fits_int64 (i : Int64) : fits i.toInt = true := by
  have hmin : Int64.minValue.toInt ≤ i.toInt := i.minValue_le_toInt
  have hmax : i.toInt ≤ Int64.maxValue.toInt := i.toInt_le
  have hsize : Int64.maxValue.toInt < UInt64.size := by decide
  simp only [fits, Bool.and_eq_true, decide_eq_true_eq]
  omega

lemma fits_byte (b : UInt8) : fits b.toNat = true := by
  have hb : b.toNat < 256 := b.toNat_lt
  have hmin : Int64.minValue.toInt ≤ 0 := by decide
  have hsize : 256 ≤ UInt64.size := by decide
  simp only [fits, Bool.and_eq_true, decide_eq_true_eq]
  omega

end Numeral

namespace Document

/-- Documents without real numbers, as they are held: the integers are those that numerals can denote,
and the members of each object have ascending keys. -/
inductive Held : Document → Prop
  | null : Held null
  | boolean (b : Bool) : Held (boolean b)
  | integer {i : Int} (hfits : Numeral.fits i = true) : Held (number (.integer i))
  | text (s : String) : Held (text s)
  | array {items : List Document} (hitems : ∀ d ∈ items, Held d) : Held (array items)
  | object {members : List (String × Document)}
      (hkeys : members.Pairwise fun m n => Text.bytes m.1 < Text.bytes n.1)
      (hmembers : ∀ m ∈ members, Held m.2) : Held (object members)

mutual

def depth : Document → Nat
  | array items => depthItems items + 1
  | object members => depthMembers members + 1
  | _ => 0

def depthItems : List Document → Nat
  | [] => 0
  | d :: ds => max d.depth (depthItems ds)

def depthMembers : List (String × Document) → Nat
  | [] => 0
  | (_, d) :: ms => max d.depth (depthMembers ms)

end

lemma skipBlanks_cons {c : Char} (cs : List Char) (hc : isBlank c = false) :
    skipBlanks (c :: cs) = c :: cs := List.dropWhile_cons_of_neg (by simp [hc])

lemma ends_writeItems (ds : List Document) (rest : List Char) :
    Numeral.Ends (writeItems ds ++ rest) := by
  cases ds <;> rintro c ⟨⟩ <;> decide

lemma ends_writeMembers (ms : List (String × Document)) (rest : List Char) :
    Numeral.Ends (writeMembers ms ++ rest) := by
  cases ms <;> rintro c ⟨⟩ <;> decide

lemma isBlank_of_starts {c : Char} (hc : Numeral.Starts c) : isBlank c = false := by
  simp only [isBlank, Bool.or_eq_false_iff, beq_eq_false_iff_ne]
  exact ⟨⟨⟨hc.ne (by decide), hc.ne (by decide)⟩, hc.ne (by decide)⟩, hc.ne (by decide)⟩

section Steps
variable {fuel depth : Nat} {c : Char} {cs rest : List Char} {d : Document}

lemma readValue_number (hc : Numeral.Starts c) :
    readValue (fuel + 1) depth (c :: cs) =
      (Numeral.read (c :: cs)).map fun r => (number r.1, r.2) := by
  rw [readValue, skipBlanks_cons cs (isBlank_of_starts hc)]
  split
  · next h => exact absurd (List.cons.inj h).1 (hc.ne (by decide))
  · next h => exact absurd (List.cons.inj h).1 (hc.ne (by decide))
  · next h => exact absurd (List.cons.inj h).1 (hc.ne (by decide))
  · next h => exact absurd (List.cons.inj h).1 (hc.ne (by decide))
  · next h => exact absurd (List.cons.inj h).1 (hc.ne (by decide))
  · next h => exact absurd (List.cons.inj h).1 (hc.ne (by decide))
  · exact Option.map_eq_bind.symm

lemma readText_writeText (s : String) :
    readText (s.toList.flatMap escape ++ ['"'] ++ rest) = some (s.toList, rest) := by
  rw [List.append_assoc, List.singleton_append, readText_flatMap_escape]

lemma readValue_text (s : String) :
    readValue (fuel + 1) depth (writeText s ++ rest) = some (text s, rest) := by
  rw [writeText, List.cons_append, readValue, skipBlanks_cons _ (by decide)]
  simp only [readText_writeText, Option.bind_eq_bind, Option.bind_some, String.ofList_toList]
  rfl

lemma readValue_array (hc : isBlank c = false) (hend : c ≠ ']') :
    readValue (fuel + 1) (depth + 1) ('[' :: c :: cs) =
      (readItems fuel depth (c :: cs)).map fun r => (array r.1, r.2) := by
  rw [readValue, skipBlanks_cons _ (by decide)]
  simp only [skipBlanks_cons cs hc]
  split
  · next h => cases h
  · next h _ => exact absurd (List.cons.inj h).1 hend
  · next h _ =>
    cases h
    exact Option.map_eq_bind.symm

lemma readValue_object :
    readValue (fuel + 1) (depth + 1) ('{' :: '"' :: cs) =
      (readMembers fuel depth ('"' :: cs)).map fun r => (object r.1, r.2) := by
  rw [readValue, skipBlanks_cons _ (by decide)]
  exact Option.map_eq_bind.symm

lemma readItems_of_none (h : readValue fuel depth cs = none) :
    readItems (fuel + 1) depth cs = none := by
  rw [readItems, h]
  rfl

lemma readItems_last (h : readValue fuel depth cs = some (d, ']' :: rest)) :
    readItems (fuel + 1) depth cs = some ([d], rest) := by
  rw [readItems, h]
  rfl

lemma readItems_cons (h : readValue fuel depth cs = some (d, ',' :: rest)) :
    readItems (fuel + 1) depth cs = (readItems fuel depth rest).map fun r => (d :: r.1, r.2) := by
  rw [readItems, h, Option.map_eq_bind]
  rfl

lemma readMembers_of_none (k : String) (h : readValue fuel depth cs = none) :
    readMembers (fuel + 1) depth (writeText k ++ ':' :: cs) = none := by
  rw [writeText, List.cons_append, readMembers, skipBlanks_cons _ (by decide)]
  simp only [readText_writeText, Option.bind_eq_bind, Option.bind_some]
  rw [skipBlanks_cons cs (by decide)]
  simp only [h, Option.bind_none]

lemma readMembers_last (k : String) (h : readValue fuel depth cs = some (d, '}' :: rest)) :
    readMembers (fuel + 1) depth (writeText k ++ ':' :: cs) = some ([(k, d)], rest) := by
  rw [writeText, List.cons_append, readMembers, skipBlanks_cons _ (by decide)]
  simp only [readText_writeText, Option.bind_eq_bind, Option.bind_some, String.ofList_toList]
  rw [skipBlanks_cons cs (by decide)]
  simp only [h, Option.bind_some]
  rfl

lemma readMembers_cons (k : String) (h : readValue fuel depth cs = some (d, ',' :: rest)) :
    readMembers (fuel + 1) depth (writeText k ++ ':' :: cs) =
      (readMembers fuel depth rest).map fun r => ((k, d) :: r.1, r.2) := by
  rw [writeText, List.cons_append, readMembers, skipBlanks_cons _ (by decide)]
  simp only [readText_writeText, Option.bind_eq_bind, Option.bind_some, String.ofList_toList]
  rw [skipBlanks_cons cs (by decide)]
  simp only [h, Option.bind_some]
  exact Option.map_eq_bind.symm

end Steps

/-- A document starts neither with a blank nor as an array ends. -/
lemma Held.exists_write_eq_cons {d : Document} (h : d.Held) :
    ∃ c cs, d.write = c :: cs ∧ isBlank c = false ∧ c ≠ ']' := by
  cases h with
  | null => exact ⟨_, _, rfl, by decide, by decide⟩
  | boolean b => cases b <;> exact ⟨_, _, rfl, by decide, by decide⟩
  | @integer i hfits =>
    obtain ⟨c, cs, hcs, hc⟩ := Numeral.exists_writeInteger_eq_cons i
    exact ⟨c, cs, hcs, isBlank_of_starts hc, hc.ne (by decide)⟩
  | text s => exact ⟨_, _, rfl, by decide, by decide⟩
  | @array items hitems => cases items <;> exact ⟨_, _, rfl, by decide, by decide⟩
  | @object members hkeys hmembers => cases members <;> exact ⟨_, _, rfl, by decide, by decide⟩

lemma length_writeItems_pos (ds : List Document) : 0 < (writeItems ds).length := by
  cases ds <;> exact Nat.succ_pos _

lemma length_writeMembers_pos (ms : List (String × Document)) : 0 < (writeMembers ms).length := by
  cases ms <;> exact Nat.succ_pos _

-- Each call is paid for by two characters, so that the fuel lasts for all parts of the text. A numeral
-- is followed by a comma, by what closes an array or an object, or by nothing.
mutual

/-- A held document is read back from its text unless it is nested too deep. -/
theorem readValue_write : (d : Document) → d.Held → (fuel depth : Nat) → (rest : List Char) →
    2 * d.write.length ≤ fuel + 1 → Numeral.Ends rest →
    readValue (fuel + 1) depth (d.write ++ rest) = if d.depth ≤ depth then some (d, rest) else none
  | null, _, _, _, _, _, _ => rfl
  | boolean true, _, _, _, _, _, _ => rfl
  | boolean false, _, _, _, _, _, _ => rfl
  | number (.integer i), .integer hfits, fuel, depth, rest, _, hrest => by
    obtain ⟨c, cs, hcs, hc⟩ := Numeral.exists_writeInteger_eq_cons i
    have hread := Numeral.read_writeInteger hfits hrest
    rw [hcs, List.cons_append] at hread
    rw [write, Numeral.write, hcs, List.cons_append, readValue_number hc, hread]
    rfl
  | text s, _, fuel, depth, rest, _, _ => by
    rw [write, readValue_text]
    rfl
  | array [], _, _, 0, _, _, _ => rfl
  | array [], _, _, _ + 1, _, _, _ => rfl
  | array (_ :: _), _, _, 0, _, _, _ => rfl
  | array (d :: ds), .array hitems, fuel, depth + 1, rest, hfuel, _ => by
    have hpos := length_writeItems_pos ds
    simp only [write, List.length_cons, List.length_append] at hfuel
    obtain ⟨fuel, rfl⟩ : ∃ n, fuel = n + 1 := ⟨fuel - 1, by omega⟩
    have hread := readItems_write (d :: ds) hitems (List.cons_ne_nil d ds) fuel depth rest
      (by simp only [writeItems, List.length_cons, List.length_append]; omega)
    obtain ⟨c, cs, hcs, hblank, hend⟩ := (hitems d List.mem_cons_self).exists_write_eq_cons
    simp only [writeItems, List.tail_cons, hcs, List.cons_append] at hread
    simp only [write, hcs, List.cons_append]
    rw [readValue_array hblank hend, hread]
    simp only [Document.depth, Nat.add_le_add_iff_right]
    split <;> rfl
  | object [], _, _, 0, _, _, _ => rfl
  | object [], _, _, _ + 1, _, _, _ => rfl
  | object (_ :: _), _, _, 0, _, _, _ => rfl
  | object ((k, d) :: ms), .object _ hmembers, fuel, depth + 1, rest, hfuel, _ => by
    simp only [write, writeText, List.length_cons, List.length_append] at hfuel
    obtain ⟨fuel, rfl⟩ : ∃ n, fuel = n + 1 := ⟨fuel - 1, by omega⟩
    have hread := readMembers_write ((k, d) :: ms) hmembers (List.cons_ne_nil _ ms) fuel depth rest
      (by simp only [writeMembers, writeText, List.length_cons, List.length_append]; omega)
    simp only [writeMembers, List.tail_cons, writeText, List.cons_append] at hread
    simp only [write, writeText, List.cons_append]
    rw [readValue_object, hread]
    simp only [Document.depth, Nat.add_le_add_iff_right]
    split <;> rfl

theorem readItems_write : (items : List Document) → (∀ d ∈ items, d.Held) → items ≠ [] →
    (fuel depth : Nat) → (rest : List Char) → 2 * (writeItems items).length ≤ fuel + 3 →
    readItems (fuel + 1) depth ((writeItems items).tail ++ rest) =
      if depthItems items ≤ depth then some (items, rest) else none
  | [], _, hne, _, _, _, _ => absurd rfl hne
  | d :: ds, h, _, fuel, depth, rest, hfuel => by
    have hpos := length_writeItems_pos ds
    simp only [writeItems, List.length_cons, List.length_append] at hfuel
    obtain ⟨fuel, rfl⟩ : ∃ n, fuel = n + 1 := ⟨fuel - 1, by omega⟩
    have hread := readValue_write d (h d List.mem_cons_self) fuel depth (writeItems ds ++ rest)
      (by omega) (ends_writeItems ds rest)
    rw [writeItems, List.tail_cons, List.append_assoc, depthItems]
    by_cases hdepth : d.depth ≤ depth
    · rw [if_pos hdepth] at hread
      cases ds with
      | nil =>
        rw [writeItems, List.cons_append, List.nil_append] at hread ⊢
        rw [readItems_last hread, depthItems, Nat.max_zero, if_pos hdepth]
      | cons e ds =>
        have htail := readItems_write (e :: ds) (fun e he => h e (List.mem_cons_of_mem _ he))
          (List.cons_ne_nil e ds) fuel depth rest (by omega)
        rw [writeItems, List.cons_append] at hread ⊢
        rw [writeItems, List.tail_cons] at htail
        rw [readItems_cons hread, htail]
        simp only [Nat.max_le, hdepth, true_and]
        split <;> rfl
    · rw [if_neg hdepth] at hread
      rw [readItems_of_none hread, if_neg (by omega)]

theorem readMembers_write : (members : List (String × Document)) → (∀ m ∈ members, m.2.Held) →
    members ≠ [] → (fuel depth : Nat) → (rest : List Char) →
    2 * (writeMembers members).length ≤ fuel + 3 →
    readMembers (fuel + 1) depth ((writeMembers members).tail ++ rest) =
      if depthMembers members ≤ depth then some (members, rest) else none
  | [], _, hne, _, _, _, _ => absurd rfl hne
  | (k, d) :: ms, h, _, fuel, depth, rest, hfuel => by
    have hpos := length_writeMembers_pos ms
    simp only [writeMembers, writeText, List.length_cons, List.length_append] at hfuel
    obtain ⟨fuel, rfl⟩ : ∃ n, fuel = n + 1 := ⟨fuel - 1, by omega⟩
    have hread := readValue_write d (h (k, d) List.mem_cons_self) fuel depth
      (writeMembers ms ++ rest) (by omega) (ends_writeMembers ms rest)
    rw [writeMembers, List.tail_cons, List.append_assoc, List.cons_append, List.append_assoc,
      depthMembers]
    by_cases hdepth : d.depth ≤ depth
    · rw [if_pos hdepth] at hread
      cases ms with
      | nil =>
        rw [writeMembers, List.cons_append, List.nil_append] at hread ⊢
        rw [readMembers_last k hread, depthMembers, Nat.max_zero, if_pos hdepth]
      | cons m ms =>
        have htail := readMembers_write (m :: ms) (fun m hm => h m (List.mem_cons_of_mem _ hm))
          (List.cons_ne_nil m ms) fuel depth rest (by omega)
        obtain ⟨j, e⟩ := m
        rw [writeMembers, List.cons_append] at hread ⊢
        rw [writeMembers, List.tail_cons] at htail
        rw [readMembers_cons k hread, htail]
        simp only [Nat.max_le, hdepth, true_and]
        split <;> rfl
    · rw [if_neg hdepth] at hread
      rw [readMembers_of_none k hread, if_neg (by omega)]

end

/-- A held document is what its compact text denotes, if the reader gets to the end of it. -/
theorem Held.ofText?_compact {d : Document} (h : d.Held) :
    ofText? d.compact = if d.depth ≤ nestingLimit then some d else none := by
  have hread := readValue_write d h (2 * d.write.length + 1) nestingLimit [] (by omega)
    Numeral.ends_nil
  rw [List.append_nil] at hread
  rw [ofText?, compact, String.toList_ofList, hread]
  split <;> rfl

/-- Held documents can be told from their compact texts, however deep they are nested. -/
theorem Held.write_inj {d e : Document} (hd : d.Held) (he : e.Held) (h : d.write = e.write) :
    d = e := by
  have hread (f : Document) (hf : f.Held) (hfd : f.write = d.write)
      (hdepth : f.depth ≤ max d.depth e.depth) :
      readValue (2 * d.write.length + 1) (max d.depth e.depth) d.write = some (f, []) := by
    have hread := readValue_write f hf (2 * d.write.length) (max d.depth e.depth) []
      (by rw [hfd]; omega) Numeral.ends_nil
    rwa [List.append_nil, if_pos hdepth, hfd] at hread
  have hde : some (d, []) = some (e, []) :=
    (hread d hd rfl (le_max_left _ _)).symm.trans (hread e he h.symm (le_max_right _ _))
  exact (Prod.mk.inj (Option.some_inj.1 hde)).1

mutual

/-- The members of all objects in a held document are in order already. -/
theorem canonical_of_held : (d : Document) → d.Held → d.canonical = d
  | null, _ => rfl
  | boolean _, _ => rfl
  | number _, _ => rfl
  | text _, _ => rfl
  | array items, .array hitems => by rw [canonical, canonicalItems_of_held items hitems]
  | object members, .object hkeys hmembers => by
    have hascend : Entries.Ascending members := hkeys.imp Text.bytes_lt_iff.1
    rw [canonical, canonicalMembers_of_held members hmembers, hascend.sorted_eq]

theorem canonicalItems_of_held : (items : List Document) → (∀ d ∈ items, d.Held) →
    canonicalItems items = items
  | [], _ => rfl
  | d :: ds, h => by
    rw [canonicalItems, canonical_of_held d (h d List.mem_cons_self),
      canonicalItems_of_held ds fun e he => h e (List.mem_cons_of_mem _ he)]

theorem canonicalMembers_of_held : (members : List (String × Document)) →
    (∀ m ∈ members, m.2.Held) → canonicalMembers members = members
  | [], _ => rfl
  | (k, d) :: ms, h => by
    rw [canonicalMembers, canonical_of_held d (h (k, d) List.mem_cons_self),
      canonicalMembers_of_held ms fun m hm => h m (List.mem_cons_of_mem _ hm)]

end

lemma Held.singleton {d : Document} (k : String) (h : d.Held) : (Document.object [(k, d)]).Held :=
  .object (List.pairwise_singleton _ _) fun m hm => by
    rw [List.mem_singleton.1 hm]
    exact h

end Document

namespace Value

/-- Values without real numbers, whose documents are held ones. -/
inductive Held : Value → Prop
  | null : Held null
  | boolean (b : Bool) : Held (boolean b)
  | integer (i : Int64) : Held (integer i)
  | text (s : String) : Held (text s)
  | blob (bytes : List UInt8) : Held (blob bytes)
  | document {d : Document} (h : d.Held) : Held (document d)

lemma byte?_toNat (b : UInt8) : byte? (.number (.integer b.toNat)) = some b := by
  have hb : b.toNat < 256 := b.toNat_lt
  rw [byte?, if_pos (by omega), Int.toNat_natCast, UInt8.ofNat_toNat]

lemma mapM_byte? (bytes : List UInt8) :
    (bytes.map fun b => .number (.integer b.toNat)).mapM byte? = some bytes := by
  induction bytes with
  | nil => rfl
  | cons b bytes ih =>
    rw [List.map_cons, List.mapM_cons, byte?_toNat, ih]
    rfl

lemma Held.toDocument {v : Value} (h : v.Held) : v.toDocument.Held := by
  cases h with
  | null => exact .text _
  | boolean b => exact .singleton _ (.boolean b)
  | integer i => exact .singleton _ (.integer (Numeral.fits_int64 i))
  | text s => exact .singleton _ (.text s)
  | blob bytes =>
    refine .singleton _ (.array fun d hd => ?_)
    obtain ⟨b, -, rfl⟩ := List.mem_map.1 hd
    exact .integer (Numeral.fits_byte b)
  | document h => exact .singleton _ h

lemma Held.ofDocument?_toDocument {v : Value} (h : v.Held) : ofDocument? v.toDocument = some v := by
  cases h with
  | null => rfl
  | boolean b => rfl
  | integer i => exact congrArg (Option.map Value.integer) (Numeral.int64?_toInt i)
  | text s => rfl
  | blob bytes => exact congrArg (Option.map Value.blob) (mapM_byte? bytes)
  | @document d h => exact congrArg (fun d => some (Value.document d)) (d.canonical_of_held h)

/-- A held value is read back from its text if that is nested no deeper than the reader goes, and nothing
is read from a text that is. Held values with the same text are the same, however deep it is nested. -/
theorem ofText?_toText (v : Value) (hheld : v.Held) :
    (ofText? v.toText =
      if v.toDocument.depth ≤ Document.nestingLimit then some v else none) ∧
    ∀ w : Value, w.Held → v.toText = w.toText → v = w := by
  refine ⟨?_, fun w hw htext => ?_⟩
  · rw [ofText?, toText, hheld.toDocument.ofText?_compact]
    split
    · exact hheld.ofDocument?_toDocument
    · rfl
  · have hwrite : v.toDocument.write = w.toDocument.write := String.ofList_injective htext
    have hdocument : v.toDocument = w.toDocument := hheld.toDocument.write_inj hw.toDocument hwrite
    have hread := hheld.ofDocument?_toDocument
    rw [hdocument, hw.ofDocument?_toDocument] at hread
    exact (Option.some_inj.1 hread).symm

/-- A document that looks like the text of another value, with a key of characters to escape, the ends
of the range of integers and a text that spells null; nested as deep as it goes, and once deeper. -/
theorem ofText?_toText_nested :
    let d : Document := .object [("\x00\"\\\n", .array [.text "Null", .null]),
      ("Int", .number (.integer 18446744073709551615)),
      ("é", .number (.integer (-9223372036854775808)))]
    let nested (n : Nat) : Value := .document ((fun e => .array [e])^[n] d)
    (∀ n, (nested n).Held) ∧ ofText? (nested 124).toText = some (nested 124) ∧
    ofText? (nested 125).toText = none ∧ (nested 0).toText ≠ (text d.compact).toText := by
  intro d nested
  have hd : d.Held := by
    refine .object (by decide +kernel) ?_
    simp only [List.forall_mem_cons]
    refine ⟨.array ?_, .integer (by decide), .integer (by decide), by simp⟩
    simp only [List.forall_mem_cons]
    exact ⟨.text _, .null, by simp⟩
  have hheld (n : Nat) : (nested n).Held := by
    refine .document (Function.Iterate.rec Document.Held hd (fun e he => .array ?_) n)
    simpa only [List.forall_mem_singleton] using he
  have hdepth : (nested 124).toDocument.depth = 127 := by decide +kernel
  have hdeeper : (nested 125).toDocument.depth = 128 := by decide +kernel
  have hread := (ofText?_toText (nested 124) (hheld 124)).1
  have hfail := (ofText?_toText (nested 125) (hheld 125)).1
  rw [hdepth, if_pos (by decide)] at hread
  rw [hdeeper, if_neg (by decide)] at hfail
  refine ⟨hheld, hread, hfail, fun htext => ?_⟩
  cases (ofText?_toText (nested 0) (hheld 0)).2 (text d.compact) (.text _) htext

end Value
end DesiredState
