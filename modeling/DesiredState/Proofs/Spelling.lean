import DesiredState.Document.Reader
import DesiredState.Document.Writer
import Mathlib

/-! Integers and texts as documents spell them. Each is read back from its spelling, whatever follows
it: an integer ends where nothing follows that could go on with it, and a text at the first quote that
is not escaped. -/
namespace DesiredState

namespace Numeral

/-- What may follow a numeral: nothing, or a character that does not go on with it. -/
def Ends (rest : List Char) : Prop :=
  ∀ c ∈ rest.head?, c.isDigit = false ∧ c ≠ '.' ∧ c ≠ 'e' ∧ c ≠ 'E'

/-- How a numeral starts that denotes an integer: with a digit or a minus sign. -/
def Starts (c : Char) : Prop := c.isDigit = true ∨ c = '-'

instance (c : Char) : Decidable (Starts c) := inferInstanceAs (Decidable (_ ∨ _))

lemma Starts.ne {b c : Char} (hc : Starts c) (hb : ¬Starts b) : c ≠ b := fun h => hb (h ▸ hc)

lemma ends_nil : Ends [] := fun _ h => by cases h

lemma isDigit_of_mem_toDigits {n : Nat} {c : Char} (h : c ∈ Nat.toDigits 10 n) : c.isDigit = true :=
  Nat.isDigit_of_mem_toDigits (by decide) (by decide) h

lemma takeDigits_append {ds rest : List Char} (hds : ∀ c ∈ ds, c.isDigit = true) (hrest : Ends rest) :
    takeDigits (ds ++ rest) = (ds, rest) := by
  have hstop : rest.takeWhile Char.isDigit = [] ∧ rest.dropWhile Char.isDigit = rest := by
    cases rest with
    | nil => exact ⟨rfl, rfl⟩
    | cons c rest =>
      have hc : ¬c.isDigit = true := Bool.eq_false_iff.1 (hrest c rfl).1
      exact ⟨List.takeWhile_cons_of_neg hc, List.dropWhile_cons_of_neg hc⟩
  rw [takeDigits, List.span_eq_takeWhile_dropWhile, List.takeWhile_append_of_pos hds,
    List.dropWhile_append_of_pos hds, hstop.1, hstop.2, List.append_nil]

lemma eq_zero_of_head?_toDigits {n : Nat} (h : (Nat.toDigits 10 n).head? = some '0') : n = 0 := by
  induction n using Nat.strong_induction_on with
  | _ n ih =>
    by_cases hn : n < 10
    · rw [Nat.toDigits_of_lt_base hn, List.head?_cons, Option.some_inj] at h
      exact Nat.digitChar_eq_zero.1 h
    · rw [Nat.toDigits_of_base_le (by decide) (by omega),
        List.head?_append_of_ne_nil _ Nat.toDigits_ne_nil] at h
      have htens : n / 10 = 0 := ih (n / 10) (by omega) h
      omega

lemma readWhole_toDigits (n : Nat) {rest : List Char} (hrest : Ends rest) :
    readWhole (Nat.toDigits 10 n ++ rest) = some (Nat.toDigits 10 n, rest) := by
  have hdigits : readDigits (Nat.toDigits 10 n ++ rest) = some (Nat.toDigits 10 n, rest) := by
    rw [readDigits, takeDigits_append (fun c => isDigit_of_mem_toDigits) hrest]
    cases h : Nat.toDigits 10 n with
    | nil => exact absurd h Nat.toDigits_ne_nil
    | cons d ds => rfl
  rw [readWhole, hdigits]
  split
  -- Only zero starts with a zero, and it has no second digit.
  · next h =>
    have hds := (Prod.mk.inj (Option.some_inj.1 h)).1
    obtain rfl : n = 0 := eq_zero_of_head?_toDigits (by rw [hds]; rfl)
    cases hds
  · rfl

/-- Digits are absorbed in full where the number that they denote has 64 bits. -/
lemma absorb_eq {ds : List Char} {s : Nat} (h : Nat.ofDigitChars 10 ds s < UInt64.size) :
    absorb ds s = (Nat.ofDigitChars 10 ds s, []) := by
  induction ds generalizing s with
  | nil => rfl
  | cons c ds ih =>
    have hstep : 10 * s + (c.toNat - '0'.toNat) = s * 10 + digit c := by rw [Nat.mul_comm]; rfl
    have hle : s * 10 + digit c ≤ Nat.ofDigitChars 10 ds (s * 10 + digit c) := by
      rw [Nat.ofDigitChars_eq_ofDigitChars_zero]
      exact Nat.le_add_right_of_le (Nat.le_mul_of_pos_left _ (by positivity))
    rw [Nat.ofDigitChars_cons, hstep] at h ⊢
    rw [absorb, if_pos (hle.trans_lt h), ih h]

lemma absorb_toDigits {n : Nat} (h : n < UInt64.size) : absorb (Nat.toDigits 10 n) 0 = (n, []) := by
  rw [absorb_eq (by rwa [Nat.ofDigitChars_ten_toDigits]), Nat.ofDigitChars_ten_toDigits]

lemma readFraction_of_ends {rest : List Char} (hrest : Ends rest) :
    readFraction readDigits rest = some (none, rest) := by
  cases rest with
  | nil => rfl
  | cons c rest =>
    rw [readFraction]
    rintro cs ⟨⟩
    exact (hrest '.' rfl).2.1 rfl

lemma readExponent_of_ends {rest : List Char} (hrest : Ends rest) :
    readExponent readDigits rest = some (none, rest) := by
  cases rest with
  | nil => rfl
  | cons c rest =>
    obtain ⟨-, -, he, hE⟩ := hrest c rfl
    rw [readExponent, if_neg (not_or.2 ⟨he, hE⟩)]

lemma exists_writeInteger_eq_cons (i : Int) : ∃ c cs, writeInteger i = c :: cs ∧ Starts c := by
  rw [writeInteger]
  split
  · exact ⟨_, _, rfl, .inr rfl⟩
  · obtain ⟨d, ds, hds⟩ := List.exists_cons_of_ne_nil (@Nat.toDigits_ne_nil i.natAbs 10)
    exact ⟨d, ds, hds, .inl (isDigit_of_mem_toDigits (hds ▸ List.mem_cons_self))⟩

lemma read_toDigits (negative : Bool) (n : Nat) {rest : List Char} (hrest : Ends rest) :
    read ((if negative then ['-'] else []) ++ (Nat.toDigits 10 n ++ rest)) =
      (ofParts ⟨negative, Nat.toDigits 10 n, none, none⟩).map fun m => (m, rest) := by
  have hunsigned : ∀ cs, Nat.toDigits 10 n ++ rest ≠ '-' :: cs := by
    intro cs h
    obtain ⟨d, ds, hds⟩ := List.exists_cons_of_ne_nil (@Nat.toDigits_ne_nil n 10)
    have hdigit : d.isDigit = true := isDigit_of_mem_toDigits (hds ▸ List.mem_cons_self)
    rw [hds] at h
    cases h
    cases hdigit
  cases negative with
  | false =>
    simp only [Bool.false_eq_true, if_false, List.nil_append]
    rw [read, Option.map_eq_bind]
    · simp only [readWhole_toDigits n hrest, Option.bind_eq_bind, Option.bind_some,
        readFraction_of_ends hrest, readExponent_of_ends hrest]
      rfl
    · exact hunsigned
  | true =>
    simp only [if_true, List.cons_append, List.nil_append]
    rw [read, Option.map_eq_bind]
    simp only [readWhole_toDigits n hrest, Option.bind_eq_bind, Option.bind_some,
      readFraction_of_ends hrest, readExponent_of_ends hrest]
    rfl

theorem read_writeInteger {i : Int} (hfits : fits i = true) {rest : List Char} (hrest : Ends rest) :
    read (writeInteger i ++ rest) = some (integer i, rest) := by
  have hmin : Int64.minValue.toInt = -9223372036854775808 := rfl
  have hsize : UInt64.size = 18446744073709551616 := rfl
  obtain ⟨hle, hlt⟩ : -9223372036854775808 ≤ i ∧ i < 18446744073709551616 := by
    simpa [fits, hmin, hsize] using hfits
  have habsorb : absorb (Nat.toDigits 10 i.natAbs) 0 = (i.natAbs, []) := absorb_toDigits (by omega)
  rw [writeInteger]
  split
  · have hparts : ofParts ⟨true, Nat.toDigits 10 i.natAbs, none, none⟩ = some (integer i) := by
      have habs : -(i.natAbs : Int) = i := by omega
      simp only [ofParts, habsorb, habs]
      rw [if_neg (by decide), if_pos (by omega)]
    have hread := read_toDigits true i.natAbs hrest
    rwa [hparts] at hread
  · have hparts : ofParts ⟨false, Nat.toDigits 10 i.natAbs, none, none⟩ = some (integer i) := by
      have habs : (i.natAbs : Int) = i := by omega
      simp only [ofParts, habsorb, habs]
      rfl
    have hread := read_toDigits false i.natAbs hrest
    rwa [hparts] at hread

end Numeral

namespace Document

lemma ofUnit?_control {n : Nat} (h : n < 32) :
    (unit? '0' '0' (hexDigit (n / 16)) (hexDigit n)).bind ofUnit? = some (Char.ofNat n) := by
  decide +revert +kernel

/-- Each character is read back from its escape, before whatever else a text goes on with. -/
lemma readText_escape (c : Char) (rest : List Char) :
    readText (escape c ++ rest) = (readText rest).map fun r => (c :: r.1, r.2) := by
  -- All escapes are a backslash and a letter, but those of the other control characters.
  have hletter {e : Char} (hc : unescape? e = some c) (hu : e ≠ 'u') :
      readText ('\\' :: e :: rest) = (readText rest).map fun r => (c :: r.1, r.2) := by
    rw [readText, hc, Option.map_eq_bind]
    · rfl
    · intro a b c d rest he
      exact absurd he hu
  unfold escape
  split_ifs with hquote hslash hback htab hline hfeed hreturn hcontrol
  · exact hletter (by rw [hquote]; rfl) (by decide)
  · exact hletter (by rw [hslash]; rfl) (by decide)
  · exact hletter (by rw [hback]; rfl) (by decide)
  · exact hletter (by rw [htab]; rfl) (by decide)
  · exact hletter (by rw [hline]; rfl) (by decide)
  · exact hletter (by rw [hfeed]; rfl) (by decide)
  · exact hletter (by rw [hreturn]; rfl) (by decide)
  · have hc := ofUnit?_control (show c.toNat < 32 from hcontrol)
    rw [Char.ofNat_toNat] at hc
    obtain ⟨u, hu, hch⟩ := Option.bind_eq_some_iff.1 hc
    simp only [List.cons_append, List.nil_append]
    rw [readText, hu, Option.map_eq_bind]
    simp only [Option.bind_eq_bind, Option.bind_some, hch]
    rfl
  · rw [List.singleton_append, readText, if_neg (not_or.2 ⟨hcontrol, hslash⟩), Option.map_eq_bind]
    · rfl
    · exact hquote
    · rintro a b c d rest h -
      exact hslash h
    · rintro d rest h -
      exact hslash h

theorem readText_flatMap_escape (cs rest : List Char) :
    readText (cs.flatMap escape ++ '"' :: rest) = some (cs, rest) := by
  induction cs with
  | nil => rfl
  | cons c cs ih => rw [List.flatMap_cons, List.append_assoc, readText_escape, ih, Option.map_some]

end Document
end DesiredState
