import DesiredState.Proofs.Answers
import DesiredState.Proofs.Simulation

/-! A strict and a lenient store that hold the same. The strict one refuses some writes because of
their keys, and is left as it was by each of these. Up to the first of them both stores give the same
answers and go on holding the same, so that a collection cannot tell which of them it writes to. -/
namespace DesiredState

namespace Store
variable {schema : Schema} {s l : Store schema.table} {w : Write schema.table.Row}

/-- A strict and a lenient store with the same rows, next number and journal. -/
structure Twins (s l : Store schema.table) : Prop where
  strict : s.config.strict = true
  lenient : l.config.strict = false
  rows_eq : s.rows = l.rows
  nextId_eq : s.nextId = l.nextId
  journal_eq : s.journal = l.journal

lemma Twins.written (h : Twins s l) (w : Write schema.table.Row) :
    Twins (written schema w s) (written schema w l) where
  strict := h.strict
  lenient := h.lenient
  rows_eq := by rw [Store.written, Store.written, h.rows_eq, h.nextId_eq]
  nextId_eq := by rw [Store.written, Store.written, h.nextId_eq]
  journal_eq := by rw [Store.written, Store.written, h.journal_eq]

theorem Twins.answer (h : Twins s l) (w : Write schema.table.Row)
    (hkey : ∀ e, ((backend schema).answer w s).error? = some e → e.concernsKey = false) :
    ((backend schema).answer w s).error? = ((backend schema).answer w l).error? ∧
      Twins ((backend schema).answer w s).state ((backend schema).answer w l).state := by
  have hs := answered w s
  have hl := answered w l
  generalize (backend schema).answer w s = strict at hkey hs ⊢
  generalize (backend schema).answer w l = lenient at hl ⊢
  cases hs with
  | unsuited _ _ hconcerns => exact absurd hconcerns (by simp [hkey _ rfl])
  | @unnumbered row n source hw _ hnumber =>
    rw [h.nextId_eq] at hnumber
    cases hl with
    | unsuited hstrict => exact absurd hstrict (by simp [h.lenient])
    | unnumbered hw' _ hnumber' =>
      cases hw.symm.trans hw'
      cases hnumber.symm.trans hnumber'
      exact ⟨rfl, h.strict, h.lenient, h.rows_eq, rfl, h.journal_eq⟩
    | kept _ hnumber' =>
      have hnone := hnumber' row hw
      rw [hnumber] at hnone
      cases hnone
  | kept _ hnumber =>
    cases hl with
    | unsuited hstrict => exact absurd hstrict (by simp [h.lenient])
    | @unnumbered row n source hw _ hnumber' =>
      have hnone := hnumber row hw
      rw [h.nextId_eq, hnumber'] at hnone
      cases hnone
    | kept => exact ⟨rfl, h.written w⟩

/-- As long as no write is refused for its key, it makes no difference which of the twins is asked. -/
lemma simulates_lenient (schema : Schema) :
    (backend schema).Simulates (fun e => e.concernsKey = false) Twins (backend schema) :=
  fun w _ _ h hkey => h.answer w hkey

/-- A strict store and a lenient one that hold the same. If the strict one refuses none of some writes
for its key, both answer all of them alike, errors of numbers included, and still hold the same. A
write that is refused for its key leaves a store as it was, and the lenient store never refuses one
so. Hence an operation of a collection that does not fail because of a key on the strict store gives
the same result and the same counts on the lenient one, and leaves the same in it. -/
theorem lenient_extends_strict (h : Twins s l) :
    (∀ writes,
      let strict := (backend schema).observed.after writes ⟨[], s⟩
      let lenient := (backend schema).observed.after writes ⟨[], l⟩
      (∀ c ∈ strict.calls, ∀ e, c.2 = some e → e.concernsKey = false) →
        lenient.calls = strict.calls ∧ Twins strict.inner lenient.inner) ∧
    (∀ (t : Store schema.table) w e, ((backend schema).answer w t).error? = some e →
      e.concernsKey = true → ((backend schema).answer w t).state = t) ∧
    (∀ writes, ∀ c ∈ ((backend schema).observed.after writes ⟨[], l⟩).calls,
      ∀ e, c.2 = some e → e.concernsKey = false) ∧
    ∀ (kind : RecordKind schema.table.Row) policy? stored request,
      let out := (Collection.ofRecords stored s policy?).serve kind (backend schema) request
      let out' := (Collection.ofRecords stored l policy?).serve kind (backend schema) request
      (∀ phase key e, out.result = .error (.transaction phase key e) → e.concernsKey = false) →
        out'.result = out.result ∧ out'.collection.counts = out.collection.counts ∧
          Twins out.collection.state out'.collection.state := by
  refine ⟨?_, fun t w e => answer_of_concernsKey, fun writes => ?_, ?_⟩
  · intro writes strict lenient hkey
    obtain ⟨hcalls, hinner⟩ := (simulates_lenient schema).after_observed h hkey
    exact ⟨hcalls.symm, hinner⟩
  · induction writes using List.reverseRec with
    | nil => exact fun _ hc => nomatch hc
    | append_singleton writes w ih =>
      obtain ⟨hinner, -⟩ := (backend schema).after_observed writes l
      rw [Backend.after_observed_concat, hinner]
      intro c hc e he
      rcases List.mem_append.1 hc with hc | hc
      · exact ih c hc e he
      · obtain rfl := List.mem_singleton.1 hc
        exact concernsKey_eq_false ((config_after writes l).symm ▸ h.lenient) he
  · intro kind policy? stored request out out' hresult
    have hstart : (Collection.ofRecords stored s policy?).Rel Twins
        (Collection.ofRecords stored l policy?) := ⟨rfl, rfl, rfl, rfl, h⟩
    have hfrom (e) (he : out.result = .error e) : e.From fun e => e.concernsKey = false := by
      intro source hsource
      cases e with
      | transaction phase key e =>
        cases hsource
        exact hresult phase key source he
      | schema key e => cases hsource
      | drained => cases hsource
    have hrel : out.Rel Twins out' :=
      Collection.serve_rel (simulates_lenient schema) kind request hstart hfrom
    exact ⟨hrel.result_eq.symm, hrel.collection.counts_eq.symm, hrel.collection.state⟩

/-- Slots with small numbers, of which the last one is the first to be given out. The second insertion
gets none from either store; inserting the first slot again is refused by the strict store alone. -/
theorem lenient_extends_strict_slots :
    let schema := Schema.ofTable ⟨"slots", [
      { name := "name", type := .text, isKey := true },
      { name := "number", type := .int32, isAssigned := true }]⟩
    let slot (name : String) : schema.table.Row := #v[.text name, .integer 0]
    let s : Store schema.table := empty { firstId := 2147483647 }
    let l : Store schema.table := empty { firstId := 2147483647, strict := false }
    let writes := [.insert (slot "a"), .insert (slot "b"), .update (slot "a")]
    let strict := (backend schema).observed.after writes ⟨[], s⟩
    let lenient := (backend schema).observed.after writes ⟨[], l⟩
    let request := .perform .reconcile (fun p _ => p.entries) [slot "a"]
    let out := (Collection.ofRecords [] s none).serve schema.kind (backend schema) request
    let out' := (Collection.ofRecords [] l none).serve schema.kind (backend schema) request
    Twins s l ∧
    strict.calls.map (·.2) =
      [none, some (.model (.field "number" (.outOfRange "i32" 2147483648))), none] ∧
    lenient.calls = strict.calls ∧ Twins strict.inner lenient.inner ∧
    ((backend schema).answer (.insert (slot "a")) strict.inner).error? =
      some (.duplicate "slots" "a") ∧
    ((backend schema).answer (.insert (slot "a")) strict.inner).state = strict.inner ∧
    out.result = .ok none ∧ out'.result = .ok none := by
  intro schema slot s l writes strict lenient request out out'
  have htwins : Twins s l := ⟨rfl, rfl, rfl, rfl, rfl⟩
  have herrors : strict.calls.map (·.2) =
      [none, some (.model (.field "number" (.outOfRange "i32" 2147483648))), none] := by
    decide +kernel
  have hduplicate : ((backend schema).answer (.insert (slot "a")) strict.inner).error? =
      some (.duplicate "slots" "a") := by decide +kernel
  have hresult : out.result = .ok none := by decide +kernel
  obtain ⟨hsame, hleft, -, hserve⟩ := lenient_extends_strict htwins
  have hkey : ∀ c ∈ strict.calls, ∀ e, c.2 = some e → e.concernsKey = false := by
    intro c hc e he
    have hmem : c.2 ∈ strict.calls.map (·.2) := List.mem_map.2 ⟨c, hc, rfl⟩
    rw [herrors, he] at hmem
    obtain rfl : e = .model (.field "number" (.outOfRange "i32" 2147483648)) := by simpa using hmem
    rfl
  obtain ⟨hcalls, hinner⟩ := hsame writes hkey
  obtain ⟨hresult', -⟩ := hserve schema.kind none [] request fun phase key e he => by
    rw [hresult] at he
    cases he
  exact ⟨htwins, herrors, hcalls, hinner, hduplicate, hleft _ _ _ hduplicate rfl, hresult,
    hresult'.trans hresult⟩

end Store
end DesiredState
