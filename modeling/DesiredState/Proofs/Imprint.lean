import DesiredState.Proofs.Agenda

/-! What some steps leave in a store, by the keys of each phase. Whether the steps are all that is to be
done or a part of it, and in whatever order the phases come: a key holds what its own step has left
there, and only the order of the insertions among themselves tells which numbers the new rows have
got. -/
namespace DesiredState

namespace Step
variable {α : Type} {table : Table}

def keysIn (phase : Phase) (steps : List (Step α)) : List String :=
  (steps.filter (·.phase = phase)).map Step.key

@[simp] lemma keysIn_append (phase : Phase) (as bs : List (Step α)) :
    keysIn phase (as ++ bs) = keysIn phase as ++ keysIn phase bs := by
  simp [keysIn]

lemma mem_keysIn {phase : Phase} {steps : List (Step α)} {k : String} :
    k ∈ keysIn phase steps ↔ ∃ step ∈ steps, step.phase = phase ∧ step.key = k := by
  simp [keysIn, and_assoc]

lemma keysIn_of_phase {phase : Phase} {steps : List (Step α)}
    (h : ∀ step ∈ steps, step.phase = phase) (phase' : Phase) :
    keysIn phase' steps = if phase = phase' then steps.map Step.key else [] := by
  split
  · next heq =>
    rw [keysIn, List.filter_eq_self.2 fun step hstep => decide_eq_true ((h step hstep).trans heq)]
  · next hne =>
    rw [keysIn, List.filter_eq_nil_iff.2 fun step hstep => by simp [h step hstep, hne]]
    rfl

lemma used_eq (steps : List (Step table.Row)) :
    used table steps = (keysIn .add steps).length * Store.span table := by
  simp [used, tally, keysIn, List.countP_eq_length_filter]

/-- The step of a key, at the place that the key has in its phase. -/
lemma exists_split_of_keysIn {phase : Phase} {steps : List (Step α)} {j : Nat} {k : String}
    (h : (keysIn phase steps)[j]? = some k) :
    ∃ as step bs, steps = as ++ step :: bs ∧ step.phase = phase ∧ step.key = k ∧
      (keysIn phase as).length = j := by
  induction steps generalizing j with
  | nil => simp [keysIn] at h
  | cons step steps ih =>
    have hcons : keysIn phase (step :: steps) =
        if step.phase = phase then step.key :: keysIn phase steps else keysIn phase steps := by
      by_cases hphase : step.phase = phase <;> simp [keysIn, hphase]
    rw [hcons] at h
    split at h
    · next hphase =>
      cases j with
      | zero =>
        simp only [List.getElem?_cons_zero, Option.some.injEq] at h
        exact ⟨[], step, steps, rfl, hphase, h, rfl⟩
      | succ j =>
        rw [List.getElem?_cons_succ] at h
        obtain ⟨as, st, bs, rfl, hst, hk, hlength⟩ := ih h
        exact ⟨step :: as, st, bs, rfl, hst, hk, by simp_all [keysIn]⟩
    · next hphase =>
      obtain ⟨as, st, bs, rfl, hst, hk, hlength⟩ := ih h
      exact ⟨step :: as, st, bs, rfl, hst, hk, by simp_all [keysIn]⟩

end Step

namespace Store
variable {schema : Schema} {s t u : Store schema.table} {desired : List schema.table.Row}
  {deleted added updated : List String} {steps : List (Step schema.table.Row)}

/-- A store after the rows of some keys have been deleted, added in their order, and merged. -/
structure Imprinted (schema : Schema) (s : Store schema.table) (desired : List schema.table.Row)
    (deleted added updated : List String) (t : Store schema.table) : Prop where
  deleted_row : ∀ k ∈ deleted, t.get? k = none
  added_row : ∀ j k, added[j]? = some k → ∃ d, lastOf schema.key desired k = some d ∧
    t.get? k = some (numbered d (s.nextId + Int64.ofNat (j * span schema.table)))
  updated_row : ∀ k ∈ updated, ∃ r d, s.get? k = some r ∧ lastOf schema.key desired k = some d ∧
    t.get? k = some (schema.table.overlay r d)
  other_row : ∀ k, k ∉ deleted → k ∉ added → k ∉ updated → t.get? k = s.get? k

lemma Imprinted.get?_eq (ht : Imprinted schema s desired deleted added updated t)
    (hu : Imprinted schema s desired deleted added updated u) (k : String) :
    t.get? k = u.get? k := by
  by_cases hdeleted : k ∈ deleted
  · rw [ht.deleted_row k hdeleted, hu.deleted_row k hdeleted]
  by_cases hadded : k ∈ added
  · obtain ⟨j, hj⟩ := List.mem_iff_getElem?.1 hadded
    obtain ⟨d, hd, hrow⟩ := ht.added_row j k hj
    obtain ⟨d', hd', hrow'⟩ := hu.added_row j k hj
    rw [hd] at hd'
    cases hd'
    rw [hrow, hrow']
  by_cases hupdated : k ∈ updated
  · obtain ⟨r, d, hr, hd, hrow⟩ := ht.updated_row k hupdated
    obtain ⟨r', d', hr', hd', hrow'⟩ := hu.updated_row k hupdated
    rw [hr] at hr'
    rw [hd] at hd'
    cases hr'
    cases hd'
    rw [hrow, hrow']
  · rw [ht.other_row k hdeleted hadded hupdated, hu.other_row k hdeleted hadded hupdated]

section
variable (hkey : schema.KeyKept) (hfiled : s.Filed schema)
  (hpending : ∀ step ∈ steps,
    pending schema.table.policy s.get? (lastOf schema.key desired) step.phase step.key = some step)
include hkey hfiled hpending

lemma ran_of_pending
    (h : Outcome.walk (Step.attempt (backend schema)) steps s = ⟨t, none⟩) : Ran schema steps s t :=
  ran_of_walk (fun step hstep => fits_of_pending hkey hfiled (hpending step hstep)) h

/-- Steps that are due, no two of them for one key, leave their imprint when all of them succeed. -/
theorem imprinted_of_walk (hnodup : (steps.map Step.key).Nodup)
    (h : Outcome.walk (Step.attempt (backend schema)) steps s = ⟨t, none⟩) :
    Imprinted schema s desired (Step.keysIn .delete steps) (Step.keysIn .add steps)
      (Step.keysIn .update steps) t := by
  have hfits (step) (hstep : step ∈ steps) : step.Fits schema :=
    fits_of_pending hkey hfiled (hpending step hstep)
  -- Each step is met at its place, where the insertions before it have used up their numbers.
  have hrow {phase : Phase} {j : Nat} {k : String} (hj : (Step.keysIn phase steps)[j]? = some k) :
      ∃ step w as, pending schema.table.policy s.get? (lastOf schema.key desired) phase k = some step ∧
        step.call = .ok w ∧ (Step.keysIn phase as).length = j ∧
        t.get? k = w.filed (s.nextId + Int64.ofNat (Step.used schema.table as)) := by
    obtain ⟨as, step, bs, rfl, rfl, rfl, hlength⟩ := Step.exists_split_of_keysIn hj
    obtain ⟨w, hw, hget⟩ := get?_of_walk hfits hnodup h
    exact ⟨step, w, as, hpending step (by simp), hw, hlength, hget⟩
  refine ⟨fun k hk => ?_, fun j k hj => ?_, fun k hk => ?_, fun k hdeleted hadded hupdated => ?_⟩
  · obtain ⟨j, hj⟩ := List.mem_iff_getElem?.1 hk
    obtain ⟨step, w, as, hstep, hw, -, hget⟩ := hrow hj
    obtain ⟨r, -, -, rfl⟩ := pending_delete_iff.1 hstep
    cases hw
    exact hget
  · obtain ⟨step, w, as, hstep, hw, hlength, hget⟩ := hrow hj
    obtain ⟨d, -, hd, rfl⟩ := pending_add_iff.1 hstep
    cases hw
    rw [Step.used_eq, hlength] at hget
    exact ⟨d, hd, hget⟩
  · obtain ⟨j, hj⟩ := List.mem_iff_getElem?.1 hk
    obtain ⟨step, w, as, hstep, hw, -, hget⟩ := hrow hj
    obtain ⟨r, d, hr, hd, -, rfl⟩ := pending_update_iff.1 hstep
    obtain ⟨m, hm, rfl⟩ := Outcome.toExcept_map_eq_ok_iff.1 hw
    obtain ⟨-, rfl⟩ := Table.merge_eq_done_iff.1 hm
    exact ⟨r, d, hr, hd, hget⟩
  · refine (ran_of_pending hkey hfiled hpending h).get?_eq k fun hk => ?_
    obtain ⟨step, hstep, rfl⟩ := List.mem_map.1 hk
    cases hphase : step.phase with
    | delete => exact hdeleted (Step.mem_keysIn.2 ⟨step, hstep, hphase, rfl⟩)
    | add => exact hadded (Step.mem_keysIn.2 ⟨step, hstep, hphase, rfl⟩)
    | update => exact hupdated (Step.mem_keysIn.2 ⟨step, hstep, hphase, rfl⟩)

end

end Store
end DesiredState
