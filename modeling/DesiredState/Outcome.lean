/-! Actions on a state that may be cut short by an error. What was done before the error stays. -/
namespace DesiredState

/-- The state after an action, and the error that cut the action short, if one did. -/
structure Outcome (ε σ : Type) where
  state : σ
  error? : Option ε := none

namespace Outcome

variable {ε σ β : Type}

/-- Acts for each of a list in turn, up to the first error. -/
def walk (act : β → σ → Outcome ε σ) : List β → σ → Outcome ε σ
  | [], s => ⟨s, none⟩
  | b :: bs, s =>
    match act b s with
    | ⟨s, none⟩ => walk act bs s
    | stopped => stopped

@[simp] theorem walk_nil (act : β → σ → Outcome ε σ) (s : σ) : walk act [] s = ⟨s, none⟩ := rfl

theorem walk_cons_of_done {act : β → σ → Outcome ε σ} {b : β} {s t : σ} (bs : List β)
    (h : act b s = ⟨t, none⟩) : walk act (b :: bs) s = walk act bs t := by
  simp [walk, h]

theorem walk_cons_of_failed {act : β → σ → Outcome ε σ} {b : β} {s t : σ} {e : ε} (bs : List β)
    (h : act b s = ⟨t, some e⟩) : walk act (b :: bs) s = ⟨t, some e⟩ := by
  simp [walk, h]

/-- A walk over two lists is the second walk from where the first one got to. -/
theorem walk_append (act : β → σ → Outcome ε σ) (as bs : List β) (s : σ) :
    walk act (as ++ bs) s = match walk act as s with
      | ⟨t, none⟩ => walk act bs t
      | ⟨t, some e⟩ => ⟨t, some e⟩ := by
  induction as generalizing s with
  | nil => rfl
  | cons a as ih =>
    rcases h : act a s with ⟨t, _ | e⟩
    · simpa [walk, h] using ih t
    · simp [walk, h]

end Outcome
end DesiredState
