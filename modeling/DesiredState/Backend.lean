import DesiredState.Event

/-! What records are written to. A backend answers each write at once: it takes it, or refuses it
with an error of its own. -/
namespace DesiredState

/-- A write of a record. -/
inductive Write (α : Type) where
  | insert (record : α)
  | update (record : α)
  | delete (record : α)
  deriving DecidableEq

namespace Write

variable {α : Type}

def kind : Write α → WriteKind
  | insert _ => .insert
  | update _ => .update
  | delete _ => .delete

def record : Write α → α
  | insert a => a
  | update a => a
  | delete a => a

end Write

/-- The answer to a write: the state after it, the error if it was refused, and what was told. -/
structure Reply (ε σ : Type) where
  state : σ
  error? : Option ε := none
  events : List Event := []

/-- Something that answers writes of records from its state. -/
structure Backend (α ε σ : Type) where
  answer : Write α → σ → Reply ε σ
  /-- The text of an error. -/
  describe : ε → String

namespace Backend

variable {α ε σ : Type}

/-- A refused write. -/
structure Rejection where
  kind : WriteKind
  key : String
  deriving DecidableEq

def Rejection.message (r : Rejection) : String := "rejected " ++ r.kind.name ++ " of " ++ r.key

/-- Takes every write, and keeps them all in order. -/
def transcript (describe : ε → String) : Backend α ε (List (Write α)) where
  answer w taken := ⟨taken ++ [w], none, []⟩
  describe := describe

/-- The number of writes asked for so far, before the state behind them. -/
structure Screened (σ : Type) where
  calls : Nat
  inner : σ

/-- Counts the writes that are asked for, and refuses some of them by their number and content. The
backend behind never sees a write that is refused so. -/
def screened (refuse : Nat → Write α → Option ε) (backend : Backend α ε σ) :
    Backend α ε (Screened σ) where
  answer w s :=
    match refuse s.calls w with
    | some e => ⟨⟨s.calls + 1, s.inner⟩, some e, []⟩
    | none =>
      let reply := backend.answer w s.inner
      ⟨⟨s.calls + 1, reply.state⟩, reply.error?, reply.events⟩
  describe := backend.describe

end Backend
end DesiredState
