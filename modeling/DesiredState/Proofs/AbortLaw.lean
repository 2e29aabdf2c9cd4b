import DesiredState.Proofs.Script

/-! Which writes a run issues, whatever it writes to. The script says what would be written if nothing
went wrong. What is written is the script, cut after the first write that is refused or before the
first step that has no write, whichever comes first. -/
namespace DesiredState
variable {α ε σ : Type}

namespace Outcome
variable {β γ : Type}

/-- What a walk acts for: all elements, or those up to the first error. -/
def visited (act : β → σ → Outcome ε σ) : List β → σ → List β
  | [], _ => []
  | b :: bs, s => b :: match act b s with
    | ⟨t, none⟩ => visited act bs t
    | ⟨_, some _⟩ => []

lemma visited_prefix (act : β → σ → Outcome ε σ) (bs : List β) (s : σ) :
    visited act bs s <+: bs := by
  induction bs generalizing s with
  | nil => exact List.prefix_refl _
  | cons b bs ih =>
    rw [visited, List.prefix_cons_inj]
    rcases act b s with ⟨t, _ | e⟩
    · exact ih t
    · exact List.nil_prefix

lemma visited_eq_nil_iff {act : β → σ → Outcome ε σ} {bs : List β} {s : σ} :
    visited act bs s = [] ↔ bs = [] := by
  cases bs <;> simp [visited]

lemma visited_of_done {act : β → σ → Outcome ε σ} {bs : List β} {s : σ}
    (h : (walk act bs s).error? = none) : visited act bs s = bs := by
  induction bs generalizing s with
  | nil => rfl
  | cons b bs ih =>
    rcases hact : act b s with ⟨t, _ | e⟩
    · rw [walk_cons_of_done bs hact] at h
      simp only [visited, hact, ih h]
    · rw [walk_cons_of_failed bs hact] at h
      cases h

lemma visited_filterMap {act : β → σ → Outcome ε σ} {act' : γ → σ → Outcome ε σ} {f : β → Option γ}
    (h : ∀ b s, act b s = (f b).elim ⟨s, none⟩ fun c => act' c s) (bs : List β) (s : σ) :
    (visited act bs s).filterMap f = visited act' (bs.filterMap f) s := by
  induction bs generalizing s with
  | nil => rfl
  | cons b bs ih =>
    cases hb : f b with
    | none =>
      rw [visited, List.filterMap_cons_none hb, List.filterMap_cons_none hb, h, hb]
      exact ih s
    | some c =>
      rw [visited, List.filterMap_cons_some hb, List.filterMap_cons_some hb, visited, h, hb,
        Option.elim_some]
      rcases act' c s with ⟨t, _ | e⟩
      · rw [ih t]
      · rfl

end Outcome

namespace Backend

/-- The state after some writes have been asked for, whether they have been taken or refused. -/
def after (backend : Backend α ε σ) (writes : List (Write α)) (s : σ) : σ :=
  writes.foldl (fun s w => (backend.answer w s).state) s

/-- The writes that a backend has been asked for, each with the error that it was refused with, before
the state of the backend itself. -/
structure Observed (α ε σ : Type) where
  calls : List (Write α × Option ε)
  inner : σ

/-- The same backend, with a record of all that it is asked for and how it answers. -/
def observed (backend : Backend α ε σ) : Backend α ε (Observed α ε σ) where
  answer w s :=
    let reply := backend.answer w s.inner
    ⟨⟨s.calls ++ [(w, reply.error?)], reply.state⟩, reply.error?, reply.events⟩
  describe := backend.describe

lemma after_concat (backend : Backend α ε σ) (writes : List (Write α)) (w : Write α) (s : σ) :
    backend.after (writes ++ [w]) s = (backend.answer w (backend.after writes s)).state :=
  List.foldl_concat _ _ _ _

lemma after_observed_concat (backend : Backend α ε σ) (writes : List (Write α)) (w : Write α)
    (s : Observed α ε σ) :
    let seen := backend.observed.after writes s
    let reply := backend.answer w seen.inner
    backend.observed.after (writes ++ [w]) s = ⟨seen.calls ++ [(w, reply.error?)], reply.state⟩ :=
  backend.observed.after_concat writes w s

lemma after_observed (backend : Backend α ε σ) (writes : List (Write α)) (s : σ) :
    let seen := backend.observed.after writes ⟨[], s⟩
    seen.inner = backend.after writes s ∧ seen.calls.map (·.1) = writes := by
  induction writes using List.reverseRec with
  | nil => exact ⟨rfl, rfl⟩
  | append_singleton writes w ih =>
    obtain ⟨hinner, hcalls⟩ := ih
    rw [after_observed_concat, after_concat, ← hinner]
    exact ⟨rfl, List.map_append.trans (congrArg (· ++ [w]) hcalls)⟩

def taken (calls : List (Write α × Option ε)) : Counts where
  added := calls.countP fun c => c.1.kind = .insert ∧ c.2.isNone
  updated := calls.countP fun c => c.1.kind = .update ∧ c.2.isNone
  deleted := calls.countP fun c => c.1.kind = .delete ∧ c.2.isNone

end Backend

lemma Backend.taken_cons {phase : Phase} {w : Write α} (h : w.kind = phase.kind)
    (calls : List (Write α × Option ε)) :
    taken ((w, none) :: calls) = ({} : Counts).bump phase + taken calls := by
  cases phase <;> ext <;> simp [taken, Counts.bump, h, Phase.kind, Nat.add_comm]

/-- The calls that are issued for steps, and how that ends: a write that is taken is followed by those
of the other steps, and one that is refused by none, nor is there any from a step on that has no
write to ask for. -/
inductive Cut : List (Step α) → List (Write α × Option ε) → Except (ReconcileError ε) Unit → Prop
  | done : Cut [] [] (.ok ())
  | taken {step w steps calls result} (hcall : step.call = .ok w) (tail : Cut steps calls result) :
    Cut (step :: steps) ((w, none) :: calls) result
  | refused {step w e steps} (hcall : step.call = .ok w) :
    Cut (step :: steps) [(w, some e)] (.error (.transaction step.phase step.key e))
  | unmerged {step e steps} (hcall : step.call = .error e) :
    Cut (step :: steps) [] (.error (.schema step.key e))

namespace Cut
variable {steps : List (Step α)} {calls : List (Write α × Option ε)}
  {result : Except (ReconcileError ε) Unit}

lemma calls_eq_take (h : Cut steps calls result) :
    calls.map (fun c => Except.ok c.1) = (steps.map Step.call).take calls.length := by
  induction h with
  | done => rfl
  | taken hcall _ ih => simp [hcall, ih]
  | refused hcall => simp [hcall]
  | unmerged => rfl

lemma taken_of_mem_dropLast (h : Cut steps calls result) :
    ∀ c ∈ calls.dropLast, c.2 = none := by
  induction h with
  | done => simp
  | @taken step w steps calls result hcall tail ih =>
    cases calls with
    | nil => simp
    | cons c calls =>
      intro d hd
      rw [List.dropLast_cons_cons, List.mem_cons] at hd
      rcases hd with rfl | hd
      · rfl
      · exact ih d hd
  | refused => simp
  | unmerged => simp

lemma result_eq_ok_iff (h : Cut steps calls result) :
    result = .ok () ↔
      steps.map Step.call = calls.map (fun c => .ok c.1) ∧ ∀ c ∈ calls, c.2 = none := by
  induction h with
  | done => simp
  | taken hcall _ ih => simp [hcall, ih]
  | refused => simp
  | unmerged => simp

end Cut

namespace Step

lemma walk_observed_inner (backend : Backend α ε σ) (steps : List (Step α))
    (s : Backend.Observed α ε σ) :
    let seen := Outcome.walk (attempt backend.observed) steps s
    let plain := Outcome.walk (attempt backend) steps s.inner
    seen.state.inner = plain.state ∧ seen.error? = plain.error? ∧
      accepted backend.observed steps s = accepted backend steps s.inner := by
  induction steps generalizing s with
  | nil => exact ⟨rfl, rfl, rfl⟩
  | cons step steps ih =>
    rcases hcall : step.call with e | w
    · simp [Outcome.walk, attempt, accepted, hcall]
    · rcases hreply : backend.answer w s.inner with ⟨t, _ | e, events⟩
      · have h := ih ⟨s.calls ++ [(w, none)], t⟩
        simpa [Outcome.walk, attempt, accepted, hcall, hreply, Backend.observed] using h
      · simp [Outcome.walk, attempt, accepted, hcall, hreply, Backend.observed]

/-- A walk through steps issues their writes up to the cut, and counts those that are taken. -/
lemma walk_observed_cut (backend : Backend α ε σ) {steps : List (Step α)}
    (hkind : ∀ step ∈ steps, ∀ w, step.call = .ok w → w.kind = step.phase.kind)
    (s : Backend.Observed α ε σ) :
    let seen := Outcome.walk (attempt backend.observed) steps s
    ∃ calls, seen.state.calls = s.calls ++ calls ∧
      Cut steps calls (seen.error?.elim (.ok ()) .error) ∧
      tally (accepted backend.observed steps s) = Backend.taken calls := by
  induction steps generalizing s with
  | nil => exact ⟨[], by simp [Outcome.walk], .done, rfl⟩
  | cons step steps ih =>
    rcases hcall : step.call with e | w
    · refine ⟨[], ?_, ?_, ?_⟩ <;> simp only [Outcome.walk, attempt, accepted, hcall]
      · simp
      · exact .unmerged hcall
      · rfl
    · rcases hreply : backend.answer w s.inner with ⟨t, _ | e, events⟩
      · have hanswer :
            backend.observed.answer w s = ⟨⟨s.calls ++ [(w, none)], t⟩, none, events⟩ := by
          simp [Backend.observed, hreply]
        obtain ⟨calls, hcalls, hcut, htally⟩ :=
          ih (fun st hst => hkind st (.tail _ hst)) ⟨s.calls ++ [(w, none)], t⟩
        refine ⟨(w, none) :: calls, ?_, ?_, ?_⟩ <;>
          simp only [Outcome.walk, attempt, accepted, hcall, hanswer, Option.map_none]
        · exact hcalls.trans (by simp)
        · exact .taken hcall hcut
        · rw [Backend.taken_cons (hkind step (by simp) w hcall), ← htally, bump_add_tally,
            Counts.zero_add]
      · have hanswer :
            backend.observed.answer w s = ⟨⟨s.calls ++ [(w, some e)], t⟩, some e, events⟩ := by
          simp [Backend.observed, hreply]
        refine ⟨[(w, some e)], ?_, ?_, ?_⟩ <;>
          simp only [Outcome.walk, attempt, accepted, hcall, hanswer, Option.map_some]
        · exact .refused hcall
        · simp [tally, Backend.taken]

lemma visited_take (backend : Backend α ε σ) (steps : List (Step α)) (p : Progress σ) :
    Outcome.visited (take backend) steps p = Outcome.visited (attempt backend) steps p.state := by
  induction steps generalizing p with
  | nil => rfl
  | cons step steps ih =>
    rw [Outcome.visited, Outcome.visited]
    rcases hcall : step.call with e | w
    · simp [take, attempt, hcall]
    · rcases hreply : backend.answer w p.state with ⟨t, _ | e, events⟩ <;>
        simp [take, attempt, hcall, hreply, Progress.issue, ih]

/-- The writes that a walk asks for: those of the steps that it comes to. -/
def asked (backend : Backend α ε σ) (steps : List (Step α)) (s : σ) : List (Write α) :=
  (Outcome.visited (attempt backend) steps s).filterMap (·.call.toOption)

lemma asked_sublist (backend : Backend α ε σ) (steps : List (Step α)) (s : σ) :
    (asked backend steps s).Sublist (steps.filterMap (·.call.toOption)) :=
  (Outcome.visited_prefix _ steps s).sublist.filterMap _

lemma map_calls_walk_observed (backend : Backend α ε σ) (steps : List (Step α))
    (s : Backend.Observed α ε σ) :
    (Outcome.walk (attempt backend.observed) steps s).state.calls.map (·.1) =
      s.calls.map (·.1) ++ asked backend steps s.inner := by
  induction steps generalizing s with
  | nil => simp [asked, Outcome.visited]
  | cons step steps ih =>
    rcases hcall : step.call with e | w
    · simp [Outcome.walk, asked, Outcome.visited, attempt, hcall, Except.toOption]
    · rcases hreply : backend.answer w s.inner with ⟨t, _ | e, events⟩
      · have hrest := ih ⟨s.calls ++ [(w, none)], t⟩
        simpa [Outcome.walk, asked, Outcome.visited, attempt, hcall, hreply, Backend.observed,
          Except.toOption] using hrest
      · simp [Outcome.walk, asked, Outcome.visited, attempt, hcall, hreply, Backend.observed,
          Except.toOption]

lemma state_walk_eq_after (backend : Backend α ε σ) (steps : List (Step α)) (s : σ) :
    (Outcome.walk (attempt backend) steps s).state = backend.after (asked backend steps s) s := by
  induction steps generalizing s with
  | nil => rfl
  | cons step steps ih =>
    rcases hcall : step.call with e | w
    · simp [Outcome.walk, asked, Outcome.visited, attempt, hcall, Except.toOption, Backend.after]
    · rcases hreply : backend.answer w s with ⟨t, _ | e, events⟩
      · simpa [Outcome.walk, asked, Outcome.visited, attempt, hcall, hreply, Except.toOption,
          Backend.after] using ih t
      · simp [Outcome.walk, asked, Outcome.visited, attempt, hcall, hreply, Except.toOption,
          Backend.after]

lemma calls_of_walk_done {backend : Backend α ε σ} {steps : List (Step α)} {s : σ}
    (hkind : ∀ step ∈ steps, ∀ w, step.call = .ok w → w.kind = step.phase.kind)
    (h : (Outcome.walk (attempt backend) steps s).error? = none) :
    let calls := (Outcome.walk (attempt backend.observed) steps ⟨[], s⟩).state.calls
    calls.map (fun c => .ok c.1) = steps.map Step.call ∧ ∀ c ∈ calls, c.2 = none := by
  intro calls
  obtain ⟨cs, hcs, hcut, -⟩ := walk_observed_cut backend hkind ⟨[], s⟩
  obtain ⟨-, herror, -⟩ := walk_observed_inner backend steps ⟨[], s⟩
  rw [herror, h] at hcut
  obtain ⟨hwrites, htaken⟩ := hcut.result_eq_ok_iff.1 rfl
  have hcalls : calls = cs := hcs.trans (List.nil_append cs)
  rw [hcalls]
  exact ⟨hwrites.symm, htaken⟩

lemma length_asked_of_walk_done {backend : Backend α ε σ} {steps : List (Step α)} {s : σ}
    (hkind : ∀ step ∈ steps, ∀ w, step.call = .ok w → w.kind = step.phase.kind)
    (h : (Outcome.walk (attempt backend) steps s).error? = none) :
    (asked backend steps s).length = steps.length := by
  have hasked := congrArg List.length (map_calls_walk_observed backend steps ⟨[], s⟩)
  have hcalls := congrArg List.length (calls_of_walk_done hkind h).1
  rw [List.map_nil, List.nil_append, List.length_map] at hasked
  rw [List.length_map, List.length_map] at hcalls
  rw [← hasked, hcalls]

end Step

namespace Collection

/-- Reconciling, whatever the order in which each phase goes over the keys, whatever the records are
written to and whatever the policy. The calls are the script cut short: all writes of the script are
issued unless one of them is refused or a merge fails, and nothing is issued after that. The result
tells which it was, and under which key; the counts are those of the writes that were taken. -/
theorem reconcile_calls_cut (kind : RecordKind α) (backend : Backend α ε σ)
    (policy? : Option (MergePolicy α)) (stored desired : List α) (state : σ)
    (order : Partition α → Phase → Entries (Pairing α))
    (horder : ∀ phase, (order (Partition.ofRecords kind.key stored desired) phase).Perm
      (Partition.ofRecords kind.key stored desired).entries) :
    let keys phase := (order (Partition.ofRecords kind.key stored desired) phase).map (·.1)
    let steps := script (policy?.getD kind.policy) (lastOf kind.key stored)
      (lastOf kind.key desired) keys [.delete, .add, .update]
    let out := (Collection.ofRecords stored (Backend.Observed.mk [] state) policy?).performIn order
      kind backend.observed .reconcile { pending := desired }
    let calls := out.collection.state.calls
    let plain := (Collection.ofRecords stored state policy?).performIn order kind backend .reconcile
      { pending := desired }
    (∀ phase, (keys phase).Nodup ∧
      ∀ k, k ∈ keys phase ↔ k ∈ stored.map kind.key ∨ k ∈ desired.map kind.key) ∧
    (steps.map Step.key).Nodup ∧
    Cut steps calls out.result ∧
    calls.map (fun c => .ok c.1) = (steps.map Step.call).take calls.length ∧
    (∀ c ∈ calls.dropLast, c.2 = none) ∧
    (out.result = .ok () ↔
      steps.map Step.call = calls.map (fun c => .ok c.1) ∧ ∀ c ∈ calls, c.2 = none) ∧
    out.collection.counts = Backend.taken calls ∧
    plain.result = out.result ∧ plain.collection.counts = out.collection.counts ∧
      plain.collection.state = out.collection.state.inner := by
  intro keys steps out calls plain
  have hsub : ∀ phase, order (Partition.ofRecords kind.key stored desired) phase ⊆
      (Partition.ofRecords kind.key stored desired).entries := fun phase => (horder phase).subset
  obtain ⟨hresult, hstate, hcounts⟩ := performIn_eq_walk order kind backend.observed .reconcile
    (c := Collection.ofRecords stored ⟨[], state⟩ policy?) rfl { pending := desired } hsub
  obtain ⟨hresult', hstate', hcounts'⟩ := performIn_eq_walk order kind backend .reconcile
    (c := Collection.ofRecords stored state policy?) rfl { pending := desired } hsub
  have hkeys : ∀ phase, (keys phase).Perm (Partition.ofRecords kind.key stored desired).keys :=
    fun phase => (horder phase).map _
  have hnodup : ∀ phase, (keys phase).Nodup := fun phase =>
    (hkeys phase).nodup_iff.2 (KeyMap.nodup_keys _)
  have hkind : ∀ step ∈ steps, ∀ w, step.call = .ok w → w.kind = step.phase.kind :=
    fun step hstep w hw => kind_of_pending (mem_script.1 hstep).2.2 hw
  obtain ⟨cs, hcs, hcut, htally⟩ := Step.walk_observed_cut backend hkind ⟨[], state⟩
  obtain ⟨hinner, herror, haccepted⟩ := Step.walk_observed_inner backend steps ⟨[], state⟩
  have hcalls : calls = cs :=
    (congrArg Backend.Observed.calls hstate).trans (hcs.trans (List.nil_append cs))
  have hresult_cut : Cut steps calls out.result := by
    rw [hcalls]
    exact hresult ▸ hcut
  refine ⟨fun phase => ⟨hnodup phase, fun k => ?_⟩, ?_, hresult_cut, hresult_cut.calls_eq_take,
    hresult_cut.taken_of_mem_dropLast, hresult_cut.result_eq_ok_iff, ?_, ?_, ?_, ?_⟩
  · rw [(hkeys phase).mem_iff, Partition.mem_keys_ofRecords]
  · exact nodup_keys_script (by decide) hnodup
  · rw [hcalls, ← htally]
    exact hcounts.trans (Counts.zero_add _)
  · refine hresult'.trans (Eq.trans ?_ hresult.symm)
    exact congrArg (fun e? => Option.elim e? (Except.ok ()) Except.error) herror.symm
  · refine hcounts'.trans (Eq.trans ?_ hcounts.symm)
    exact congrArg (fun taken => {} + Step.tally taken) haccepted.symm
  · exact hstate'.trans (hinner.symm.trans (congrArg Backend.Observed.inner hstate).symm)

/-- Keys in descending order, written to what refuses its third call: of five steps two are taken and
one is refused, and neither the second insertion nor the update is issued. -/
theorem reconcile_calls_cut_descending :
    let kind : RecordKind (String × Nat) :=
      ⟨"pair", (·.1), ⟨fun s d => s.2 == d.2, fun s d => ⟨(s.1, d.2), none⟩⟩⟩
    let stored := [("a", 1), ("b", 2), ("c", 3)]
    let desired := [("b", 7), ("d", 4), ("b", 8), ("e", 5)]
    let order (p : Partition (String × Nat)) (_ : Phase) := p.entries.reverse
    let backend : Backend (String × Nat) String (Backend.Screened (List (Write (String × Nat)))) :=
      Backend.screened (fun n _ => if n = 2 then some "full" else none) (.transcript id)
    let keys phase := (order (Partition.ofRecords kind.key stored desired) phase).map (·.1)
    let steps := script kind.policy (lastOf kind.key stored) (lastOf kind.key desired) keys
      [.delete, .add, .update]
    let out := (Collection.ofRecords stored (Backend.Observed.mk [] (Backend.Screened.mk 0 []))
      none).performIn order kind backend.observed .reconcile { pending := desired }
    (∀ phase, (order (Partition.ofRecords kind.key stored desired) phase).Perm
      (Partition.ofRecords kind.key stored desired).entries) ∧
    steps.length = 5 ∧ Cut steps out.collection.state.calls out.result ∧
    out.collection.state.calls =
      [(.delete ("c", 3), none), (.delete ("a", 1), none), (.insert ("e", 5), some "full")] ∧
    out.result = .error (.transaction .add "e" "full") := by
  intro kind stored desired order backend keys steps out
  have horder : ∀ phase, (order (Partition.ofRecords kind.key stored desired) phase).Perm
      (Partition.ofRecords kind.key stored desired).entries := fun _ => List.reverse_perm _
  obtain ⟨-, -, hcut, -⟩ :=
    reconcile_calls_cut kind backend none stored desired ⟨0, []⟩ order horder
  refine ⟨horder, by decide +kernel, ?_, by decide +kernel, by decide +kernel⟩
  subst steps out
  exact hcut

end Collection
end DesiredState
