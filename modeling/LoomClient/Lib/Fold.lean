import Mathlib.Logic.Basic

namespace LoomClient.Lib

-- Loops over a list, read through one observation of the state.
section Fold
variable {σ : Type u} {α : Type v} {τ : Type w} (f : σ → α → σ)

theorem foldl_frame (observe : σ → τ) (same : ∀ s a, observe (f s a) = observe s) (s : σ) (items : List α) :
    observe (items.foldl f s) = observe s := by
  induction items generalizing s with
  | nil => rfl
  | cons a rest ih => rw [List.foldl_cons,ih,same]

theorem foldl_grows (holds : σ → Prop) (adds : α → Prop) (each : ∀ s a, holds (f s a) ↔ adds a ∨ holds s)
    (s : σ) (items : List α) : holds (items.foldl f s) ↔ (∃ a ∈ items, adds a) ∨ holds s := by
  induction items generalizing s with
  | nil => simp
  | cons a rest ih =>
    rw [List.foldl_cons,ih,each]
    simp only [List.mem_cons,exists_eq_or_imp,or_assoc,or_left_comm]

theorem foldl_removes (holds : σ → Prop) (key : α) (each : ∀ s a, holds (f s a) ↔ holds s ∧ key ≠ a)
    (s : σ) (items : List α) : holds (items.foldl f s) ↔ holds s ∧ key ∉ items := by
  induction items generalizing s with
  | nil => simp
  | cons a rest ih =>
    rw [List.foldl_cons,ih,each]
    simp only [List.mem_cons,not_or,and_assoc,ne_eq]

theorem foldl_increases (counter : σ → Nat) (each : ∀ s a, counter s ≤ counter (f s a)) (s : σ) (items : List α) :
    counter s ≤ counter (items.foldl f s) := by
  induction items generalizing s with
  | nil => exact Nat.le_refl _
  | cons a rest ih => exact Nat.le_trans (each s a) (ih (f s a))

-- The last item that writes decides. Whether an item writes may hang on an invariant of the loop.
theorem foldl_last_of (holds : σ → Prop) (observe : σ → Option τ) (writes : α → Option τ) (items : List α)
    (kept : ∀ s, ∀ a ∈ items, holds s → holds (f s a))
    (each : ∀ s, ∀ a ∈ items, holds s → observe (f s a) = (writes a).or (observe s)) (s : σ) (first : holds s) :
    observe (items.foldl f s) = (items.reverse.findSome? writes).or (observe s) := by
  induction items generalizing s with
  | nil => rfl
  | cons a rest ih =>
    have here := each s a (.head rest) first
    have later := ih (fun s b member => kept s b (.tail a member)) (fun s b member => each s b (.tail a member))
      (f s a) (kept s a (.head rest) first)
    rw [List.foldl_cons,later,here,List.reverse_cons,List.findSome?_append]
    cases rest.reverse.findSome? writes with
    | some => rfl
    | none => cases written : writes a <;> simp [written]

theorem foldl_last (observe : σ → Option τ) (writes : α → Option τ)
    (each : ∀ s a, observe (f s a) = (writes a).or (observe s)) (s : σ) (items : List α) :
    observe (items.foldl f s) = (items.reverse.findSome? writes).or (observe s) :=
  foldl_last_of f (fun _ => True) observe writes items (fun _ _ _ _ => trivial) (fun s a _ _ => each s a) s trivial

theorem foldl_overwrite (observe : σ → Option τ) (writes : α → Option τ)
    (each : ∀ s a, observe (f s a) = (observe s).map (writes a).getD) (s : σ) (items : List α) :
    observe (items.foldl f s) = (observe s).map (items.reverse.findSome? writes).getD := by
  induction items generalizing s with
  | nil => cases seen : observe s <;> simp [seen]
  | cons a rest ih =>
    rw [List.foldl_cons,ih,each,Option.map_map,List.reverse_cons,List.findSome?_append]
    congr 1
    funext old
    cases rest.reverse.findSome? writes with
    | some => rfl
    | none => cases written : writes a <;> simp [written]

-- A loop whose hits settle a fact that the other steps leave alone.
section Settling
variable {f} (before after : σ → Prop) (hits : α → Prop) {items : List α}

theorem foldl_untouched (miss : ∀ s, ∀ a ∈ items, ¬ hits a → before s → before (f s a)) (first : before s)
    (none : ∀ a ∈ items, ¬ hits a) : before (items.foldl f s) := by
  induction items generalizing s with
  | nil => exact first
  | cons a rest ih =>
    refine ih (fun s b member => miss s b (.tail a member)) ?_ fun b member => none b (.tail a member)
    exact miss s a (.head rest) (none a (.head rest)) first

theorem foldl_settled (hit : ∀ s, ∀ a ∈ items, hits a → before s ∨ after s → after (f s a))
    (miss : ∀ s, ∀ a ∈ items, ¬ hits a → (before s → before (f s a)) ∧ (after s → after (f s a)))
    (first : before s ∧ (∃ a ∈ items, hits a) ∨ after s) : after (items.foldl f s) := by
  induction items generalizing s with
  | nil =>
    rcases first with ⟨_,_,absurd,_⟩ | settled
    · cases absurd
    · exact settled
  | cons a rest ih =>
    refine ih (fun s b member => hit s b (.tail a member)) (fun s b member => miss s b (.tail a member)) ?_
    by_cases here : hits a
    · exact .inr (hit s a (.head rest) here (first.imp_left And.left))
    · rcases first with ⟨untouched,b,member,later⟩ | settled
      · rcases List.mem_cons.mp member with rfl | tail
        · exact absurd later here
        · exact .inl ⟨(miss s a (.head rest) here).1 untouched,b,tail,later⟩
      · exact .inr ((miss s a (.head rest) here).2 settled)

end Settling
end Fold
end LoomClient.Lib
