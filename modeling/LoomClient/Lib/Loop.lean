import Mathlib.Order.Basic

namespace LoomClient.Lib.Loop
variable {σ β : Type}

inductive Turn (σ β : Type) where
  | again (s : σ)
  | done (b : β)

variable (turn : Nat → σ → Turn σ β)

-- The loop from its pass `k` on; without fuel it comes to nothing.
def loop : Nat → Nat → σ → Option β
  | 0,_,_ => none
  | fuel + 1,k,s => match turn k s with
    | .again next => loop fuel (k + 1) next
    | .done b => some b

inductive Passes : Nat → σ → Nat → σ → Prop where
  | here : Passes k s k s
  | on : turn k s = .again next → Passes (k + 1) next n t → Passes k s n t

variable {turn}

theorem passes_later (passes : Passes turn k s n t) : k ≤ n := by
  induction passes with
  | here => exact Nat.le_refl _
  | on _ _ ih => omega

theorem passes_step (passes : Passes turn k s n t) (again : turn n t = .again next) :
    Passes turn k s (n + 1) next := by
  induction passes with
  | here => exact .on again .here
  | on first _ ih => exact .on first (ih again)

theorem passes_keep (keeps : Nat → σ → Prop) (start : keeps k s) (passes : Passes turn k s n t)
    (step : ∀ k s next, keeps k s → turn k s = .again next → keeps (k + 1) next) : keeps n t := by
  induction passes with
  | here => exact start
  | on again _ ih => exact ih (step _ _ _ start again)

theorem loop_exact : loop turn fuel k s = some b ↔ ∃ n t, Passes turn k s n t ∧ turn n t = .done b ∧ n < k + fuel := by
  induction fuel generalizing k s with
  | zero =>
    constructor
    · intro ended
      cases ended
    · rintro ⟨n,t,passes,_,bound⟩
      have later := passes_later passes
      omega
  | succ fuel ih =>
    cases came : turn k s with
    | done c =>
      simp only [loop,came,Option.some.injEq]
      constructor
      · rintro rfl
        exact ⟨k,s,.here,came,by omega⟩
      · rintro ⟨n,t,passes,ended,_⟩
        cases passes with
        | here => exact Turn.done.inj (came.symm.trans ended)
        | on again _ => cases came.symm.trans again
    | again next =>
      simp only [loop,came,ih]
      constructor
      · rintro ⟨n,t,passes,ended,bound⟩
        exact ⟨n,t,.on came passes,ended,by omega⟩
      · rintro ⟨n,t,passes,ended,bound⟩
        cases passes with
        | here => cases came.symm.trans ended
        | on again rest =>
          cases came.symm.trans again
          exact ⟨n,t,rest,ended,by omega⟩

theorem loop_more (ended : loop turn fuel k s = some b) (more : fuel ≤ fuel') : loop turn fuel' k s = some b := by
  obtain ⟨n,t,passes,last,bound⟩ := loop_exact.mp ended
  exact loop_exact.mpr ⟨n,t,passes,last,by omega⟩

theorem loop_ends (bounded : ∀ n t, Passes turn k s n t → n < k + fuel) : ∃ b, loop turn fuel k s = some b := by
  induction fuel generalizing k s with
  | zero => exact absurd (bounded k s .here) (by omega)
  | succ fuel ih =>
    cases came : turn k s with
    | done b => exact ⟨b,by simp [loop,came]⟩
    | again next =>
      simp only [loop,came]
      refine ih fun n t rest => ?_
      have bound := bounded n t (.on came rest)
      omega

end LoomClient.Lib.Loop
