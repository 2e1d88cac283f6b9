import Mathlib.Data.List.Basic

namespace LoomClient.Lib

-- How one request ends: what the state goes through meanwhile, and the error it comes back with.
structure Reply (σ : Type u) (ε : Type v) where
  meanwhile : σ → σ
  error : Option ε

-- `raised` is the error that left the loop.
structure Asking (σ : Type u) (ρ : Type v) (ε : Type w) where
  state : σ
  sent : List ρ
  raised : Option ε

namespace Asking
variable {σ : Type u} {ι : Type v} {ρ : Type w} {ε : Type x}

def start (s : σ) : Asking σ ρ ε := ⟨s,[],none⟩

-- The environment answers the requests by their number.
def ask (replies : Nat → Reply σ ε) (p : Asking σ ρ ε) (request : ρ) : Asking σ ρ ε :=
  let reply := replies p.sent.length
  ⟨reply.meanwhile p.state,p.sent ++ [request],reply.error⟩

variable (due : σ → ι → Option ρ)

-- An item is judged by the state in which its turn comes. An error ends the loop.
def fanOut (replies : Nat → Reply σ ε) : List ι → Asking σ ρ ε → Asking σ ρ ε
  | [],p => p
  | item :: rest,p => match due p.state item with
    | none => fanOut replies rest p
    | some request =>
      let answered := ask replies p request
      match answered.raised with
      | none => fanOut replies rest answered
      | some _ => answered

-- What is to be asked of the items, whatever the requests come back with.
def owed (meanwhile : Nat → σ → σ) : List ι → Nat → σ → List ρ
  | [],_,_ => []
  | item :: rest,n,s => match due s item with
    | none => owed meanwhile rest n s
    | some request => request :: owed meanwhile rest (n + 1) (meanwhile n s)

section Complete
variable (replies : Nat → Reply σ ε)

theorem ask_length (p : Asking σ ρ ε) (request : ρ) : (ask replies p request).sent.length = p.sent.length + 1 := by
  simp only [ask,List.length_append,List.length_singleton]

theorem fan_out_complete_iff (items : List ι) (p : Asking σ ρ ε) :
    (fanOut due replies items p).sent =
        p.sent ++ owed due (fun n => (replies n).meanwhile) items p.sent.length p.state ↔
      ∀ n, n + 1 < (owed due (fun n => (replies n).meanwhile) items p.sent.length p.state).length →
        (replies (p.sent.length + n)).error = none := by
  induction items generalizing p with
  | nil =>
    refine iff_of_true (List.append_nil _).symm fun n below => ?_
    exact absurd below (Nat.not_lt_zero _)
  | cons item rest ih =>
    unfold fanOut owed
    cases turn : due p.state item with
    | none => exact ih p
    | some request =>
      let later := owed due (fun n => (replies n).meanwhile) rest (p.sent.length + 1)
        ((replies p.sent.length).meanwhile p.state)
      cases ended : (replies p.sent.length).error with
      | none =>
        have continued := ih (ask replies p request)
        rw [ask_length replies p request] at continued
        have raised : (ask replies p request).raised = none := ended
        simp only [raised]
        refine Iff.trans ?_ (continued.trans ?_)
        · rw [show (ask replies p request).sent = p.sent ++ [request] from rfl,List.append_assoc]
          rfl
        · constructor
          · intro quiet n below
            rcases n with _ | n
            · exact ended
            · have here := quiet n (Nat.lt_of_succ_lt_succ below)
              rwa [Nat.add_right_comm,Nat.add_assoc] at here
          · intro quiet n below
            have here := quiet (n + 1) (Nat.succ_lt_succ below)
            rwa [Nat.add_right_comm,Nat.add_assoc]
      | some error =>
        have raised : (ask replies p request).raised = some error := ended
        simp only [raised]
        change p.sent ++ [request] = p.sent ++ request :: later ↔ _
        rw [List.append_cancel_left_eq,List.cons.injEq,and_iff_right rfl]
        constructor
        · intro last n below
          change n + 1 < (request :: later).length at below
          rw [←last] at below
          exact absurd below (by simp)
        · intro quiet
          rcases List.eq_nil_or_concat later with none_left | ⟨_,_,some_left⟩
          · exact none_left.symm
          · have first := quiet 0 (by
              change 0 + 1 < (request :: later).length
              rw [some_left]
              simp)
            rw [Nat.add_zero,ended] at first
            cases first

end Complete

theorem owed_at_start {meanwhile : Nat → σ → σ} (holds : σ → Prop) (items : List ι)
    (steady : ∀ n s, holds s → holds (meanwhile n s) ∧ ∀ item ∈ items, due (meanwhile n s) item = due s item)
    (n : Nat) (s : σ) (first : holds s) : owed due meanwhile items n s = items.filterMap (due s) := by
  induction items generalizing n s with
  | nil => rfl
  | cons item rest ih =>
    have within : ∀ n s, holds s → holds (meanwhile n s) ∧ ∀ i ∈ rest, due (meanwhile n s) i = due s i :=
      fun n s held => ⟨(steady n s held).1,fun i member => (steady n s held).2 i (.tail item member)⟩
    unfold owed
    rw [List.filterMap_cons]
    cases due s item with
    | none => exact ih within n s first
    | some request =>
      have next := steady n s first
      rw [ih within (n + 1) (meanwhile n s) next.1]
      exact congrArg (request :: ·) (List.filterMap_congr fun i member => next.2 i (.tail item member))

end Asking
end LoomClient.Lib
