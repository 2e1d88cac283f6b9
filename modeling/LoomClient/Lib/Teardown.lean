import Mathlib.Logic.Basic

namespace LoomClient.Lib

inductive Ended (ε : Type u) where
  | cancelled
  | finished
  | failed (e : ε)
  deriving DecidableEq, Repr

-- Each item does something, awaits tasks one after the other and does the rest of its work.
-- A failed task raises where it is awaited, a cancelled one does not.
structure Procedure (σ : Type u) (ι : Type v) (ε : Type w) where
  before : ι → σ → σ
  awaits : ι → σ → List Nat
  after : ι → σ → σ
  ended : σ → Nat → Option (Ended ε)

-- The tasks still awaited, the item that awaits them and the items behind it.
inductive Call (ι : Type v) (ε : Type w) where
  | idle
  | waiting (ids : List Nat) (now : ι) (rest : List ι)
  | raised (e : ε)
  | returned
  deriving DecidableEq, Repr

namespace Procedure
variable {σ : Type u} {ι : Type v} {ε : Type w} (p : Procedure σ ι ε)

def await (s : σ) : List Nat → Except ε (List Nat)
  | [] => .ok []
  | id :: rest => match p.ended s id with
    | none => .ok (id :: rest)
    | some (.failed e) => .error e
    | some _ => await s rest

-- The call runs until it has to wait.
def perform : List ι → σ → σ × Call ι ε
  | [],s => (s,.returned)
  | i :: rest,s =>
    let t := p.before i s
    match p.await t (p.awaits i s) with
    | .error e => (t,.raised e)
    | .ok [] => perform rest (p.after i t)
    | .ok (id :: ids) => (t,.waiting (id :: ids) i rest)

def resume (s : σ) : Call ι ε → σ × Call ι ε
  | .waiting ids i rest => match p.await s ids with
    | .error e => (s,.raised e)
    | .ok [] => p.perform rest (p.after i s)
    | .ok (id :: ids) => (s,.waiting (id :: ids) i rest)
  | call => (s,call)

structure Endures (within : σ → List Nat → ι → List ι → Prop) : Prop where
  ended : ∀ s id ids i rest, within s (id :: ids) i rest → (p.ended s id).isSome → within s ids i rest
  unfailed : ∀ s id ids i rest e, within s (id :: ids) i rest → p.ended s id ≠ some (.failed e)

structure Keeps (between : σ → List ι → Prop) (within : σ → List Nat → ι → List ι → Prop) : Prop
    extends p.Endures within where
  before : ∀ s i rest, between s (i :: rest) → within (p.before i s) (p.awaits i s) i rest
  after : ∀ s i rest, within s [] i rest → between (p.after i s) rest

def Stands (between : σ → List ι → Prop) (within : σ → List Nat → ι → List ι → Prop) (x : σ × Call ι ε) : Prop :=
  match x.2 with
  | .waiting ids i rest => within x.1 ids i rest
  | .raised _ => False
  | .returned => between x.1 []
  | .idle => False

variable {p} {between : σ → List ι → Prop} {within : σ → List Nat → ι → List ι → Prop}

theorem await_within (keeps : p.Endures within) (held : within s ids i rest) :
    ∃ left, p.await s ids = .ok left ∧ within s left i rest := by
  induction ids with
  | nil => exact ⟨[],rfl,held⟩
  | cons id ids ih =>
    unfold await
    cases ended : p.ended s id with
    | none => exact ⟨id :: ids,rfl,held⟩
    | some how =>
      have later := ih (keeps.ended s id ids i rest held (by simp [ended]))
      cases how with
      | failed e => exact absurd ended (keeps.unfailed s id ids i rest e held)
      | cancelled => exact later
      | finished => exact later

-- A call never raises, and what holds between the items holds when it returns.
theorem perform_stands (keeps : p.Keeps between within) (code : List ι) (s : σ) (start : between s code) :
    Stands between within (p.perform code s) := by
  induction code generalizing s with
  | nil => exact start
  | cons i rest ih =>
    obtain ⟨left,awaited,held⟩ := await_within keeps.toEndures (keeps.before s i rest start)
    simp only [perform,awaited]
    cases left with
    | nil => exact ih _ (keeps.after _ i rest held)
    | cons id ids => exact held

theorem perform_cons (i : ι) (rest : List ι) (s : σ) :
    p.perform (i :: rest) s = p.resume (p.before i s) (.waiting (p.awaits i s) i rest) := rfl

theorem resume_stands (keeps : p.Keeps between within) (call : Call ι ε) (s : σ)
    (standing : Stands between within (s,call)) : Stands between within (p.resume s call) := by
  cases call with
  | waiting ids i rest =>
    obtain ⟨left,awaited,held⟩ := await_within keeps.toEndures standing
    simp only [resume,awaited]
    cases left with
    | nil => exact perform_stands keeps rest _ (keeps.after _ i rest held)
    | cons id ids => exact held
  | _ => exact standing

theorem perform_shorter (code : List ι) (s : σ) (waits : (p.perform code s).2 = .waiting ids i rest) :
    rest.length < code.length := by
  induction code generalizing s with
  | nil => cases waits
  | cons j later ih =>
    simp only [perform] at waits
    split at waits
    · cases waits
    · exact Nat.lt_succ_of_lt (ih _ waits)
    · cases waits
      exact Nat.lt_succ_self _

theorem ended_of_await (awaited : p.await s ids = .ok []) : ∀ id ∈ ids, (p.ended s id).isSome := by
  induction ids with
  | nil => simp
  | cons id ids ih =>
    unfold await at awaited
    cases ended : p.ended s id with
    | none => simp [ended] at awaited
    | some how =>
      rw [ended] at awaited
      cases how with
      | failed e => cases awaited
      | cancelled => exact List.forall_mem_cons.mpr ⟨by simp [ended],ih awaited⟩
      | finished => exact List.forall_mem_cons.mpr ⟨by simp [ended],ih awaited⟩

theorem await_ended (all : ∀ id ∈ ids, (p.ended s id).isSome) : ∀ left, p.await s ids = .ok left → left = [] := by
  induction ids with
  | nil =>
    intro left awaited
    cases awaited
    rfl
  | cons id ids ih =>
    intro left awaited
    have others : ∀ other ∈ ids, (p.ended s other).isSome := fun other member => all other (.tail _ member)
    unfold await at awaited
    cases ended : p.ended s id with
    | none => exact absurd (all id (.head _)) (by simp [ended])
    | some how =>
      rw [ended] at awaited
      cases how with
      | failed e => cases awaited
      | cancelled => exact ih others left awaited
      | finished => exact ih others left awaited

theorem resume_shorter (all : ∀ id ∈ ids, (p.ended s id).isSome)
    (waits : (p.resume s (.waiting ids i rest)).2 = .waiting more j later) : later.length < rest.length := by
  simp only [resume] at waits
  split at waits
  · cases waits
  · exact perform_shorter rest _ waits
  · rename_i id left awaited
    cases await_ended all _ awaited

theorem resume_returned (returned : (p.resume s (.waiting ids i rest)).2 = .returned) :
    (∀ id ∈ ids, (p.ended s id).isSome) ∧ (p.perform rest (p.after i s)).2 = .returned := by
  simp only [resume] at returned
  split at returned
  · cases returned
  · rename_i awaited
    exact ⟨ended_of_await awaited,returned⟩
  · cases returned

theorem perform_invariant (holds : σ → Prop) (before : ∀ i s, holds s → holds (p.before i s))
    (after : ∀ i s, holds s → holds (p.after i s)) (code : List ι) (s : σ) (start : holds s) :
    holds (p.perform code s).1 := by
  induction code generalizing s with
  | nil => exact start
  | cons i rest ih =>
    simp only [perform]
    split
    · exact before i s start
    · exact ih _ (after i _ (before i s start))
    · exact before i s start

theorem resume_invariant (holds : σ → Prop) (before : ∀ i s, holds s → holds (p.before i s))
    (after : ∀ i s, holds s → holds (p.after i s)) (call : Call ι ε) (s : σ) (start : holds s) :
    holds (p.resume s call).1 := by
  cases call with
  | waiting ids i rest =>
    simp only [resume]
    split
    · exact start
    · exact perform_invariant holds before after rest _ (after i s start)
    · exact start
  | _ => exact start

theorem perform_still (code : List ι) (still : ∀ i ∈ code, p.before i s = s ∧ p.awaits i s = [] ∧ p.after i s = s) :
    p.perform code s = (s,.returned) := by
  induction code with
  | nil => rfl
  | cons i rest ih =>
    obtain ⟨before,awaits,after⟩ := still i (.head _)
    simp only [perform,before,awaits,await,after]
    exact ih fun j member => still j (.tail _ member)

end Procedure
end LoomClient.Lib
