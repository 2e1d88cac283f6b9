import LoomClient.Lib.Dict
import LoomClient.Lib.Transition

namespace LoomClient.Lib

-- A handler that awaits a read of its own puts its broadcast into effect with that read's answer.
structure Outcome (σ : Type u) (π : Type v) (ρ : Type w) where
  mirror : σ
  reads : List ρ
  applied : List π

-- How much of the broadcasts was in effect at the request, and sent at the answer. The client is
-- told neither: a dating only judges a run.
structure Dating where
  requested : Nat
  asOf : Nat
  deriving DecidableEq, Repr

structure Handlers (σ : Type u) (χ : Type v) (π : Type w) (ρ : Type x) (α : Type y) where
  call : σ → χ → Option (Outcome σ π ρ)
  push : σ → π → Option (Outcome σ π ρ)
  settle : σ → Nat → ρ → Dating → α → Option (Outcome σ π ρ)

structure Race (σ : Type u) (π : Type v) (ρ : Type w) where
  mirror : σ
  applied : List π
  reads : Dict Nat (ρ × Nat)
  nextRead : Nat

inductive Incident (χ : Type u) (π : Type v) (α : Type w) where
  | call (call : χ)
  | push (push : π)
  | answer (read asOf : Nat) (answer : α)

namespace Race
variable {σ χ π ρ α : Type}

def fresh (mirror : σ) : Race σ π ρ := ⟨mirror,[],.empty,0⟩

def request (x : Race σ π ρ) (r : ρ) : Race σ π ρ :=
  {x with reads := x.reads.set x.nextRead (r,x.applied.length), nextRead := x.nextRead + 1}

def enter (x : Race σ π ρ) (o : Outcome σ π ρ) : Race σ π ρ :=
  o.reads.foldl request {x with mirror := o.mirror, applied := x.applied ++ o.applied}

def advance (handlers : Handlers σ χ π ρ α) (x : Race σ π ρ) : Incident χ π α → Option (Race σ π ρ)
  | .call call => (handlers.call x.mirror call).map x.enter
  | .push push => (handlers.push x.mirror push).map x.enter
  | .answer read asOf answer => match x.reads.get? read with
    | none => none
    | some (r,requested) => (handlers.settle x.mirror read r ⟨requested,asOf⟩ answer).map
        ({x with reads := x.reads.erase read} : Race σ π ρ).enter

end Race

-- The broadcasts put into effect while the read was in flight that its answer does not know.
def Dating.newer {π : Type u} (dating : Dating) (applied : List π) : List π :=
  applied.drop (max dating.requested dating.asOf)

namespace Race
variable {σ χ π ρ α : Type}

-- An answer undoes no newer broadcast.
def KeepsPushes (keeps : Nat → ρ → Dating → List π → σ → σ → Prop) (x : Race σ π ρ) (e : Incident χ π α)
    (y : Race σ π ρ) : Prop :=
  match e with
  | .answer read asOf _ => ∀ flight ∈ x.reads.get? read,
      keeps read flight.1 ⟨flight.2,asOf⟩ x.applied x.mirror y.mirror
  | _ => True

def Unopposed (agrees : Nat → ρ → Dating → List π → σ → α → Prop) (x : Race σ π ρ) (e : Incident χ π α) : Prop :=
  match e with
  | .answer read asOf answer => ∀ flight ∈ x.reads.get? read,
      agrees read flight.1 ⟨flight.2,asOf⟩ x.applied x.mirror answer
  | _ => True

instance (keeps : Nat → ρ → Dating → List π → σ → σ → Prop) [∀ n r d ps m t, Decidable (keeps n r d ps m t)]
    (x : Race σ π ρ) (e : Incident χ π α) (y : Race σ π ρ) : Decidable (KeepsPushes keeps x e y) := by
  cases e <;> unfold KeepsPushes <;> infer_instance

instance (agrees : Nat → ρ → Dating → List π → σ → α → Prop) [∀ n r d ps m a, Decidable (agrees n r d ps m a)]
    (x : Race σ π ρ) (e : Incident χ π α) : Decidable (Unopposed agrees x e) := by
  cases e <;> unfold Unopposed <;> infer_instance

theorem enter_mirror (x : Race σ π ρ) (o : Outcome σ π ρ) : (x.enter o).mirror = o.mirror := by
  have requested : ∀ (rs : List ρ) (y : Race σ π ρ), (rs.foldl request y).mirror = y.mirror := by
    intro rs
    induction rs with
    | nil => exact fun _ => rfl
    | cons r rest ih => exact fun y => ih (y.request r)
  exact requested o.reads _

structure Preserves (handlers : Handlers σ χ π ρ α) (holds : σ → Prop) : Prop where
  call : ∀ m c o, holds m → handlers.call m c = some o → holds o.mirror
  push : ∀ m p o, holds m → handlers.push m p = some o → holds o.mirror
  settle : ∀ m n r d a o, holds m → handlers.settle m n r d a = some o → holds o.mirror

variable {handlers : Handlers σ χ π ρ α}

theorem advance_answer {x y : Race σ π ρ} {read asOf : Nat} {a : α}
    (moved : advance handlers x (.answer read asOf a) = some y) :
    ∃ r requested o, x.reads.get? read = some (r,requested) ∧
      handlers.settle x.mirror read r ⟨requested,asOf⟩ a = some o ∧ y.mirror = o.mirror := by
  simp only [advance] at moved
  split at moved
  · cases moved
  · rename_i r requested found
    obtain ⟨o,settled,rfl⟩ := Option.map_eq_some_iff.mp moved
    exact ⟨r,requested,o,found,settled,enter_mirror _ o⟩

theorem advance_read {x : Race σ π ρ} {read d asOf : Nat} {r : ρ} {a : α} {o : Outcome σ π ρ}
    (under_way : x.reads.get? read = some (r,d)) (settled : handlers.settle x.mirror read r ⟨d,asOf⟩ a = some o) :
    ∃ y, advance handlers x (.answer read asOf a) = some y ∧ y.mirror = o.mirror ∧
      ∀ next, o.reads = [next] → ∃ n d', y.reads.get? n = some (next,d') := by
  refine ⟨({x with reads := x.reads.erase read} : Race σ π ρ).enter o,by simp [advance,under_way,settled],
    enter_mirror _ o,fun next one => ?_⟩
  simp only [enter,one,List.foldl_cons,List.foldl_nil,request]
  exact ⟨_,_,Dict.get?_set_self _ _ _⟩

theorem advance_holds {holds : σ → Prop} (safe : Preserves handlers holds) {x y : Race σ π ρ}
    (first : holds x.mirror) (moved : advance handlers x e = some y) : holds y.mirror := by
  cases e with
  | call c =>
    obtain ⟨o,called,rfl⟩ := Option.map_eq_some_iff.mp moved
    rw [enter_mirror]
    exact safe.call _ c o first called
  | push p =>
    obtain ⟨o,pushed,rfl⟩ := Option.map_eq_some_iff.mp moved
    rw [enter_mirror]
    exact safe.push _ p o first pushed
  | answer read asOf a =>
    obtain ⟨r,requested,o,_,settled,same⟩ := advance_answer moved
    rw [same]
    exact safe.settle _ read r _ a o first settled

-- Where each answer keeps the newer broadcasts precisely when it agrees with them, a run does
-- precisely when every answer in it agrees.
theorem keeps_iff_unopposed {holds : σ → Prop} {keeps : Nat → ρ → Dating → List π → σ → σ → Prop}
    {agrees : Nat → ρ → Dating → List π → σ → α → Prop} (safe : Preserves handlers holds)
    (exact_answer : ∀ m n r d ps a o, holds m → handlers.settle m n r d a = some o →
      (keeps n r d ps m o.mirror ↔ agrees n r d ps m a))
    {x : Race σ π ρ} (first : holds x.mirror) (incidents : List (Incident χ π α)) :
    Every (advance handlers) (KeepsPushes keeps) x incidents ↔
      Every (advance handlers) (fun x e _ => Unopposed agrees x e) x incidents := by
  refine every_congr (fun y => holds y.mirror) first (fun y e z held moved => advance_holds safe held moved) ?_
  intro y e z held moved
  cases e with
  | call => exact Iff.rfl
  | push => exact Iff.rfl
  | answer read asOf a =>
    obtain ⟨r,requested,o,found,settled,same⟩ := advance_answer moved
    simp only [KeepsPushes,Unopposed,found,Option.mem_def,Option.some.injEq,forall_eq',same]
    exact exact_answer _ read r _ _ a o held settled

theorem preserves_trivial : Preserves handlers fun _ => True :=
  ⟨fun _ _ _ _ _ => trivial,fun _ _ _ _ _ => trivial,fun _ _ _ _ _ _ _ _ => trivial⟩

end Race
end LoomClient.Lib
