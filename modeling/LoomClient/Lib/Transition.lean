import Mathlib.Logic.Basic

namespace LoomClient.Lib

-- Whatever the environment decides (an answer, a clock reading, a scheduling choice) is part of
-- the action, so that a run is determined by its list of actions.
section Machine
variable {σ : Type u} {α : Type v}

def run (step : σ → α → Option σ) : σ → List α → Option σ
  | s, [] => some s
  | s, a :: rest => (step s a).bind fun t => run step t rest

-- A refused action ends the run.
def Every (step : σ → α → Option σ) (related : σ → α → σ → Prop) : σ → List α → Prop
  | _, [] => True
  | s, a :: rest => match step s a with
    | none => True
    | some t => related s a t ∧ Every step related t rest

def Always (step : σ → α → Option σ) (holds : σ → Prop) : σ → List α → Prop
  | s, [] => holds s
  | s, a :: rest => holds s ∧ match step s a with
    | none => True
    | some t => Always step holds t rest

-- Answered when a later transition fulfils it, or still outstanding where the run ends.
def Answered (step : σ → α → Option σ) (fulfils : σ → α → σ → Prop) (outstanding : σ → Prop) : σ → List α → Prop
  | s, [] => outstanding s
  | s, a :: rest => match step s a with
    | none => outstanding s
    | some t => fulfils s a t ∨ Answered step fulfils outstanding t rest

-- As `Every`, for a relation that also sees the rest of the run.
def Throughout (step : σ → α → Option σ) (related : σ → α → σ → List α → Prop) : σ → List α → Prop
  | _, [] => True
  | s, a :: rest => match step s a with
    | none => True
    | some t => related s a t rest ∧ Throughout step related t rest

variable {step : σ → α → Option σ}

instance Every.decidable {related : σ → α → σ → Prop} [∀ s a t, Decidable (related s a t)] :
    ∀ (s : σ) (actions : List α), Decidable (Every step related s actions)
  | _, [] => isTrue trivial
  | s, a :: rest => by
    unfold Every
    cases step s a with
    | none => exact isTrue trivial
    | some t =>
      have later : Decidable (Every step related t rest) := Every.decidable t rest
      exact inferInstanceAs (Decidable (related s a t ∧ Every step related t rest))

instance Always.decidable {holds : σ → Prop} [∀ s, Decidable (holds s)] :
    ∀ (s : σ) (actions : List α), Decidable (Always step holds s actions)
  | s, [] => inferInstanceAs (Decidable (holds s))
  | s, a :: rest => by
    unfold Always
    cases step s a with
    | none => exact inferInstanceAs (Decidable (holds s ∧ True))
    | some t =>
      have later : Decidable (Always step holds t rest) := Always.decidable t rest
      exact inferInstanceAs (Decidable (holds s ∧ Always step holds t rest))

instance Answered.decidable {fulfils : σ → α → σ → Prop} {outstanding : σ → Prop}
    [∀ s a t, Decidable (fulfils s a t)] [∀ s, Decidable (outstanding s)] :
    ∀ (s : σ) (actions : List α), Decidable (Answered step fulfils outstanding s actions)
  | s, [] => inferInstanceAs (Decidable (outstanding s))
  | s, a :: rest => by
    unfold Answered
    cases step s a with
    | none => exact inferInstanceAs (Decidable (outstanding s))
    | some t =>
      have later : Decidable (Answered step fulfils outstanding t rest) := Answered.decidable t rest
      exact inferInstanceAs (Decidable (fulfils s a t ∨ Answered step fulfils outstanding t rest))

instance Throughout.decidable {related : σ → α → σ → List α → Prop} [∀ s a t rest, Decidable (related s a t rest)] :
    ∀ (s : σ) (actions : List α), Decidable (Throughout step related s actions)
  | _, [] => isTrue trivial
  | s, a :: rest => by
    unfold Throughout
    cases step s a with
    | none => exact isTrue trivial
    | some t =>
      have later : Decidable (Throughout step related t rest) := Throughout.decidable t rest
      exact inferInstanceAs (Decidable (related s a t rest ∧ Throughout step related t rest))

theorem run_append (s : σ) (first second : List α) :
    run step s (first ++ second) = (run step s first).bind fun t => run step t second := by
  induction first generalizing s with
  | nil => rfl
  | cons a rest ih =>
    cases next : step s a with
    | none => simp [run,next]
    | some t => simp [run,next,ih]

theorem every_append {related : σ → α → σ → Prop} (s : σ) (first second : List α) :
    Every step related s (first ++ second) ↔ Every step related s first ∧ ∀ t ∈ run step s first, Every step related t second := by
  induction first generalizing s with
  | nil => simp [run,Every]
  | cons a rest ih =>
    simp only [List.cons_append,Every,run]
    cases next : step s a with
    | none => simp
    | some t =>
      simp only [Option.bind_some,ih t,and_assoc]

theorem every_of_actions {related : σ → α → σ → Prop} (each : ∀ a ∈ actions, ∀ s t, related s a t) :
    Every step related s actions := by
  induction actions generalizing s with
  | nil => trivial
  | cons a rest ih =>
    have later : ∀ b ∈ rest, ∀ u v, related u b v := fun b member => each b (.tail a member)
    simp only [Every]
    cases step s a with
    | none => trivial
    | some t => exact ⟨each a (.head rest) s t,ih later⟩

theorem always_start {holds : σ → Prop} (always : Always step holds s actions) : holds s := by
  cases actions with
  | nil => exact always
  | cons => exact always.1

theorem always_of_invariant {holds : σ → Prop} (first : holds s)
    (kept : ∀ s a t, holds s → step s a = some t → holds t) : Always step holds s actions := by
  induction actions generalizing s with
  | nil => exact first
  | cons a rest ih =>
    refine ⟨first,?_⟩
    cases next : step s a with
    | none => trivial
    | some t => exact ih (kept s a t first next)

theorem always_mono {weak strong : σ → Prop} (implies : ∀ s, strong s → weak s)
    (always : Always step strong s actions) : Always step weak s actions := by
  induction actions generalizing s with
  | nil => exact implies _ always
  | cons a rest ih =>
    refine ⟨implies _ always.1,?_⟩
    have after := always.2
    cases next : step s a with
    | none => trivial
    | some t => rw [next] at after; exact ih after

theorem run_always {holds : σ → Prop} (always : Always step holds s actions)
    (path : run step s actions = some t) : holds t := by
  induction actions generalizing s with
  | nil => cases path; exact always
  | cons a rest ih =>
    have after := always.2
    cases next : step s a with
    | none => simp [run,next] at path
    | some u =>
      rw [next] at after
      rw [run,next] at path
      exact ih after path

-- Where a step keeps the property precisely when a guard on the state before it holds, a run keeps
-- it precisely when every step meets the guard.
theorem always_iff_every_among (allowed : α → Prop) (invariant : σ → Prop) {holds : σ → Prop} {guard : σ → α → Prop}
    (kept : ∀ s a t, allowed a → invariant s → step s a = some t → invariant t)
    (exact_step : ∀ s a t, allowed a → invariant s → holds s → step s a = some t → (holds t ↔ guard s a))
    (all : ∀ a ∈ actions, allowed a) (within : invariant s) (first : holds s) :
    Always step holds s actions ↔ Every step (fun s a _ => guard s a) s actions := by
  induction actions generalizing s with
  | nil => exact ⟨fun _ => trivial,fun _ => first⟩
  | cons a rest ih =>
    have here := all a (.head rest)
    have others : ∀ b ∈ rest, allowed b := fun b member => all b (.tail a member)
    simp only [Always,Every]
    cases next : step s a with
    | none => simp [first]
    | some t =>
      simp only [first,true_and]
      have after := kept s a t here within next
      constructor
      · intro later
        have reached := always_start later
        exact ⟨(exact_step s a t here within first next).mp reached,(ih others after reached).mp later⟩
      · rintro ⟨met,later⟩
        have reached := (exact_step s a t here within first next).mpr met
        exact (ih others after reached).mpr later

theorem always_iff_every_within (invariant : σ → Prop) {holds : σ → Prop} {guard : σ → α → Prop}
    (kept : ∀ s a t, invariant s → step s a = some t → invariant t)
    (exact_step : ∀ s a t, invariant s → holds s → step s a = some t → (holds t ↔ guard s a))
    (within : invariant s) (first : holds s) :
    Always step holds s actions ↔ Every step (fun s a _ => guard s a) s actions :=
  always_iff_every_among (fun _ => True) invariant (fun s a t _ => kept s a t) (fun s a t _ => exact_step s a t)
    (fun _ _ => trivial) within first

theorem always_iff_every {holds : σ → Prop} {guard : σ → α → Prop} (first : holds s)
    (exact_step : ∀ s a t, holds s → step s a = some t → (holds t ↔ guard s a)) :
    Always step holds s actions ↔ Every step (fun s a _ => guard s a) s actions :=
  always_iff_every_within (fun _ => True) (fun _ _ _ _ _ => trivial) (fun s a t _ => exact_step s a t) trivial first

theorem every_of_invariant (holds : σ → Prop) {related : σ → α → σ → Prop} (first : holds s)
    (kept : ∀ s a t, holds s → step s a = some t → holds t)
    (each : ∀ s a t, holds s → step s a = some t → related s a t) : Every step related s actions := by
  induction actions generalizing s with
  | nil => trivial
  | cons a rest ih =>
    simp only [Every]
    cases next : step s a with
    | none => trivial
    | some t => exact ⟨each s a t first next,ih (kept s a t first next)⟩

-- Two relations that agree on every transition of an invariant agree on runs.
theorem every_congr_along (holds : σ → Prop) {allowed left right : σ → α → σ → Prop} (first : holds s)
    (kept : ∀ s a t, holds s → step s a = some t → allowed s a t → right s a t → holds t)
    (agree : ∀ s a t, holds s → step s a = some t → allowed s a t → (left s a t ↔ right s a t))
    (met : Every step allowed s actions) : Every step left s actions ↔ Every step right s actions := by
  induction actions generalizing s with
  | nil => exact Iff.rfl
  | cons a rest ih =>
    simp only [Every] at met ⊢
    cases next : step s a with
    | none => exact Iff.rfl
    | some t =>
      rw [next] at met
      have same := agree s a t first next met.1
      constructor
      · intro both
        have now := same.mp both.1
        exact ⟨now,(ih (kept s a t first next met.1 now) met.2).mp both.2⟩
      · intro both
        exact ⟨same.mpr both.1,(ih (kept s a t first next met.1 both.1) met.2).mpr both.2⟩

theorem every_congr_while (holds : σ → Prop) {left right : σ → α → σ → Prop} (first : holds s)
    (kept : ∀ s a t, holds s → step s a = some t → right s a t → holds t)
    (agree : ∀ s a t, holds s → step s a = some t → (left s a t ↔ right s a t)) :
    Every step left s actions ↔ Every step right s actions :=
  every_congr_along holds first (fun s a t met next _ => kept s a t met next) (fun s a t met next _ => agree s a t met next)
    (every_of_invariant (fun _ => True) trivial (fun _ _ _ _ _ => trivial) fun _ _ _ _ _ => trivial)

theorem every_congr (holds : σ → Prop) {left right : σ → α → σ → Prop} (first : holds s)
    (kept : ∀ s a t, holds s → step s a = some t → holds t)
    (agree : ∀ s a t, holds s → step s a = some t → (left s a t ↔ right s a t)) :
    Every step left s actions ↔ Every step right s actions :=
  every_congr_while holds first (fun s a t met next _ => kept s a t met next) agree

theorem always_of_every {holds : σ → Prop} {guard : σ → α → σ → Prop} (first : holds s)
    (kept : ∀ s a t, holds s → step s a = some t → guard s a t → holds t)
    (met : Every step guard s actions) : Always step holds s actions := by
  induction actions generalizing s with
  | nil => exact first
  | cons a rest ih =>
    refine ⟨first,?_⟩
    simp only [Every] at met
    cases next : step s a with
    | none => trivial
    | some t =>
      rw [next] at met
      exact ih (kept s a t first next met.1) met.2

theorem every_of_every (holds : σ → Prop) {guard related : σ → α → σ → Prop} (first : holds s)
    (kept : ∀ s a t, holds s → step s a = some t → guard s a t → holds t)
    (each : ∀ s a t, holds s → step s a = some t → guard s a t → related s a t)
    (met : Every step guard s actions) : Every step related s actions := by
  induction actions generalizing s with
  | nil => trivial
  | cons a rest ih =>
    simp only [Every] at met ⊢
    cases next : step s a with
    | none => trivial
    | some t =>
      rw [next] at met
      exact ⟨each s a t first next met.1,ih (kept s a t first next met.1) met.2⟩

theorem every_and {left right : σ → α → σ → Prop} (one : Every step left s actions) (other : Every step right s actions) :
    Every step (fun s a t => left s a t ∧ right s a t) s actions := by
  induction actions generalizing s with
  | nil => trivial
  | cons a rest ih =>
    simp only [Every] at one other ⊢
    cases next : step s a with
    | none => trivial
    | some t =>
      rw [next] at one other
      exact ⟨⟨one.1,other.1⟩,ih one.2 other.2⟩

theorem answered_of_outstanding (holds : σ → Prop) {outstanding : σ → Prop} {fulfils : σ → α → σ → Prop} (first : holds s)
    (kept : ∀ s a t, holds s → step s a = some t → holds t) (promised : outstanding s)
    (carried : ∀ s a t, holds s → outstanding s → step s a = some t → fulfils s a t ∨ outstanding t) :
    Answered step fulfils outstanding s actions := by
  induction actions generalizing s with
  | nil => exact promised
  | cons a rest ih =>
    simp only [Answered]
    cases next : step s a with
    | none => exact promised
    | some t =>
      rcases carried s a t first promised next with now | later
      · exact .inl now
      · exact .inr (ih (kept s a t first next) later)

theorem answered_of_every (holds : σ → Prop) {guard : σ → α → σ → Prop} {outstanding : σ → Prop}
    {fulfils : σ → α → σ → Prop} (first : holds s)
    (kept : ∀ s a t, holds s → step s a = some t → guard s a t → holds t) (promised : outstanding s)
    (carried : ∀ s a t, holds s → outstanding s → step s a = some t → guard s a t → fulfils s a t ∨ outstanding t)
    (met : Every step guard s actions) : Answered step fulfils outstanding s actions := by
  induction actions generalizing s with
  | nil => exact promised
  | cons a rest ih =>
    simp only [Every] at met
    simp only [Answered]
    cases next : step s a with
    | none => exact promised
    | some t =>
      rw [next] at met
      rcases carried s a t first promised next met.1 with now | later
      · exact .inl now
      · exact .inr (ih (kept s a t first next met.1) later met.2)

theorem throughout_of_every (holds : σ → Prop) {guard : σ → α → σ → Prop} {related : σ → α → σ → List α → Prop}
    (first : holds s) (kept : ∀ s a t, holds s → step s a = some t → guard s a t → holds t)
    (each : ∀ s a t rest, holds s → step s a = some t → guard s a t → Every step guard t rest → related s a t rest)
    (met : Every step guard s actions) : Throughout step related s actions := by
  induction actions generalizing s with
  | nil => trivial
  | cons a rest ih =>
    simp only [Every] at met
    simp only [Throughout]
    cases next : step s a with
    | none => trivial
    | some t =>
      rw [next] at met
      exact ⟨each s a t rest first next met.1 met.2,ih (kept s a t first next met.1) met.2⟩

theorem throughout_of_invariant (holds : σ → Prop) {related : σ → α → σ → List α → Prop} (first : holds s)
    (kept : ∀ s a t, holds s → step s a = some t → holds t)
    (each : ∀ s a t rest, holds s → step s a = some t → related s a t rest) :
    Throughout step related s actions := by
  induction actions generalizing s with
  | nil => trivial
  | cons a rest ih =>
    simp only [Throughout]
    cases next : step s a with
    | none => trivial
    | some t => exact ⟨each s a t rest first next,ih (kept s a t first next)⟩

end Machine

-- The total machine: every action is accepted.
section Total
variable {σ : Type u} {α : Type v}

def total (apply : σ → α → σ) : σ → α → Option σ := fun s a => some (apply s a)

theorem run_total (apply : σ → α → σ) (s : σ) (actions : List α) :
    run (total apply) s actions = some (actions.foldl apply s) := by
  induction actions generalizing s with
  | nil => rfl
  | cons a rest ih => simpa [run,total] using ih (apply s a)

-- What an observer is shown follows from the part of the inputs that concerns it.
theorem observed_replay {τ : Type w} {apply : σ → α → σ} {observe : σ → τ} {own : α → Option β} {replay : τ → β → τ}
    {holds : σ → Prop} {guard : σ → α → Prop} (kept : ∀ s a, holds s → holds (apply s a))
    (each : ∀ s a, holds s → guard s a →
      observe (apply s a) = match own a with
        | none => observe s
        | some b => replay (observe s) b)
    (first : holds s) (met : Every (total apply) (fun s a _ => guard s a) s actions) :
    observe (actions.foldl apply s) = (actions.filterMap own).foldl replay (observe s) := by
  induction actions generalizing s with
  | nil => rfl
  | cons a rest ih =>
    obtain ⟨here,later⟩ := met
    rw [List.foldl_cons,ih (kept s a first) later,each s a first here,List.filterMap_cons]
    cases own a <;> rfl

end Total

-- A machine whose steps report what they did.
section Reporting
variable {σ : Type u} {α : Type v} {ω : Type w} {τ : Type x}

def silent (advance : σ → α → Option (List ω × σ)) : σ → α → Option σ := fun s a => (advance s a).map Prod.snd

def trace (advance : σ → α → Option (List ω × σ)) : σ → List α → List ω
  | _, [] => []
  | s, a :: rest => match advance s a with
    | none => []
    | some (report,t) => report ++ trace advance t rest

theorem run_trace {advance : σ → α → Option (List ω × σ)} (apply : τ → ω → τ) (observe : σ → τ)
    (replays : ∀ s a report t, advance s a = some (report,t) → observe t = report.foldl apply (observe s))
    (path : run (silent advance) s actions = some t) :
    observe t = (trace advance s actions).foldl apply (observe s) := by
  induction actions generalizing s with
  | nil => cases path; rfl
  | cons a rest ih =>
    cases next : advance s a with
    | none => simp [run,silent,next] at path
    | some moved =>
      obtain ⟨report,u⟩ := moved
      have later : run (silent advance) u rest = some t := by simpa [run,silent,next] using path
      simp only [trace,next,List.foldl_append]
      rw [ih later,replays s a report u next]

end Reporting
end LoomClient.Lib
