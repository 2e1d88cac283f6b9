import Mathlib.Data.List.Basic

namespace LoomClient.Lib

-- A failure is an ordinary exception; a cancellation passes through whoever catches those.
inductive Ending where
  | returned
  | raised
  | cancelled
  deriving DecidableEq, Repr

-- A trigger creates a task and puts it into the slot, unless the task there is still going.
structure TaskSlot (ρ : Type u) where
  tasks : List (Option ρ)
  current : Option Nat

namespace TaskSlot
variable {ρ : Type u}

def empty : TaskSlot ρ := ⟨[],none⟩
def stage (x : TaskSlot ρ) (i : Nat) : Option ρ := (x.tasks[i]?).join
def busy (x : TaskSlot ρ) : Bool := (x.current.bind x.stage).isSome
def spawn (x : TaskSlot ρ) (first : ρ) : TaskSlot ρ := ⟨x.tasks ++ [some first],some x.tasks.length⟩
def move (x : TaskSlot ρ) (i : Nat) (next : Option ρ) : TaskSlot ρ := {x with tasks := x.tasks.set i next}
def clear (x : TaskSlot ρ) : TaskSlot ρ := {x with current := none}

def Going (x : TaskSlot ρ) (i : Nat) : Prop := ∃ r, x.stage i = some r
def AtMostOne (x : TaskSlot ρ) : Prop := ∀ i j, x.Going i → x.Going j → i = j
def Quiet (x : TaskSlot ρ) : Prop := ∀ i, ¬ x.Going i

-- Only the task in the slot is going.
def Single (x : TaskSlot ρ) : Prop := ∀ i, x.Going i → x.current = some i

theorem single_at_most_one {x : TaskSlot ρ} (single : x.Single) : x.AtMostOne := by
  intro i j first second
  exact Option.some.inj ((single i first).symm.trans (single j second))

theorem going_below {x : TaskSlot ρ} (going : x.Going i) : i < x.tasks.length := by
  obtain ⟨r,found⟩ := going
  unfold stage at found
  cases held : x.tasks[i]? with
  | none => simp [held] at found
  | some => exact (List.getElem?_eq_some_iff.mp held).1

theorem forall_stage {x : TaskSlot ρ} {p : ρ → Prop} :
    (∀ i r, x.stage i = some r → p r) ↔ ∀ held ∈ x.tasks, ∀ r ∈ held, p r := by
  constructor
  · intro each held member r found
    obtain ⟨i,below,here⟩ := List.mem_iff_getElem.mp member
    refine each i r ?_
    rw [stage,List.getElem?_eq_getElem below,here,Option.mem_def.mp found]
    rfl
  · intro each i r found
    have here : x.tasks[i]? = some (some r) := Option.join_eq_some_iff.mp found
    exact each _ (List.mem_of_getElem? here) r rfl

theorem quiet_iff {x : TaskSlot ρ} : x.Quiet ↔ ∀ held ∈ x.tasks, ∀ r ∈ held, False := by
  rw [← forall_stage]
  constructor
  · intro quiet i r found
    exact quiet i ⟨r,found⟩
  · intro nothing i going
    obtain ⟨r,found⟩ := going
    exact nothing i r found

instance (x : TaskSlot ρ) : Decidable x.Quiet := decidable_of_iff _ quiet_iff.symm

theorem stage_spawn (x : TaskSlot ρ) (first : ρ) (i : Nat) :
    (x.spawn first).stage i = if i = x.tasks.length then some first else x.stage i := by
  unfold stage spawn
  rcases Nat.lt_trichotomy i x.tasks.length with below | last | above
  · rw [List.getElem?_append_left below,if_neg (Nat.ne_of_lt below)]
  · subst last
    rw [List.getElem?_concat_length,if_pos rfl]
    rfl
  · rw [if_neg (Nat.ne_of_gt above),List.getElem?_eq_none (by simp; omega),List.getElem?_eq_none (by omega)]

theorem stage_move (x : TaskSlot ρ) (i : Nat) (next : Option ρ) (j : Nat) (known : i < x.tasks.length) :
    (x.move i next).stage j = if j = i then next else x.stage j := by
  unfold stage move
  by_cases here : j = i
  · subst here
    rw [List.getElem?_set_self known,if_pos rfl]
    rfl
  · rw [List.getElem?_set_ne (Ne.symm here),if_neg here]

theorem going_move {x : TaskSlot ρ} (known : x.Going i) (going : (x.move i next).Going j) : x.Going j := by
  obtain ⟨r,found⟩ := going
  rw [stage_move x i next j (going_below known)] at found
  by_cases here : j = i
  · exact here ▸ known
  · rw [if_neg here] at found
    exact ⟨r,found⟩

theorem quiet_of_idle {x : TaskSlot ρ} (single : x.Single) (idle : x.busy = false) : x.Quiet := by
  rintro i ⟨r,found⟩
  have slot := single i ⟨r,found⟩
  simp [busy,slot,found] at idle

theorem spawn_single {x : TaskSlot ρ} (single : x.Single) (idle : x.busy = false) (first : ρ) : (x.spawn first).Single := by
  rintro i ⟨r,found⟩
  rw [stage_spawn] at found
  by_cases here : i = x.tasks.length
  · exact congrArg some here.symm
  · rw [if_neg here] at found
    exact absurd ⟨r,found⟩ (quiet_of_idle single idle i)

theorem move_single {x : TaskSlot ρ} (single : x.Single) (known : x.Going i) (next : Option ρ) : (x.move i next).Single :=
  fun j going => single j (going_move known going)

theorem move_at_most_one {x : TaskSlot ρ} (one : x.AtMostOne) (known : x.Going i) (next : Option ρ) :
    (x.move i next).AtMostOne :=
  fun j k first second => one j k (going_move known first) (going_move known second)

end TaskSlot
end LoomClient.Lib
