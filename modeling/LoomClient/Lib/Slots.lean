import LoomClient.Lib.Dict
import LoomClient.Lib.Transition

namespace LoomClient.Lib

-- A table that grows only gains entries; in one that stays, no entry is exchanged for another.
section Slots
variable {κ : Type u} {ι : Type v}

def Grows (before after : κ → Option ι) : Prop := ∀ k i, before k = some i → after k = some i
def Stays (before after : κ → Option ι) : Prop := ∀ k i j, before k = some i → after k = some j → j = i

variable {before between after : κ → Option ι}

theorem grows_refl (slot : κ → Option ι) : Grows slot slot := fun _ _ found => found

theorem grows_of_same (same : after = before) : Grows before after := by
  rw [same]
  exact grows_refl before

theorem grows_trans (first : Grows before between) (second : Grows between after) : Grows before after :=
  fun k i found => second k i (first k i found)

theorem stays_of_added (added : Grows before between) (deleted : Grows after between) : Stays before after := by
  intro k i j old new
  have kept := added k i old
  rw [deleted k j new] at kept
  exact Option.some.inj kept

theorem stays_of_deleted (deleted : Grows between before) (added : Grows between after)
    (apart : ∀ k, before k ≠ none → after k ≠ none → between k ≠ none) : Stays before after := by
  intro k i j old new
  obtain ⟨m,found⟩ := Option.ne_none_iff_exists'.mp (apart k (by simp [old]) (by simp [new]))
  have first := deleted k m found
  have second := added k m found
  rw [old] at first
  rw [new] at second
  exact (Option.some.inj second).trans (Option.some.inj first).symm

theorem stays_of_grows (added : Grows before after) : Stays before after := stays_of_added added (grows_refl after)

theorem stays_of_shrinks (deleted : Grows after before) : Stays before after := stays_of_added (grows_refl before) deleted

theorem foldl_slots_grow {σ : Type w} {α : Type x} (slot : σ → κ → Option ι) (f : σ → α → σ)
    (each : ∀ s a, Grows (slot s) (slot (f s a))) (s : σ) (items : List α) :
    Grows (slot s) (slot (items.foldl f s)) := by
  induction items generalizing s with
  | nil => exact grows_refl _
  | cons a rest ih => exact grows_trans (each s a) (ih (f s a))

theorem foldl_slots_shrink {σ : Type w} {α : Type x} (slot : σ → κ → Option ι) (f : σ → α → σ)
    (each : ∀ s a, Grows (slot (f s a)) (slot s)) (s : σ) (items : List α) :
    Grows (slot (items.foldl f s)) (slot s) := by
  induction items generalizing s with
  | nil => exact grows_refl _
  | cons a rest ih => exact grows_trans (ih (f s a)) (each s a)

end Slots

-- A reader that captured an entry finds the same one until the key is dropped.
section Captured
variable {σ : Type u} {α : Type v} {κ : Type w} {ι : Type x}

def Captured (step : σ → α → Option σ) (slot : σ → κ → Option ι) (k : κ) (i : ι) : σ → List α → Prop
  | _,[] => True
  | s,a :: rest => match step s a with
    | none => True
    | some t => match slot t k with
      | none => True
      | some j => j = i ∧ Captured step slot k i t rest

def CapturesStay (step : σ → α → Option σ) (slot : σ → κ → Option ι) (s : σ) (actions : List α) : Prop :=
  Throughout step (fun s a _ rest => ∀ k i, slot s k = some i → Captured step slot k i s (a :: rest)) s actions

variable {step : σ → α → Option σ} {slot : σ → κ → Option ι}

theorem captured_of_stays (found : slot s k = some i) (stays : Every step (fun s _ t => Stays (slot s) (slot t)) s actions) :
    Captured step slot k i s actions := by
  induction actions generalizing s with
  | nil => trivial
  | cons a rest ih =>
    simp only [Every] at stays
    simp only [Captured]
    cases next : step s a with
    | none => trivial
    | some t =>
      rw [next] at stays
      cases there : slot t k with
      | none => simp only [there]
      | some j =>
        obtain rfl := stays.1 k i j found there
        simpa only [there,true_and] using ih there stays.2

theorem captures_stay_iff :
    CapturesStay step slot s actions ↔ Every step (fun s _ t => Stays (slot s) (slot t)) s actions := by
  constructor
  · intro kept
    unfold CapturesStay at kept
    induction actions generalizing s with
    | nil => trivial
    | cons a rest ih =>
      simp only [Throughout] at kept
      simp only [Every]
      cases next : step s a with
      | none => trivial
      | some t =>
        rw [next] at kept
        refine ⟨?_,ih kept.2⟩
        intro k i j old new
        have captured := kept.1 k i old
        simp only [Captured,next,new] at captured
        exact captured.1
  · intro stays
    unfold CapturesStay
    induction actions generalizing s with
    | nil => trivial
    | cons a rest ih =>
      simp only [Throughout]
      cases next : step s a with
      | none => trivial
      | some t =>
        refine ⟨fun k i found => captured_of_stays found stays,ih ?_⟩
        simp only [Every,next] at stays
        exact stays.2

end Captured

namespace Dict
variable {κ : Type u} {ν : Type v} {ι : Type w} [DecidableEq κ] {d : Dict κ ν} {read : ν → ι}

theorem read_modify (same : ∀ v, d.get? k = some v → read (f v) = read v) (k' : κ) :
    ((d.modify k f).get? k').map read = (d.get? k').map read := by
  rw [get?_modify]
  split
  · rename_i equal
    subst equal
    cases found : d.get? k' with
    | none => rfl
    | some v => simp [same v found]
  · rfl

theorem read_set_absent (absent : k ∉ d) (found : (d.get? k').map read = some i) :
    ((d.set k v).get? k').map read = some i := by
  rw [get?_set]
  split
  · rename_i equal
    rw [equal,get?_eq_none.mpr absent] at found
    cases found
  · exact found

theorem read_ne_none : (d.get? k).map read ≠ none ↔ k ∈ d := by
  rw [ne_eq,Option.map_eq_none_iff,get?_eq_none,not_not]

theorem read_eraseWhere (found : ((d.eraseWhere p).get? k).map read = some i) : (d.get? k).map read = some i := by
  rw [get?_eraseWhere] at found
  split at found
  · cases found
  · exact found

def Holds (d : Dict κ ν) (fact : κ → ν → Prop) : Prop := ∀ k v, d.get? k = some v → fact k v

variable {fact : κ → ν → Prop} {k : κ}

theorem holds_set (all : d.Holds fact) (new : fact k v) : (d.set k v).Holds fact := by
  intro k' w found
  rw [get?_set] at found
  split at found
  · rename_i equal
    cases found
    exact equal ▸ new
  · exact all k' w found

theorem holds_modify (all : d.Holds fact) (each : ∀ v, fact k v → fact k (f v)) : (d.modify k f).Holds fact := by
  intro k' w found
  rw [get?_modify] at found
  split at found
  · rename_i equal
    subst equal
    obtain ⟨v,stored,rfl⟩ := Option.map_eq_some_iff.mp found
    exact each v (all k' v stored)
  · exact all k' w found

theorem holds_eraseWhere (all : d.Holds fact) : (d.eraseWhere p).Holds fact := by
  intro k' w found
  rw [get?_eraseWhere] at found
  split at found
  · cases found
  · exact all k' w found

end Dict
end LoomClient.Lib
