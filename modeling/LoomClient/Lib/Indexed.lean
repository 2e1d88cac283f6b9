import LoomClient.Lib.Fold
import LoomClient.Lib.Slots
import Mathlib.Data.List.Nodup

namespace LoomClient.Lib

-- Copies with one identity are of one object, and a change of an object reaches every copy.
structure Indexing (κ ι ν : Type) where
  ident : ν → Nat
  key : ν → κ
  place : κ → ν → ι

structure Indexed (κ ι ν : Type) where
  entries : Dict κ ν
  index : Dict ι ν
  next : Nat

structure Catalogue {κ ι ν : Type} (n : Indexing κ ι ν) (ρ : Type) where
  key : ρ → κ
  place : ρ → ι
  update : ρ → ν → ν
  build : Nat → ρ → ν
  ident_update : ∀ r v, n.ident (update r v) = n.ident v
  key_update : ∀ r v, n.key v = key r → n.key (update r v) = key r
  place_update : ∀ r v, n.place (key r) (update r v) = place r
  ident_build : ∀ i r, n.ident (build i r) = i
  key_build : ∀ i r, n.key (build i r) = key r
  place_build : ∀ i r, n.place (key r) (build i r) = place r

-- The last record of a list that reads as wanted.
def lastWith {ρ κ : Type} [DecidableEq κ] (read : ρ → κ) (k : κ) (records : List ρ) : Option ρ :=
  records.reverse.find? fun r => decide (read r = k)

section LastWith
variable {ρ κ : Type} [DecidableEq κ] {read : ρ → κ} {k : κ} {records : List ρ}

theorem lastWith_mem (found : lastWith read k records = some r) : r ∈ records ∧ read r = k := by
  refine ⟨List.mem_reverse.mp (List.mem_of_find?_eq_some found),?_⟩
  simpa using List.find?_some found

theorem lastWith_none : lastWith read k records = none ↔ ∀ r ∈ records, read r ≠ k := by
  simp [lastWith]

theorem lastWith_some (read : ρ → κ) (member : r ∈ records) (same : read r = k) : ∃ last, lastWith read k records = some last := by
  rw [←Option.ne_none_iff_exists',ne_eq,lastWith_none]
  exact fun absent => absent r member same

-- Where no two records read alike, the last one is the only one.
theorem lastWith_only (distinct : (records.map read).Nodup) (member : r ∈ records) :
    lastWith read (read r) records = some r := by
  obtain ⟨last,found⟩ := lastWith_some read member rfl
  obtain ⟨inside,same⟩ := lastWith_mem found
  rw [found,List.inj_on_of_nodup_map distinct inside member same]

theorem lastWith_map {τ : Type} (write : ρ → τ) :
    (lastWith read k records).map write =
      records.reverse.findSome? fun r => if read r = k then some (write r) else none := by
  unfold lastWith
  induction records.reverse with
  | nil => rfl
  | cons r rest ih => by_cases same : read r = k <;> simp [same,ih]

end LastWith

namespace Indexed
variable {κ ι ν ρ : Type} [DecidableEq κ] [DecidableEq ι] (n : Indexing κ ι ν) (c : Catalogue n ρ)

def revise (x : Indexed κ ι ν) (k : κ) (f : ν → ν) : Indexed κ ι ν :=
  match x.entries.get? k with
  | none => x
  | some v => {x with
      entries := x.entries.modify k f
      index := x.index.mapWithKey fun _ w => if n.ident w = n.ident v then f w else w}

def withdraw (x : Indexed κ ι ν) (k : κ) : Indexed κ ι ν :=
  match x.entries.get? k with
  | none => x
  | some v => {x with entries := x.entries.erase k,index := x.index.erase (n.place k v)}

variable {n}

def attach (x : Indexed κ ι ν) (r : ρ) : Indexed κ ι ν :=
  match x.entries.get? (c.key r) with
  | none => ⟨x.entries.set (c.key r) (c.build x.next r),x.index.set (c.place r) (c.build x.next r),x.next + 1⟩
  | some v =>
    let y := revise n x (c.key r) (c.update r)
    {y with index := y.index.set (c.place r) (c.update r v)}

def reload (x : Indexed κ ι ν) (stale : List κ) (records : List ρ) : Indexed κ ι ν :=
  records.foldl (attach c) (stale.foldl (withdraw n) x)

variable (n)

structure Sound (x : Indexed κ ι ν) : Prop where
  keyed : ∀ k v, x.entries.get? k = some v → n.key v = k
  numbered : ∀ k v, x.entries.get? k = some v → n.ident v < x.next
  apart : ∀ k k' v v', x.entries.get? k = some v → x.entries.get? k' = some v' → n.ident v = n.ident v' → k = k'

-- Every entry of the index is a copy of an object that is there.
def Live (x : Indexed κ ι ν) : Prop := ∀ i v, x.index.get? i = some v → x.entries.get? (n.key v) = some v

-- The index finds an object at a place exactly when one stands there.
structure InStep (x : Indexed κ ι ν) : Prop where
  standing : ∀ i v, x.index.get? i = some v → ∃ k, x.entries.get? k = some v ∧ n.place k v = i
  found : ∀ k v, x.entries.get? k = some v → n.place k v ∈ x.index

variable {n} {x : Indexed κ ι ν}

omit [DecidableEq ι] in
theorem Sound.of_entries {y : Indexed κ ι ν} (sound : Sound n x) (same : y.entries = x.entries) (later : x.next ≤ y.next) :
    Sound n y := by
  refine ⟨?_,?_,?_⟩ <;> rw [same]
  · exact sound.keyed
  · exact fun k v found => Nat.lt_of_lt_of_le (sound.numbered k v found) later
  · exact sound.apart

theorem InStep.live (inStep : InStep n x) (sound : Sound n x) : Live n x := by
  intro i v held
  obtain ⟨k,entry,_⟩ := inStep.standing i v held
  rwa [sound.keyed k v entry]

section Revise
variable {f : ν → ν} {k : κ}

omit [DecidableEq ι] in
theorem revise_entries (k' : κ) : (revise n x k f).entries.get? k' =
    if k' = k then (x.entries.get? k').map f else x.entries.get? k' := by
  unfold revise
  split
  · rename_i absent
    split
    · rename_i same
      rw [same,absent]
      rfl
    · rfl
  · exact Dict.get?_modify _ _ _ _

omit [DecidableEq ι] in
theorem revise_sound (ident : ∀ v, n.ident (f v) = n.ident v) (key : ∀ v, n.key v = k → n.key (f v) = k)
    (sound : Sound n x) : Sound n (revise n x k f) := by
  have next : (revise n x k f).next = x.next := by
    unfold revise
    split <;> rfl
  have before : ∀ k' v, (revise n x k f).entries.get? k' = some v →
      ∃ w, x.entries.get? k' = some w ∧ n.ident v = n.ident w ∧ n.key v = k' := by
    intro k' v found
    rw [revise_entries] at found
    split at found
    · rename_i same
      obtain ⟨w,stored,rfl⟩ := Option.map_eq_some_iff.mp found
      subst same
      exact ⟨w,stored,ident w,key w (sound.keyed k' w stored)⟩
    · exact ⟨v,found,rfl,sound.keyed k' v found⟩
  refine ⟨?_,?_,?_⟩
  · intro k' v found
    exact (before k' v found).choose_spec.2.2
  · intro k' v found
    obtain ⟨w,stored,same,_⟩ := before k' v found
    rw [next,same]
    exact sound.numbered k' w stored
  · intro k₁ k₂ v₁ v₂ found₁ found₂ alike
    obtain ⟨w₁,stored₁,same₁,_⟩ := before k₁ v₁ found₁
    obtain ⟨w₂,stored₂,same₂,_⟩ := before k₂ v₂ found₂
    exact sound.apart k₁ k₂ w₁ w₂ stored₁ stored₂ (same₁.symm.trans (alike.trans same₂))

theorem revise_index (sound : Sound n x) (live : Live n x) (i : ι) :
    (revise n x k f).index.get? i = (x.index.get? i).map fun w => if n.key w = k then f w else w := by
  unfold revise
  cases stored : x.entries.get? k with
  | none =>
    cases held : x.index.get? i with
    | none => rfl
    | some w =>
      have entry := live i w held
      have other : n.key w ≠ k := by
        intro same
        rw [same,stored] at entry
        cases entry
      simp [other]
  | some v =>
    simp only [Dict.get?_mapWithKey]
    cases held : x.index.get? i with
    | none => rfl
    | some w =>
      have entry := live i w held
      by_cases same : n.key w = k
      · rw [same,stored] at entry
        obtain rfl := Option.some.inj entry
        simp [same]
      · have different : n.ident w ≠ n.ident v := fun alike => same (sound.apart _ _ w v entry stored alike)
        simp [same,different]

theorem revise_live (key : ∀ v, n.key v = k → n.key (f v) = k) (sound : Sound n x) (live : Live n x) :
    Live n (revise n x k f) := by
  intro i v held
  rw [revise_index sound live] at held
  obtain ⟨w,stored,rfl⟩ := Option.map_eq_some_iff.mp held
  have entry := live i w stored
  split
  · rename_i same
    rw [key w same,revise_entries,if_pos rfl,←same,entry]
    rfl
  · rename_i other
    rw [revise_entries,if_neg other]
    exact entry

omit [DecidableEq ι] in
theorem revise_stands (place : ∀ v, n.place k (f v) = n.place k v)
    (found : (revise n x k f).entries.get? k' = some v) :
    ∃ w, x.entries.get? k' = some w ∧ n.place k' v = n.place k' w := by
  rw [revise_entries] at found
  split at found
  · rename_i same
    obtain ⟨w,stored,rfl⟩ := Option.map_eq_some_iff.mp found
    subst same
    exact ⟨w,stored,place w⟩
  · exact ⟨v,found,rfl⟩

theorem revise_in_step (key : ∀ v, n.key v = k → n.key (f v) = k) (place : ∀ v, n.place k (f v) = n.place k v)
    (sound : Sound n x) (inStep : InStep n x) : InStep n (revise n x k f) := by
  have live := inStep.live sound
  refine ⟨?_,?_⟩
  · intro i v held
    have entry := revise_live key sound live i v held
    refine ⟨n.key v,entry,?_⟩
    obtain ⟨w,stored,same⟩ := revise_stands place entry
    rw [revise_index sound live] at held
    obtain ⟨u,before,rfl⟩ := Option.map_eq_some_iff.mp held
    obtain ⟨k',entry',stands⟩ := inStep.standing i u before
    have keyed := sound.keyed k' u entry'
    have kept : n.key (if n.key u = k then f u else u) = n.key u := by
      split
      · rename_i here
        rw [key u here,here]
      · rfl
    rw [kept] at stored same ⊢
    rw [keyed,entry'] at stored
    obtain rfl := Option.some.inj stored
    rw [same,keyed]
    exact stands
  · intro k' v found
    obtain ⟨w,stored,same⟩ := revise_stands place found
    rw [same,Dict.mem_iff_get?,revise_index sound live]
    obtain ⟨u,held⟩ := Dict.mem_iff_get?.mp (inStep.found k' w stored)
    exact ⟨_,by rw [held]; rfl⟩

def Unshared (n : Indexing κ ι ν) (x : Indexed κ ι ν) : Prop :=
  ∀ k k' v v', x.entries.get? k = some v → x.entries.get? k' = some v' → n.place k v = n.place k' v' → k = k'

omit [DecidableEq ι] in
theorem Unshared.of_entries {y : Indexed κ ι ν} (unshared : Unshared n x) (same : y.entries = x.entries) :
    Unshared n y := by
  unfold Unshared
  rw [same]
  exact unshared

omit [DecidableEq ι] in
theorem revise_unshared (place : ∀ v, n.place k (f v) = n.place k v) (unshared : Unshared n x) :
    Unshared n (revise n x k f) := by
  intro k₁ k₂ v₁ v₂ found₁ found₂ same
  obtain ⟨w₁,stored₁,same₁⟩ := revise_stands place found₁
  obtain ⟨w₂,stored₂,same₂⟩ := revise_stands place found₂
  exact unshared k₁ k₂ w₁ w₂ stored₁ stored₂ (same₁.symm.trans (same.trans same₂))

end Revise

section Withdraw

theorem withdraw_entries (k k' : κ) :
    (withdraw n x k).entries.get? k' = if k' = k then none else x.entries.get? k' := by
  unfold withdraw
  split
  · rename_i absent
    split
    · rename_i same
      rw [same,absent]
    · rfl
  · exact Dict.get?_erase _ _ _

theorem withdraw_index (k : κ) (i : ι) (w : ν) : (withdraw n x k).index.get? i = some w ↔
    x.index.get? i = some w ∧ ∀ v, x.entries.get? k = some v → n.place k v ≠ i := by
  unfold withdraw
  split
  · rename_i absent
    simp [absent]
  · rename_i v stored
    simp only [Dict.get?_erase,stored,Option.some.injEq,forall_eq']
    by_cases same : i = n.place k v
    · simp [same]
    · simp [same,Ne.symm same]

theorem withdraw_next (k : κ) : (withdraw n x k).next = x.next := by
  unfold withdraw
  split <;> rfl

theorem withdraw_sound (k : κ) (sound : Sound n x) : Sound n (withdraw n x k) := by
  have before : ∀ k' v, (withdraw n x k).entries.get? k' = some v → x.entries.get? k' = some v := by
    intro k' v found
    rw [withdraw_entries] at found
    split at found
    · cases found
    · exact found
  refine ⟨fun k' v found => sound.keyed k' v (before k' v found),?_,?_⟩
  · intro k' v found
    rw [withdraw_next]
    exact sound.numbered k' v (before k' v found)
  · exact fun k₁ k₂ v₁ v₂ found₁ found₂ => sound.apart k₁ k₂ v₁ v₂ (before k₁ v₁ found₁) (before k₂ v₂ found₂)

theorem withdrawn_entries (keys : List κ) (k : κ) (v : ν) :
    (keys.foldl (withdraw n) x).entries.get? k = some v ↔ x.entries.get? k = some v ∧ k ∉ keys := by
  induction keys generalizing x with
  | nil => simp
  | cons key rest ih =>
    rw [List.foldl_cons,ih,withdraw_entries]
    by_cases same : k = key
    · simp [same]
    · simp [same]

theorem withdrawn_index (keys : List κ) (i : ι) (w : ν) : (keys.foldl (withdraw n) x).index.get? i = some w ↔
    x.index.get? i = some w ∧ ∀ k ∈ keys, ∀ v, x.entries.get? k = some v → n.place k v ≠ i := by
  induction keys generalizing x with
  | nil => simp
  | cons key rest ih =>
    rw [List.foldl_cons,ih,withdraw_index,and_assoc]
    refine and_congr_right fun _ => ?_
    constructor
    · rintro ⟨first,later⟩ k member v found
      by_cases same : k = key
      · exact same ▸ first v (same ▸ found)
      · rcases List.mem_cons.mp member with rfl | inside
        · exact absurd rfl same
        · exact later k inside v (by rw [withdraw_entries,if_neg same]; exact found)
    · intro all
      refine ⟨all key (.head rest),fun k inside v found => ?_⟩
      rw [withdraw_entries] at found
      split at found
      · cases found
      · exact all k (.tail key inside) v found

theorem withdraw_erases (k : κ) : (withdraw n x k).entries = x.entries.erase k := by
  unfold withdraw
  split
  · rename_i absent
    refine (Dict.eraseWhere_none fun k' member => decide_eq_false ?_).symm
    exact fun same => Dict.get?_eq_none.mp absent (same ▸ member)
  · rfl

theorem withdrawn_erases (keys : List κ) :
    (keys.foldl (withdraw n) x).entries = x.entries.eraseWhere fun k => decide (k ∈ keys) := by
  have loop : (keys.foldl (withdraw n) x).entries = keys.foldl Dict.erase x.entries :=
    (List.foldl_hom Indexed.entries fun y k => (withdraw_erases k).symm).symm
  rw [loop,Dict.foldl_erase]

theorem withdrawn_unplaces (keys : List κ) : (keys.foldl (withdraw n) x).index =
    x.index.eraseWhere fun i => keys.any fun k => (x.entries.get? k).any fun v => decide (i = n.place k v) := by
  induction keys generalizing x with
  | nil => exact (Dict.eraseWhere_none fun _ _ => rfl).symm
  | cons key rest ih =>
    have first : (withdraw n x key).index =
        x.index.eraseWhere fun i => (x.entries.get? key).any fun v => decide (i = n.place key v) := by
      unfold withdraw
      split
      · rename_i absent
        exact (Dict.eraseWhere_none fun _ _ => by rw [absent]; rfl).symm
      · rename_i v stored
        rw [stored]
        rfl
    rw [List.foldl_cons,ih,first,Dict.eraseWhere_eraseWhere]
    refine Dict.eraseWhere_congr fun i _ => ?_
    rw [Bool.eq_iff_iff]
    simp only [List.any_cons,Bool.or_eq_true,List.any_eq_true,withdraw_entries]
    refine or_congr_right' fun unplaced => exists_congr fun k => and_congr_right fun _ => ?_
    by_cases same : k = key
    · rw [if_pos same,same]
      simpa using unplaced
    · rw [if_neg same]

theorem withdrawn_sound (keys : List κ) (sound : Sound n x) : Sound n (keys.foldl (withdraw n) x) :=
  List.foldlRecOn keys (withdraw n) sound fun _ held k _ => withdraw_sound k held

theorem withdrawn_in_step_iff (keys : List κ) (inStep : InStep n x) : InStep n (keys.foldl (withdraw n) x) ↔
    ∀ k ∈ keys, ∀ v, x.entries.get? k = some v →
      ∀ k' v', x.entries.get? k' = some v' → n.place k' v' = n.place k v → k' ∈ keys := by
  constructor
  · intro after k member v found k' v' found' same
    by_contra stays
    obtain ⟨w,held⟩ := Dict.mem_iff_get?.mp (after.found k' v' ((withdrawn_entries keys k' v').mpr ⟨found',stays⟩))
    exact ((withdrawn_index keys _ w).mp held).2 k member v found same.symm
  · intro apart
    refine ⟨?_,?_⟩
    · intro i w held
      obtain ⟨before,free⟩ := (withdrawn_index keys i w).mp held
      obtain ⟨k,entry,stands⟩ := inStep.standing i w before
      refine ⟨k,(withdrawn_entries keys k w).mpr ⟨entry,fun gone => ?_⟩,stands⟩
      exact free k gone w entry stands
    · intro k v found
      obtain ⟨entry,stays⟩ := (withdrawn_entries keys k v).mp found
      obtain ⟨w,held⟩ := Dict.mem_iff_get?.mp (inStep.found k v entry)
      refine Dict.mem_iff_get?.mpr ⟨w,(withdrawn_index keys _ w).mpr ⟨held,?_⟩⟩
      intro k' gone v' found' same
      exact stays (apart k' gone v' found' k v entry same.symm)

theorem withdrawn_unshared (keys : List κ) (unshared : Unshared n x) : Unshared n (keys.foldl (withdraw n) x) := by
  intro k k' v v' found found' same
  exact unshared k k' v v' ((withdrawn_entries keys k v).mp found).1 ((withdrawn_entries keys k' v').mp found').1 same

theorem withdrawn_live (keys : List κ) (sound : Sound n x) (inStep : InStep n x) :
    Live n (keys.foldl (withdraw n) x) := by
  intro i w held
  obtain ⟨before,free⟩ := (withdrawn_index keys i w).mp held
  obtain ⟨k,entry,stands⟩ := inStep.standing i w before
  have keyed := sound.keyed k w entry
  refine (withdrawn_entries keys _ w).mpr ⟨keyed.symm ▸ entry,fun gone => ?_⟩
  exact free k (keyed ▸ gone) w entry stands

end Withdraw

section Attach
variable {c : Catalogue n ρ}

theorem attach_entries (r : ρ) (k : κ) : (attach c x r).entries.get? k =
    if k = c.key r then some (match x.entries.get? (c.key r) with
      | none => c.build x.next r
      | some v => c.update r v)
    else x.entries.get? k := by
  unfold attach
  cases stored : x.entries.get? (c.key r) with
  | none => exact Dict.get?_set _ _ _ _
  | some v =>
    refine (revise_entries k).trans ?_
    split
    · rename_i same
      rw [same,stored]
      rfl
    · rfl

theorem attach_sound (r : ρ) (sound : Sound n x) : Sound n (attach c x r) := by
  unfold attach
  cases stored : x.entries.get? (c.key r) with
  | none =>
    have fresh : ∀ k v, x.entries.get? k = some v → n.ident v ≠ x.next :=
      fun k v found => Nat.ne_of_lt (sound.numbered k v found)
    refine ⟨?_,?_,?_⟩
    · intro k v found
      rw [Dict.get?_set] at found
      split at found
      · rename_i same
        cases found
        exact (c.key_build _ r).trans same.symm
      · exact sound.keyed k v found
    · intro k v found
      rw [Dict.get?_set] at found
      split at found
      · cases found
        rw [c.ident_build]
        exact Nat.lt_succ_self _
      · exact Nat.lt_succ_of_lt (sound.numbered k v found)
    · intro k k' v v' found found' alike
      rw [Dict.get?_set] at found found'
      split at found <;> split at found'
      · rename_i same same'
        exact same.trans same'.symm
      · cases found
        rw [c.ident_build] at alike
        exact absurd alike.symm (fresh k' v' found')
      · cases found'
        rw [c.ident_build] at alike
        exact absurd alike (fresh k v found)
      · exact sound.apart k k' v v' found found' alike
  | some v =>
    have revised := revise_sound (c.ident_update r) (fun w => c.key_update r w) sound
    exact ⟨revised.keyed,revised.numbered,revised.apart⟩

theorem attach_live (r : ρ) (sound : Sound n x) (live : Live n x) : Live n (attach c x r) := by
  intro i w held
  rw [attach_entries]
  unfold attach at held
  cases stored : x.entries.get? (c.key r) with
  | none =>
    simp only [stored,Dict.get?_set] at held
    split at held
    · cases held
      rw [c.key_build,if_pos rfl]
    · have entry := live i w held
      have other : n.key w ≠ c.key r := by
        intro same
        rw [same,stored] at entry
        cases entry
      rw [if_neg other]
      exact entry
  | some v =>
    simp only [stored,Dict.get?_set] at held
    split at held
    · cases held
      rw [c.key_update r v (sound.keyed _ v stored),if_pos rfl]
    · have entry := revise_live (fun w => c.key_update r w) sound live i w held
      rw [revise_entries] at entry
      split at entry
      · rename_i same
        rw [same,stored] at entry
        rw [if_pos same]
        exact entry
      · rename_i other
        rw [if_neg other]
        exact entry

theorem attach_place (r : ρ) (k : κ) : ((attach c x r).entries.get? k).map (n.place k) =
    (if c.key r = k then some (c.place r) else none).or ((x.entries.get? k).map (n.place k)) := by
  rw [attach_entries]
  by_cases same : k = c.key r
  · subst same
    rw [if_pos rfl,if_pos rfl]
    cases x.entries.get? (c.key r) with
    | none => exact congrArg some (c.place_build _ r)
    | some v => exact congrArg some (c.place_update r v)
  · rw [if_neg same,if_neg (Ne.symm same)]
    rfl

theorem attach_holder (r : ρ) (sound : Sound n x) (live : Live n x) (i : ι) :
    ((attach c x r).index.get? i).map n.key =
      (if c.place r = i then some (c.key r) else none).or ((x.index.get? i).map n.key) := by
  unfold attach
  cases stored : x.entries.get? (c.key r) with
  | none =>
    simp only [Dict.get?_set]
    by_cases same : i = c.place r
    · rw [if_pos same,if_pos same.symm,Option.map_some,c.key_build]
      rfl
    · rw [if_neg same,if_neg (Ne.symm same)]
      rfl
  | some v =>
    simp only [Dict.get?_set]
    by_cases same : i = c.place r
    · rw [if_pos same,if_pos same.symm,Option.map_some,c.key_update r v (sound.keyed _ v stored)]
      rfl
    · rw [if_neg same,if_neg (Ne.symm same),revise_index sound live]
      cases x.index.get? i with
      | none => rfl
      | some w =>
        by_cases here : n.key w = c.key r
        · simp [here,c.key_update r w here]
        · simp [here]

theorem attached_sound (records : List ρ) (sound : Sound n x) : Sound n (records.foldl (attach c) x) :=
  List.foldlRecOn records (attach c) sound fun _ held r _ => attach_sound r held

theorem attached_live (records : List ρ) (sound : Sound n x) (live : Live n x) :
    Live n (records.foldl (attach c) x) :=
  (List.foldlRecOn (motive := fun y => Sound n y ∧ Live n y) records (attach c) ⟨sound,live⟩
    fun _ held r _ => ⟨attach_sound r held.1,attach_live r held.1 held.2⟩).2

theorem attached_place (records : List ρ) (k : κ) : ((records.foldl (attach c) x).entries.get? k).map (n.place k) =
    ((lastWith c.key k records).map c.place).or ((x.entries.get? k).map (n.place k)) := by
  rw [lastWith_map]
  exact foldl_last (attach c) (fun y => (y.entries.get? k).map (n.place k)) _ (fun _ r => attach_place r k) x records

theorem attached_holder (records : List ρ) (sound : Sound n x) (live : Live n x) (i : ι) :
    ((records.foldl (attach c) x).index.get? i).map n.key =
      ((lastWith c.place i records).map c.key).or ((x.index.get? i).map n.key) := by
  rw [lastWith_map]
  exact foldl_last_of (attach c) (fun y => Sound n y ∧ Live n y) (fun y => (y.index.get? i).map n.key) _ records
    (fun _ r _ held => ⟨attach_sound r held.1,attach_live r held.1 held.2⟩)
    (fun _ r _ held => attach_holder r held.1 held.2 i) x ⟨sound,live⟩

end Attach

-- A catalogue that puts every place it names under the object it names there last.
section Reload
variable {c : Catalogue n ρ} {stale : List κ} {records : List ρ}

def Agrees (c : Catalogue n ρ) (records : List ρ) : Prop :=
  ∀ r ∈ records, ∀ last ∈ lastWith c.place (c.place r) records,
    (lastWith c.key (c.key last) records).map c.place = some (c.place r)

def Covers (c : Catalogue n ρ) (x : Indexed κ ι ν) (stale : List κ) (records : List ρ) : Prop :=
  ∀ k v, x.entries.get? k = some v → k ∈ records.map c.key → n.place k v ∈ records.map c.place ∨
    ∃ k' ∈ stale, ∃ v', x.entries.get? k' = some v' ∧ n.place k' v' = n.place k v

theorem reload_sound (sound : Sound n x) : Sound n (reload c x stale records) :=
  attached_sound records (withdrawn_sound stale sound)

theorem in_step_iff (sound : Sound n x) (live : Live n x) : InStep n x ↔
    (∀ i k, (x.index.get? i).map n.key = some k → (x.entries.get? k).map (n.place k) = some i) ∧
      ∀ k i, (x.entries.get? k).map (n.place k) = some i → (x.index.get? i).map n.key ≠ none := by
  constructor
  · intro inStep
    refine ⟨?_,?_⟩
    · intro i k held
      obtain ⟨v,stored,rfl⟩ := Option.map_eq_some_iff.mp held
      obtain ⟨k',entry,stands⟩ := inStep.standing i v stored
      rw [sound.keyed k' v entry,entry]
      exact congrArg some stands
    · intro k i stands
      obtain ⟨v,entry,rfl⟩ := Option.map_eq_some_iff.mp stands
      exact Dict.read_ne_none.mpr (inStep.found k v entry)
  · rintro ⟨standing,found⟩
    refine ⟨?_,?_⟩
    · intro i v held
      have entry := live i v held
      refine ⟨n.key v,entry,?_⟩
      have stands := standing i (n.key v) (by rw [held]; rfl)
      rw [entry] at stands
      exact Option.some.inj stands
    · intro k v entry
      exact Dict.read_ne_none.mp (found k _ (by rw [entry]; rfl))

theorem reload_in_step_iff (sound : Sound n x) (inStep : InStep n x)
    (scope : ∀ k v k' v', x.entries.get? k = some v → x.entries.get? k' = some v' → n.place k v = n.place k' v' →
      k ∈ stale ∨ k ∈ records.map c.key → k' ∈ stale ∨ k' ∈ records.map c.key) :
    InStep n (reload c x stale records) ↔ Agrees c records ∧ Covers c x stale records := by
  have left := withdrawn_sound stale sound
  have live := withdrawn_live stale sound inStep
  have stand := fun k => attached_place (c := c) (x := stale.foldl (withdraw n) x) records k
  have holder := fun i => attached_holder (c := c) records left live i
  rw [in_step_iff (reload_sound sound) (attached_live records left live)]
  unfold reload
  simp only [stand,holder]
  have placed : ∀ i, lastWith c.place i records = none → i ∉ records.map c.place := by
    intro i absent member
    obtain ⟨r,inside,same⟩ := List.mem_map.mp member
    exact lastWith_none.mp absent r inside same
  have unlisted : ∀ k, lastWith c.key k records = none ↔ k ∉ records.map c.key := by
    intro k
    rw [lastWith_none,List.mem_map,not_exists]
    simp only [not_and]
  constructor
  · rintro ⟨standing,_⟩
    refine ⟨?_,?_⟩
    · intro r member last last_eq
      have stands := standing (c.place r) (c.key last) (by rw [last_eq]; rfl)
      obtain ⟨own,own_eq⟩ := lastWith_some c.key (lastWith_mem last_eq).1 rfl
      rw [own_eq] at stands ⊢
      exact stands
    · intro k v entry member
      by_contra neither
      push Not at neither
      obtain ⟨unplaced,free⟩ := neither
      obtain ⟨w,held⟩ := Dict.mem_iff_get?.mp (inStep.found k v entry)
      obtain ⟨holding,stored,same⟩ := inStep.standing _ w held
      have kept := (withdrawn_index stale (n.place k v) w).mpr ⟨held,free⟩
      have absent : lastWith c.place (n.place k v) records = none :=
        lastWith_none.mpr fun r inside same => unplaced (same ▸ List.mem_map_of_mem inside)
      have stands := standing (n.place k v) holding (by
        rw [absent,kept,Option.map_some,sound.keyed holding w stored]
        rfl)
      have here : holding ∈ records.map c.key :=
        (scope k v holding w entry stored same.symm (.inr member)).resolve_left fun gone => free holding gone w stored same
      obtain ⟨r,inside,keyed⟩ := List.mem_map.mp here
      obtain ⟨own,own_eq⟩ := lastWith_some c.key inside keyed
      rw [own_eq] at stands
      have at_place : c.place own = n.place k v := Option.some.inj stands
      exact unplaced (at_place ▸ List.mem_map_of_mem (lastWith_mem own_eq).1)
  · rintro ⟨agrees,covers⟩
    refine ⟨?_,?_⟩
    · intro i k held
      cases last_eq : lastWith c.place i records with
      | some last =>
        rw [last_eq] at held
        cases held
        obtain ⟨inside,rfl⟩ := lastWith_mem last_eq
        rw [agrees last inside last last_eq]
        rfl
      | none =>
        rw [last_eq] at held
        obtain ⟨w,kept,rfl⟩ := Option.map_eq_some_iff.mp held
        obtain ⟨before,free⟩ := (withdrawn_index stale i w).mp kept
        obtain ⟨k,entry,stands⟩ := inStep.standing i w before
        rw [sound.keyed k w entry]
        have stays : k ∉ stale := fun gone => free k gone w entry stands
        have other : k ∉ records.map c.key := by
          intro member
          rcases covers k w entry member with occupied | ⟨k',gone,v',entry',same⟩
          · exact placed i last_eq (stands ▸ occupied)
          · exact free k' gone v' entry' (same.trans stands)
        rw [(unlisted k).mpr other,(withdrawn_entries stale k w).mpr ⟨entry,stays⟩]
        exact congrArg some stands
    · intro k i stands
      cases own_eq : lastWith c.key k records with
      | some own =>
        rw [own_eq] at stands
        obtain ⟨last,last_eq⟩ := lastWith_some c.place (lastWith_mem own_eq).1 (Option.some.inj stands)
        rw [last_eq]
        exact Option.some_ne_none _
      | none =>
        rw [own_eq] at stands
        obtain ⟨v,entry,rfl⟩ := Option.map_eq_some_iff.mp stands
        obtain ⟨before,stays⟩ := (withdrawn_entries stale k v).mp entry
        obtain ⟨w,held⟩ := Dict.mem_iff_get?.mp (inStep.found k v before)
        have kept := (withdrawn_index stale (n.place k v) w).mpr ⟨held,fun k' gone v' entry' same => by
          rcases scope k' v' k v entry' before same (.inl gone) with gone | member
          · exact stays gone
          · exact (unlisted k).mp own_eq member⟩
        rw [kept]
        cases lastWith c.place (n.place k v) records <;> exact Option.some_ne_none _

theorem agrees_of_distinct (keys : (records.map c.key).Nodup) (places : (records.map c.place).Nodup) :
    Agrees c records := by
  intro r member last last_eq
  rw [lastWith_only places member] at last_eq
  cases last_eq
  rw [lastWith_only keys member]
  rfl

theorem reload_unshared (places : (records.map c.place).Nodup) (unshared : Unshared n x)
    (others : ∀ k v, x.entries.get? k = some v → k ∉ stale → k ∉ records.map c.key → n.place k v ∉ records.map c.place) :
    Unshared n (reload c x stale records) := by
  have stands : ∀ k v, (reload c x stale records).entries.get? k = some v →
      (∃ r ∈ records, c.key r = k ∧ c.place r = n.place k v) ∨
        k ∉ records.map c.key ∧ ∃ w, x.entries.get? k = some w ∧ k ∉ stale ∧ n.place k w = n.place k v := by
    intro k v found
    have stand := attached_place (c := c) (x := stale.foldl (withdraw n) x) records k
    unfold reload at found
    rw [found,Option.map_some] at stand
    cases own_eq : lastWith c.key k records with
    | some own =>
      rw [own_eq] at stand
      exact .inl ⟨own,(lastWith_mem own_eq).1,(lastWith_mem own_eq).2,(Option.some.inj stand).symm⟩
    | none =>
      rw [own_eq] at stand
      obtain ⟨w,kept,same⟩ := Option.map_eq_some_iff.mp (stand.symm.trans rfl : _ = some (n.place k v))
      obtain ⟨before,stays⟩ := (withdrawn_entries stale k w).mp kept
      refine .inr ⟨fun member => ?_,w,before,stays,same⟩
      obtain ⟨r,inside,keyed⟩ := List.mem_map.mp member
      exact lastWith_none.mp own_eq r inside keyed
  intro k k' v v' found found' same
  rcases stands k v found with ⟨r,member,rfl,at_place⟩ | ⟨absent,w,before,stays,at_place⟩ <;>
  rcases stands k' v' found' with ⟨r',member',rfl,at_place'⟩ | ⟨absent',w',before',stays',at_place'⟩
  · have alike := at_place.trans (same.trans at_place'.symm)
    rw [List.inj_on_of_nodup_map places member member' alike]
  · have listed : c.place r ∈ records.map c.place := List.mem_map_of_mem member
    rw [at_place,same,←at_place'] at listed
    exact absurd listed (others k' w' before' stays' absent')
  · have listed : c.place r' ∈ records.map c.place := List.mem_map_of_mem member'
    rw [at_place',←same,←at_place] at listed
    exact absurd listed (others k w before stays absent)
  · exact unshared k k' w w' before before' (at_place.trans (same.trans at_place'.symm))

theorem InStep.exact (inStep : InStep n x) (unshared : Unshared n x) (i : ι) (v : ν) :
    x.index.get? i = some v ↔ ∃ k, x.entries.get? k = some v ∧ n.place k v = i := by
  constructor
  · exact inStep.standing i v
  · rintro ⟨k,entry,rfl⟩
    obtain ⟨w,held⟩ := Dict.mem_iff_get?.mp (inStep.found k v entry)
    obtain ⟨k',entry',same⟩ := inStep.standing _ w held
    obtain rfl := unshared k' k w v entry' entry same
    rw [entry] at entry'
    rw [held,Option.some.inj entry']

theorem in_step_of_exact (held : ∀ i v, x.index.get? i = some v ↔ ∃ k, x.entries.get? k = some v ∧ n.place k v = i) :
    InStep n x where
  standing i v := (held i v).mp
  found k v entry := Dict.mem_of_get? ((held _ v).mpr ⟨k,entry,rfl⟩)

end Reload
end Indexed
end LoomClient.Lib
