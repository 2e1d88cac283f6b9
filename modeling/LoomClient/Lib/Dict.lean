import Mathlib.Data.List.Nodup

namespace LoomClient.Lib

-- Insertion order: an assignment to a key that is present replaces the value where it stands.
structure Dict (κ : Type u) (ν : Type v) where
  entries : List (κ × ν)
  distinct : (entries.map Prod.fst).Nodup

namespace Dict
variable {κ : Type u} {ν : Type v} {μ : Type w}

@[ext] theorem ext_entries {a b : Dict κ ν} (equal : a.entries = b.entries) : a = b := by
  cases a; cases b; cases equal; rfl

instance [DecidableEq κ] [DecidableEq ν] : DecidableEq (Dict κ ν) := fun a b =>
  decidable_of_iff (a.entries = b.entries) ⟨ext_entries,fun equal => equal ▸ rfl⟩

def empty : Dict κ ν := ⟨[],List.nodup_nil⟩
def keys (d : Dict κ ν) : List κ := d.entries.map Prod.fst
def values (d : Dict κ ν) : List ν := d.entries.map Prod.snd
def size (d : Dict κ ν) : Nat := d.entries.length

instance : Membership κ (Dict κ ν) := ⟨fun d k => k ∈ d.keys⟩
theorem mem_keys {d : Dict κ ν} : k ∈ d.keys ↔ k ∈ d := Iff.rfl
theorem mem_def {d : Dict κ ν} : k ∈ d ↔ k ∈ d.entries.map Prod.fst := Iff.rfl
instance [DecidableEq κ] (d : Dict κ ν) (k : κ) : Decidable (k ∈ d) := inferInstanceAs (Decidable (k ∈ d.keys))

theorem keys_length (d : Dict κ ν) : d.keys.length = d.size := by simp [keys,size]
@[simp] theorem not_mem_empty (k : κ) : ¬ k ∈ (empty : Dict κ ν) := by simp [mem_def,empty]
@[simp] theorem size_empty : (empty : Dict κ ν).size = 0 := rfl

def mapWithKey (d : Dict κ ν) (f : κ → ν → μ) : Dict κ μ :=
  ⟨d.entries.map fun e => (e.1,f e.1 e.2),by simpa [Function.comp_def] using d.distinct⟩

def eraseWhere (d : Dict κ ν) (p : κ → Bool) : Dict κ ν :=
  ⟨d.entries.filter fun e => !p e.1,
    (List.filter_sublist.map Prod.fst).nodup d.distinct⟩

@[simp] theorem mem_mapWithKey {d : Dict κ ν} {f : κ → ν → μ} : k ∈ d.mapWithKey f ↔ k ∈ d := by
  simp [mem_def,mapWithKey,Function.comp_def]

@[simp] theorem size_mapWithKey (d : Dict κ ν) (f : κ → ν → μ) : (d.mapWithKey f).size = d.size := by
  simp [size,mapWithKey]

@[simp] theorem mem_eraseWhere {d : Dict κ ν} {p : κ → Bool} : k ∈ d.eraseWhere p ↔ k ∈ d ∧ p k = false := by
  simp only [mem_def,eraseWhere,List.mem_map,List.mem_filter]
  constructor
  · rintro ⟨e,⟨member,kept⟩,rfl⟩
    exact ⟨⟨e,member,rfl⟩,by simpa using kept⟩
  · rintro ⟨⟨e,member,rfl⟩,kept⟩
    exact ⟨e,⟨member,by simpa using kept⟩,rfl⟩

theorem size_eraseWhere_le (d : Dict κ ν) (p : κ → Bool) : (d.eraseWhere p).size ≤ d.size :=
  List.length_filter_le _ _

section Keyed
variable [DecidableEq κ]

def get? (d : Dict κ ν) (k : κ) : Option ν := d.entries.lookup k
def getD (d : Dict κ ν) (k : κ) (fallback : ν) : ν := (d.get? k).getD fallback

def modify (d : Dict κ ν) (k : κ) (f : ν → ν) : Dict κ ν :=
  d.mapWithKey fun k' v => if k' = k then f v else v

def erase (d : Dict κ ν) (k : κ) : Dict κ ν := d.eraseWhere fun k' => decide (k' = k)

def set (d : Dict κ ν) (k : κ) (v : ν) : Dict κ ν :=
  if absent : k ∈ d then d.modify k fun _ => v else
    ⟨d.entries ++ [(k,v)],by
      rw [List.map_append,List.nodup_append]
      refine ⟨d.distinct,by simp,?_⟩
      rintro a member b single rfl
      simp only [List.map_cons,List.map_nil,List.mem_singleton] at single
      exact absent (single ▸ member)⟩

-- A dictionary display: later pairs override earlier ones in place.
def ofList (entries : List (κ × ν)) : Dict κ ν := entries.foldl (fun d e => d.set e.1 e.2) empty

theorem lookup_pair (a k : κ) (b : ν) (rest : List (κ × ν)) :
    List.lookup k ((a,b) :: rest) = if k = a then some b else rest.lookup k := by
  rw [List.lookup_cons]
  by_cases equal : k = a
  · simp [equal]
  · simp [equal,beq_eq_false_iff_ne.mpr equal]

theorem get?_eq_none {d : Dict κ ν} : d.get? k = none ↔ k ∉ d := by
  unfold get?
  rw [List.lookup_eq_none_iff,mem_def]
  simp only [List.mem_map,not_exists,not_and]
  constructor
  · intro distinct e member equal
    simpa [equal] using distinct e member
  · intro absent e member
    simpa using fun equal => absent e member equal.symm

theorem mem_iff_get? {d : Dict κ ν} : k ∈ d ↔ ∃ v, d.get? k = some v := by
  rw [←Option.ne_none_iff_exists',ne_eq,get?_eq_none,not_not]

theorem mem_of_get? {d : Dict κ ν} (found : d.get? k = some v) : k ∈ d := mem_iff_get?.mpr ⟨v,found⟩

@[simp] theorem get?_empty (k : κ) : (empty : Dict κ ν).get? k = none := rfl

theorem get?_mapWithKey (d : Dict κ ν) (f : κ → ν → μ) (k : κ) :
    (d.mapWithKey f).get? k = (d.get? k).map (f k) := by
  simp only [get?,mapWithKey]
  induction d.entries with
  | nil => rfl
  | cons e rest ih =>
    obtain ⟨a,b⟩ := e
    by_cases equal : k = a <;> simp [lookup_pair,equal,ih]

theorem get?_modify (d : Dict κ ν) (k : κ) (f : ν → ν) (k' : κ) :
    (d.modify k f).get? k' = if k' = k then (d.get? k').map f else d.get? k' := by
  rw [modify,get?_mapWithKey]
  by_cases equal : k' = k <;> simp [equal]

theorem get?_eraseWhere (d : Dict κ ν) (p : κ → Bool) (k : κ) :
    (d.eraseWhere p).get? k = if p k then none else d.get? k := by
  simp only [get?,eraseWhere]
  induction d.entries with
  | nil => simp
  | cons e rest ih =>
    obtain ⟨a,b⟩ := e
    by_cases gone : p a = true <;> by_cases equal : k = a
    · simpa [gone,equal] using ih
    · simpa [gone,equal,lookup_pair] using ih
    · simp [gone,equal]
    · simpa [gone,equal,lookup_pair] using ih

theorem get?_erase (d : Dict κ ν) (k k' : κ) : (d.erase k).get? k' = if k' = k then none else d.get? k' := by
  simp [erase,get?_eraseWhere]

theorem get?_set (d : Dict κ ν) (k : κ) (v : ν) (k' : κ) :
    (d.set k v).get? k' = if k' = k then some v else d.get? k' := by
  unfold set
  split
  · rename_i present
    obtain ⟨old,found⟩ := mem_iff_get?.mp present
    rw [get?_modify]
    by_cases equal : k' = k
    · subst equal; simp [found]
    · simp [equal]
  · rename_i absent
    have fresh := get?_eq_none.mpr absent
    simp only [get?] at fresh ⊢
    rw [List.lookup_append]
    by_cases equal : k' = k
    · subst equal; simp [fresh]
    · simp [equal,lookup_pair]

theorem get?_set_self (d : Dict κ ν) (k : κ) (v : ν) : (d.set k v).get? k = some v := by simp [get?_set]

@[simp] theorem mem_modify {d : Dict κ ν} {f : ν → ν} : k' ∈ d.modify k f ↔ k' ∈ d := mem_mapWithKey
@[simp] theorem size_modify (d : Dict κ ν) (k : κ) (f : ν → ν) : (d.modify k f).size = d.size := size_mapWithKey _ _

@[simp] theorem mem_erase {d : Dict κ ν} : k' ∈ d.erase k ↔ k' ∈ d ∧ k' ≠ k := by simp [erase]

@[simp] theorem mem_set {d : Dict κ ν} {v : ν} : k' ∈ d.set k v ↔ k' = k ∨ k' ∈ d := by
  rw [mem_iff_get?,mem_iff_get?]
  simp only [get?_set]
  by_cases equal : k' = k <;> simp [equal]

theorem mem_modify_known {d : Dict κ ν} {f : ν → ν} (known : k ∈ d) : k' ∈ d.modify k f ↔ k' = k ∨ k' ∈ d := by
  rw [mem_modify]
  constructor
  · exact Or.inr
  · rintro (rfl | member)
    · exact known
    · exact member

theorem size_set (d : Dict κ ν) (k : κ) (v : ν) :
    (d.set k v).size = if k ∈ d then d.size else d.size + 1 := by
  unfold set
  split
  · simp
  · simp [size]

theorem size_erase_le (d : Dict κ ν) (k : κ) : (d.erase k).size ≤ d.size := size_eraseWhere_le _ _

theorem mem_entries {d : Dict κ ν} : (k,v) ∈ d.entries ↔ d.get? k = some v := by
  obtain ⟨entries,distinct⟩ := d
  simp only [get?]
  induction entries with
  | nil => simp
  | cons e rest ih =>
    obtain ⟨a,b⟩ := e
    simp only [List.map_cons,List.nodup_cons,List.mem_map,not_exists,not_and] at distinct
    by_cases equal : k = a
    · subst equal
      have other : ¬ (k,v) ∈ rest := fun member => distinct.1 _ member rfl
      simp [other,eq_comm]
    · simpa [lookup_pair,equal] using ih distinct.2

theorem mem_values {d : Dict κ ν} : v ∈ d.values ↔ ∃ k, d.get? k = some v := by
  simp only [values,List.mem_map,←mem_entries]
  constructor
  · rintro ⟨⟨k,_⟩,member,rfl⟩
    exact ⟨k,member⟩
  · rintro ⟨k,member⟩
    exact ⟨_,member,rfl⟩

-- These are the facts an idempotence argument rewrites with.
theorem modify_same {d : Dict κ ν} (same : ∀ v, d.get? k = some v → f v = v) : d.modify k f = d := by
  apply ext_entries
  simp only [modify,mapWithKey]
  conv => rhs; rw [←List.map_id d.entries]
  apply List.map_congr_left
  rintro ⟨k',v⟩ member
  by_cases equal : k' = k
  · subst equal; simp [same v (mem_entries.mp member)]
  · simp [equal]

omit [DecidableEq κ] in
theorem eraseWhere_none {d : Dict κ ν} (kept : ∀ k ∈ d, p k = false) : d.eraseWhere p = d := by
  apply ext_entries
  refine List.filter_eq_self.mpr fun e member => ?_
  simp [kept e.1 (List.mem_map_of_mem member)]

theorem mapWithKey_congr {d : Dict κ ν} {f g : κ → ν → μ} (same : ∀ k v, d.get? k = some v → f k v = g k v) :
    d.mapWithKey f = d.mapWithKey g := by
  apply ext_entries
  apply List.map_congr_left
  rintro ⟨k,v⟩ member
  rw [same k v (mem_entries.mp member)]

omit [DecidableEq κ] in
theorem mapWithKey_mapWithKey {ξ : Type x} (d : Dict κ ν) (f : κ → ν → μ) (g : κ → μ → ξ) :
    (d.mapWithKey f).mapWithKey g = d.mapWithKey fun k v => g k (f k v) := by
  apply ext_entries
  simp only [mapWithKey,List.map_map]
  rfl

omit [DecidableEq κ] in
theorem eraseWhere_congr {d : Dict κ ν} (same : ∀ k ∈ d, p k = q k) : d.eraseWhere p = d.eraseWhere q := by
  apply ext_entries
  refine List.filter_congr fun e member => ?_
  rw [same e.1 (List.mem_map_of_mem member)]

omit [DecidableEq κ] in
theorem eraseWhere_eraseWhere (d : Dict κ ν) (p q : κ → Bool) :
    (d.eraseWhere p).eraseWhere q = d.eraseWhere fun k => p k || q k := by
  apply ext_entries
  simp only [eraseWhere,List.filter_filter,Bool.not_or]
  exact List.filter_congr fun e _ => Bool.and_comm _ _

omit [DecidableEq κ] in
theorem foldl_eraseWhere {α : Type w} (p : α → κ → Bool) (items : List α) (d : Dict κ ν) :
    items.foldl (fun d a => d.eraseWhere (p a)) d = d.eraseWhere fun k => items.any (p · k) := by
  induction items generalizing d with
  | nil => exact (eraseWhere_none fun _ _ => rfl).symm
  | cons a rest ih => rw [List.foldl_cons,ih,eraseWhere_eraseWhere]; rfl

theorem foldl_erase (keys : List κ) (d : Dict κ ν) : keys.foldl erase d = d.eraseWhere fun k => decide (k ∈ keys) := by
  refine (foldl_eraseWhere (fun k k' => decide (k' = k)) keys d).trans (eraseWhere_congr fun k _ => ?_)
  rw [Bool.eq_iff_iff]
  simp [List.any_eq_true]

theorem ofList_entries (entries : List (κ × ν)) (distinct : (entries.map Prod.fst).Nodup) :
    (ofList entries).entries = entries := by
  have append : ∀ (rest : List (κ × ν)) (d : Dict κ ν), ((d.entries ++ rest).map Prod.fst).Nodup →
      (rest.foldl (fun d e => d.set e.1 e.2) d).entries = d.entries ++ rest := by
    intro rest
    induction rest with
    | nil => exact fun d _ => (List.append_nil _).symm
    | cons e rest ih =>
      intro d apart
      have fresh : e.1 ∉ d := by
        rw [List.map_append,List.nodup_append] at apart
        exact fun known => apart.2.2 e.1 known e.1 (.head _) rfl
      have appended : (d.set e.1 e.2).entries = d.entries ++ [e] := by
        unfold set
        rw [dif_neg fresh]
      rw [List.foldl_cons,ih (d.set e.1 e.2) (by rw [appended,List.append_assoc]; exact apart),appended,List.append_assoc]
      rfl
  exact append entries empty distinct

theorem keys_set (d : Dict κ ν) (k : κ) (v : ν) : (d.set k v).keys = if k ∈ d then d.keys else d.keys ++ [k] := by
  unfold set
  split
  · simp [keys,modify,mapWithKey,Function.comp_def]
  · simp [keys]

theorem keys_modify (d : Dict κ ν) (k : κ) (f : ν → ν) : (d.modify k f).keys = d.keys := by
  simp [keys,modify,mapWithKey,Function.comp_def]

theorem keys_erase (d : Dict κ ν) (k : κ) : (d.erase k).keys = d.keys.filter fun k' => decide (k' ≠ k) := by
  simp only [keys,erase,eraseWhere,List.filter_map,Function.comp_def,decide_not]

end Keyed

-- The part of a dictionary that a reader is shown.
section Shown
variable (g : κ → ν → Option μ)

def shown (d : Dict κ ν) : Dict κ μ :=
  ⟨d.entries.filterMap fun e => (g e.1 e.2).map fun w => (e.1,w),by
    refine (List.Sublist.nodup ?_ d.distinct : ((d.entries.filterMap _).map Prod.fst).Nodup)
    rw [List.map_filterMap]
    induction d.entries with
    | nil => exact List.Sublist.refl _
    | cons e rest ih =>
      cases seen : g e.1 e.2 with
      | none => simpa [seen] using ih.trans (List.sublist_cons_self _ _)
      | some w => simpa [seen] using ih⟩

variable [DecidableEq κ] {g}

theorem get?_shown (d : Dict κ ν) (k : κ) : (d.shown g).get? k = (d.get? k).bind (g k) := by
  obtain ⟨entries,distinct⟩ := d
  simp only [get?,shown]
  induction entries with
  | nil => rfl
  | cons e rest ih =>
    obtain ⟨a,b⟩ := e
    simp only [List.map_cons,List.nodup_cons] at distinct
    have later := ih distinct.2
    by_cases equal : k = a
    · subst equal
      cases seen : g k b with
      | some w => simp [seen]
      | none =>
        have other : List.lookup k rest = none := by
          rw [List.lookup_eq_none_iff]
          intro e member
          simpa using fun same => distinct.1 (List.mem_map.mpr ⟨e,member,same.symm⟩)
        simpa [seen,lookup_pair,other] using later
    · cases seen : g a b with
      | some w => simpa [seen,lookup_pair,equal] using later
      | none => simpa [seen,lookup_pair,equal] using later

theorem shown_modify {g' : κ → ν → Option μ} {d : Dict κ ν} {f : ν → ν} {h : μ → μ}
    (beside : ∀ k' v, k' ≠ k → g' k' v = g k' v)
    (there : ∀ v, d.get? k = some v → g' k (f v) = (g k v).map h) :
    (d.modify k f).shown g' = (d.shown g).modify k h := by
  apply ext_entries
  simp only [shown,modify,mapWithKey,List.filterMap_map,List.map_filterMap,Function.comp_def]
  refine List.filterMap_congr fun e member => ?_
  obtain ⟨a,b⟩ := e
  by_cases equal : a = k
  · subst equal
    simp [there b (mem_entries.mp member),Option.map_map,Function.comp_def]
  · simp [equal,beside a b equal,Option.map_map,Function.comp_def]

theorem shown_append {g' : κ → ν → Option μ} {d : Dict κ ν} {v : ν}
    (beside : ∀ k' v, k' ≠ k → g' k' v = g k' v) (absent : k ∉ d) :
    (d.set k v).shown g' = match g' k v with
      | none => d.shown g
      | some w => (d.shown g).set k w := by
  have hidden : k ∉ d.shown g := get?_eq_none.mp (by simp [get?_shown,get?_eq_none.mpr absent])
  have same : (d.entries.filterMap fun e => (g' e.1 e.2).map fun w => (e.1,w)) =
      d.entries.filterMap fun e => (g e.1 e.2).map fun w => (e.1,w) := by
    refine List.filterMap_congr fun e member => ?_
    rw [beside e.1 e.2 fun equal => absent (equal ▸ List.mem_map_of_mem member)]
  have extended : ∀ w, ((d.shown g).set k w).entries = (d.shown g).entries ++ [(k,w)] := by simp [set,hidden]
  apply ext_entries
  cases seen : g' k v with
  | none => simp [set,absent,shown,seen,same]
  | some w =>
    change _ = ((d.shown g).set k w).entries
    rw [extended]
    simp [set,absent,shown,seen,same]

omit [DecidableEq κ] in
def traverse (d : Dict κ ν) (f : ν → Option μ) : Option (Dict κ μ) :=
  if d.entries.all fun e => (f e.2).isSome then some (d.shown fun _ v => f v) else none

theorem get?_traverse {d : Dict κ ν} {f : ν → Option μ} (read : d.traverse f = some e) (k : κ) :
    e.get? k = (d.get? k).bind f := by
  unfold traverse at read
  split at read
  · obtain rfl := Option.some.inj read
    exact get?_shown d k
  · cases read

theorem traverse_isSome {d : Dict κ ν} {f : ν → Option μ} (each : ∀ k v, d.get? k = some v → (f v).isSome) :
    ∃ e, d.traverse f = some e := by
  refine ⟨_,if_pos (List.all_eq_true.mpr ?_)⟩
  rintro ⟨k,v⟩ member
  exact each k v (mem_entries.mp member)

omit [DecidableEq κ] in
theorem traverse_mapWithKey {d : Dict κ ν} {f : μ → Option ν} {g : ν → μ} (inverse : ∀ v, f (g v) = some v) :
    (d.mapWithKey fun _ v => g v).traverse f = some d := by
  unfold traverse
  rw [if_pos (by simp [mapWithKey,inverse])]
  refine congrArg some (ext_entries ?_)
  simp [shown,mapWithKey,List.filterMap_map,inverse]

omit [DecidableEq κ] in
theorem values_shown (d : Dict κ ν) : (d.shown g).values = d.entries.filterMap fun e => g e.1 e.2 := by
  simp only [values,shown,List.map_filterMap,Option.map_map,Function.comp_def,Option.map_id']

end Shown
end Dict
end LoomClient.Lib
