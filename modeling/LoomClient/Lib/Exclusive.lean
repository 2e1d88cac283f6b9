import LoomClient.Lib.Race

namespace LoomClient.Lib.Race
variable {σ χ π ρ α κ : Type}

-- Reads under locks: a lock covers its read from the request until its answer is in effect.
structure Locking (σ ρ κ : Type) where
  key : ρ → Option κ
  holds : σ → κ → Prop

-- A read is requested under a lock the step has taken, and no lock is given up but the one of
-- the read that was answered.
structure Locking.Respects (l : Locking σ ρ κ) (m : σ) (o : Outcome σ π ρ) (freed : Option κ) : Prop where
  kept : ∀ k, freed ≠ some k → l.holds m k → l.holds o.mirror k
  taken : ∀ r k, r ∈ o.reads → l.key r = some k → l.holds o.mirror k ∧ (l.holds m k → freed = some k)
  apart : ∀ (i j : Nat) (r r' : ρ) (k : κ), o.reads[i]? = some r → o.reads[j]? = some r' → l.key r = some k →
    l.key r' = some k → i = j

structure Locking.Followed (l : Locking σ ρ κ) (handlers : Handlers σ χ π ρ α) : Prop where
  call : ∀ m c o, handlers.call m c = some o → l.Respects m o none
  push : ∀ m p o, handlers.push m p = some o → l.Respects m o none
  settle : ∀ m n r d a o, l.key r = some k → l.holds m k → handlers.settle m n r d a = some o → l.Respects m o (some k)
  unlocked : ∀ m n r d a o, l.key r = none → handlers.settle m n r d a = some o → l.Respects m o none

def InFlight (l : Locking σ ρ κ) (x : Race σ π ρ) (k : κ) (n : Nat) : Prop :=
  ∃ r d, x.reads.get? n = some (r,d) ∧ l.key r = some k

structure Exclusive (l : Locking σ ρ κ) (x : Race σ π ρ) : Prop where
  numbered : ∀ n ∈ x.reads, n < x.nextRead
  one : ∀ k n m, InFlight l x k n → InFlight l x k m → n = m
  held : ∀ k n, InFlight l x k n → l.holds x.mirror k

-- The answers under a lock come in the order in which their reads were requested.
def InOrder (l : Locking σ ρ κ) (handlers : Handlers σ χ π ρ α) (x : Race σ π ρ) (e : Incident χ π α) (y : Race σ π ρ)
    (rest : List (Incident χ π α)) : Prop :=
  ∀ n asOf a k, e = .answer n asOf a → InFlight l x k n →
    Every (advance handlers) (fun x' e' _ => ∀ m asOf' a', e' = .answer m asOf' a' → InFlight l x' k m → n < m) y rest

section Requests
variable {x : Race σ π ρ}

theorem requested_next (x : Race σ π ρ) (rs : List ρ) : (rs.foldl request x).nextRead = x.nextRead + rs.length := by
  induction rs generalizing x with
  | nil => rfl
  | cons first rest ih =>
    have moved : (x.request first).nextRead = x.nextRead + 1 := rfl
    rw [List.foldl_cons,ih,moved,List.length_cons]
    omega

theorem enter_next (x : Race σ π ρ) (o : Outcome σ π ρ) : x.nextRead ≤ (x.enter o).nextRead := by
  let entered : Race σ π ρ := {x with mirror := o.mirror, applied := x.applied ++ o.applied}
  have counted : (x.enter o).nextRead = x.nextRead + o.reads.length := requested_next entered o.reads
  rw [counted]
  exact Nat.le_add_right _ _

theorem requested_reads (numbered : ∀ n ∈ x.reads, n < x.nextRead) (rs : List ρ) :
    (∀ n ∈ (rs.foldl request x).reads, n < x.nextRead + rs.length) ∧ ∀ n r d, (rs.foldl request x).reads.get? n = some (r,d) →
      x.reads.get? n = some (r,d) ∨ ∃ i, n = x.nextRead + i ∧ rs[i]? = some r := by
  induction rs generalizing x with
  | nil => exact ⟨numbered,fun n r d found => .inl found⟩
  | cons first rest ih =>
    have later : ∀ n ∈ (x.request first).reads, n < (x.request first).nextRead := by
      intro n member
      rcases Dict.mem_set.mp member with newest | older
      · exact newest ▸ Nat.lt_succ_self _
      · exact Nat.lt_succ_of_lt (numbered n older)
    obtain ⟨below,from_either⟩ := ih later
    have moved : (x.request first).nextRead = x.nextRead + 1 := rfl
    refine ⟨?_,?_⟩
    · intro n member
      have under := below n member
      rw [moved] at under
      rw [List.length_cons]
      omega
    · intro n r d found
      rcases from_either n r d found with here | ⟨i,number,listed⟩
      · rw [request,Dict.get?_set] at here
        split at here
        · rename_i newest
          cases here
          exact .inr ⟨0,newest,rfl⟩
        · exact .inl here
      · refine .inr ⟨i + 1,?_,listed⟩
        rw [number,moved]
        omega

end Requests

variable {l : Locking σ ρ κ} {handlers : Handlers σ χ π ρ α} {x y : Race σ π ρ}

theorem fresh_exclusive (mirror : σ) : Exclusive l (.fresh mirror : Race σ π ρ) where
  numbered := fun n member => absurd member (Dict.not_mem_empty n)
  one := by
    rintro k n m ⟨r,d,found,_⟩
    cases found
  held := by
    rintro k n ⟨r,d,found,_⟩
    cases found

theorem enter_in_flight (numbered : ∀ n ∈ x.reads, n < x.nextRead) (o : Outcome σ π ρ) (out : InFlight l (x.enter o) k n) :
    InFlight l x k n ∨ ∃ i r, n = x.nextRead + i ∧ o.reads[i]? = some r ∧ l.key r = some k := by
  obtain ⟨r,d,found,key⟩ := out
  let entered : Race σ π ρ := {x with mirror := o.mirror, applied := x.applied ++ o.applied}
  have numbers : ∀ n ∈ entered.reads, n < entered.nextRead := numbered
  rcases (requested_reads numbers o.reads).2 n r d found with before | ⟨i,number,listed⟩
  · exact .inl ⟨r,d,before,key⟩
  · exact .inr ⟨i,r,number,listed,key⟩

theorem enter_exclusive (exclusive : Exclusive l x) (o : Outcome σ π ρ) (freed : Option κ)
    (respects : l.Respects x.mirror o freed) (gone : ∀ k n, freed = some k → ¬ InFlight l x k n) :
    Exclusive l (x.enter o) := by
  have numbered := exclusive.numbered
  let entered : Race σ π ρ := {x with mirror := o.mirror, applied := x.applied ++ o.applied}
  have numbers : ∀ n ∈ entered.reads, n < entered.nextRead := numbered
  obtain ⟨below,_⟩ := requested_reads numbers o.reads
  have next : (x.enter o).nextRead = x.nextRead + o.reads.length := requested_next entered o.reads
  -- A read requested now and one that was out before are not under one lock.
  have clash : ∀ (k : κ) (n i : Nat) (r : ρ), InFlight l x k n → o.reads[i]? = some r → l.key r = some k → False := by
    intro k n i r out listed key
    obtain ⟨_,free⟩ := respects.taken r k (List.mem_of_getElem? listed) key
    exact gone k n (free (exclusive.held k n out)) out
  refine ⟨?_,?_,?_⟩
  · intro n member
    have under := below n member
    exact next ▸ under
  · intro k n m first second
    rcases enter_in_flight numbered o first with old | ⟨i,r,number,listed,key⟩
    · rcases enter_in_flight numbered o second with old' | ⟨j,r',_,listed',key'⟩
      · exact exclusive.one k n m old old'
      · exact absurd (clash k n j r' old listed' key') not_false
    · rcases enter_in_flight numbered o second with old' | ⟨j,r',number',listed',key'⟩
      · exact absurd (clash k m i r old' listed key) not_false
      · rw [number,number',respects.apart i j r r' k listed listed' key key']
  · intro k n out
    rw [enter_mirror]
    rcases enter_in_flight numbered o out with old | ⟨i,r,_,listed,key⟩
    · exact respects.kept k (fun free => gone k n free old) (exclusive.held k n old)
    · exact (respects.taken r k (List.mem_of_getElem? listed) key).1

theorem erased_exclusive (exclusive : Exclusive l x) (n : Nat) :
    Exclusive l ({x with reads := x.reads.erase n} : Race σ π ρ) ∧
      ∀ k m, InFlight l ({x with reads := x.reads.erase n} : Race σ π ρ) k m → InFlight l x k m ∧ m ≠ n := by
  have still : ∀ k m, InFlight l ({x with reads := x.reads.erase n} : Race σ π ρ) k m → InFlight l x k m ∧ m ≠ n := by
    rintro k m ⟨r,d,found,key⟩
    simp only [Dict.get?_erase] at found
    split at found
    · cases found
    · rename_i other
      exact ⟨⟨r,d,found,key⟩,other⟩
  refine ⟨⟨?_,?_,?_⟩,still⟩
  · intro m member
    exact exclusive.numbered m (Dict.mem_erase.mp member).1
  · intro k m m' first second
    exact exclusive.one k m m' (still k m first).1 (still k m' second).1
  · intro k m out
    exact exclusive.held k m (still k m out).1

theorem advance_exclusive (followed : l.Followed handlers) (exclusive : Exclusive l x) (moved : advance handlers x e = some y) :
    Exclusive l y := by
  cases e with
  | call c =>
    obtain ⟨o,called,rfl⟩ := Option.map_eq_some_iff.mp moved
    exact enter_exclusive exclusive o none (followed.call _ c o called) fun _ _ free => by cases free
  | push p =>
    obtain ⟨o,pushed,rfl⟩ := Option.map_eq_some_iff.mp moved
    exact enter_exclusive exclusive o none (followed.push _ p o pushed) fun _ _ free => by cases free
  | answer n asOf a =>
    simp only [advance] at moved
    split at moved
    · cases moved
    · rename_i r requested found
      obtain ⟨o,settled,rfl⟩ := Option.map_eq_some_iff.mp moved
      obtain ⟨erased,still⟩ := erased_exclusive exclusive n
      cases key : l.key r with
      | none => exact enter_exclusive erased o none (followed.unlocked _ n r _ a o key settled) fun _ _ free => by cases free
      | some k =>
        have out : InFlight l x k n := ⟨r,requested,found,key⟩
        refine enter_exclusive erased o (some k) (followed.settle _ n r _ a o key (exclusive.held k n out) settled) ?_
        intro k' m same again
        cases same
        obtain ⟨before,other⟩ := still k m again
        exact other (exclusive.one k m n before out)

theorem advance_next (moved : advance handlers x e = some y) : x.nextRead ≤ y.nextRead := by
  cases e with
  | call c =>
    obtain ⟨o,_,rfl⟩ := Option.map_eq_some_iff.mp moved
    exact enter_next x o
  | push p =>
    obtain ⟨o,_,rfl⟩ := Option.map_eq_some_iff.mp moved
    exact enter_next x o
  | answer n asOf a =>
    simp only [advance] at moved
    split at moved
    · cases moved
    · obtain ⟨o,_,rfl⟩ := Option.map_eq_some_iff.mp moved
      exact enter_next ({x with reads := x.reads.erase n} : Race σ π ρ) o

theorem advance_in_flight (exclusive : Exclusive l x) (moved : advance handlers x e = some y) (out : InFlight l y k m) :
    (InFlight l x k m ∧ ∀ n asOf a, e = .answer n asOf a → m ≠ n) ∨ x.nextRead ≤ m := by
  cases e with
  | call c =>
    obtain ⟨o,_,rfl⟩ := Option.map_eq_some_iff.mp moved
    rcases enter_in_flight exclusive.numbered o out with old | ⟨i,_,number,_⟩
    · exact .inl ⟨old,fun _ _ _ equal => by cases equal⟩
    · exact .inr (by omega)
  | push p =>
    obtain ⟨o,_,rfl⟩ := Option.map_eq_some_iff.mp moved
    rcases enter_in_flight exclusive.numbered o out with old | ⟨i,_,number,_⟩
    · exact .inl ⟨old,fun _ _ _ equal => by cases equal⟩
    · exact .inr (by omega)
  | answer n asOf a =>
    simp only [advance] at moved
    split at moved
    · cases moved
    · obtain ⟨o,_,rfl⟩ := Option.map_eq_some_iff.mp moved
      obtain ⟨erased,still⟩ := erased_exclusive exclusive n
      rcases enter_in_flight erased.numbered o out with old | ⟨i,_,number,_⟩
      · obtain ⟨before,other⟩ := still k m old
        refine .inl ⟨before,fun n' asOf' a' equal => ?_⟩
        cases equal
        exact other
      · refine .inr ?_
        rw [number]
        exact Nat.le_add_right _ _

-- Once a read is answered, every later answer under its lock is to a newer one.
theorem newer_run (followed : l.Followed handlers) (exclusive : Exclusive l x) (below : n < x.nextRead)
    (newer : ∀ m, InFlight l x k m → n < m) (incidents : List (Incident χ π α)) :
    Every (advance handlers) (fun x' e' _ => ∀ m asOf' a', e' = .answer m asOf' a' → InFlight l x' k m → n < m) x incidents := by
  refine every_of_invariant (fun z => Exclusive l z ∧ n < z.nextRead ∧ ∀ m, InFlight l z k m → n < m)
    ⟨exclusive,below,newer⟩ ?_ fun z e w held _ m _ _ _ out => held.2.2 m out
  intro z e w held moved
  refine ⟨advance_exclusive followed held.1 moved,Nat.lt_of_lt_of_le held.2.1 (advance_next moved),fun m out => ?_⟩
  rcases advance_in_flight held.1 moved out with ⟨before,_⟩ | fresh
  · exact held.2.2 m before
  · exact Nat.lt_of_lt_of_le held.2.1 fresh

theorem exclusive_run (followed : l.Followed handlers) (mirror : σ) (incidents : List (Incident χ π α)) :
    Always (advance handlers) (Exclusive l) (.fresh mirror) incidents ∧
      Throughout (advance handlers) (InOrder l handlers) (.fresh mirror) incidents := by
  refine ⟨always_of_invariant (fresh_exclusive mirror) fun z e w held moved => advance_exclusive followed held moved,
    throughout_of_invariant (Exclusive l) (fresh_exclusive mirror)
      (fun z e w held moved => advance_exclusive followed held moved) ?_⟩
  intro z e w rest held moved n asOf a k equal out
  obtain ⟨r,d,found,key⟩ := out
  have below := held.numbered n (Dict.mem_of_get? found)
  refine newer_run followed (advance_exclusive followed held moved) (Nat.lt_of_lt_of_le below (advance_next moved)) ?_ rest
  intro m again
  rcases advance_in_flight held moved again with ⟨before,other⟩ | fresh
  · exact absurd (held.one k m n before ⟨r,d,found,key⟩) (other n asOf a equal)
  · exact Nat.lt_of_lt_of_le below fresh

end LoomClient.Lib.Race
