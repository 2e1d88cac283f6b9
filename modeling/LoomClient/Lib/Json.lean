import Mathlib.Algebra.Group.Nat.Defs
import Mathlib.Data.List.Basic
import Mathlib.Order.Lattice

namespace LoomClient.Lib

-- A Python string is its code points, lone surrogates among them.
abbrev Text := List Nat

instance : LawfulBEq Text := inferInstanceAs (LawfulBEq (List Nat))

def text (s : String) : Text := s.toList.map Char.toNat

-- What `json.loads` returns. A float is kept as it was written.
inductive Json where
  | null
  | bool (b : Bool)
  | int (n : Int)
  | float (literal : List Char)
  | str (s : Text)
  | arr (items : List Json)
  | obj (entries : List (Text × Json))

namespace Json

-- `d[key] = value`: a key keeps its place and takes the new value.
def setItem (entries : List (Text × Json)) (key : Text) (value : Json) : List (Text × Json) :=
  match entries with
  | [] => [(key,value)]
  | (k,v) :: rest => if k = key then (key,value) :: rest else (k,v) :: setItem rest key value

def get? (frame : List (Text × Json)) (key : String) : Option Json := frame.lookup (text key)

def isText (s : String) : Json → Bool
  | .str written => decide (written = text s)
  | _ => false

-- A bool is an int in Python.
def asInt : Json → Option Int
  | .bool b => some (if b then 1 else 0)
  | .int n => some n
  | _ => none

mutual
def depth : Json → Nat
  | .arr items => itemsDepth items + 1
  | .obj entries => entriesDepth entries + 1
  | _ => 0
def itemsDepth : List Json → Nat
  | [] => 0
  | item :: rest => max (depth item) (itemsDepth rest)
def entriesDepth : List (Text × Json) → Nat
  | [] => 0
  | (_,value) :: rest => max (depth value) (entriesDepth rest)
end

mutual
-- Every integer in the value can be written in so many digits.
def intsWithin (digits : Nat) : Json → Bool
  | .int n => decide (n.natAbs < 10 ^ digits)
  | .arr items => itemsWithin digits items
  | .obj entries => entriesWithin digits entries
  | _ => true
def itemsWithin (digits : Nat) : List Json → Bool
  | [] => true
  | item :: rest => intsWithin digits item && itemsWithin digits rest
def entriesWithin (digits : Nat) : List (Text × Json) → Bool
  | [] => true
  | (_,value) :: rest => intsWithin digits value && entriesWithin digits rest
end

theorem items_depth_le : itemsDepth items ≤ d ↔ ∀ item ∈ items, depth item ≤ d := by
  induction items with
  | nil => simp [itemsDepth]
  | cons item rest ih => simp [itemsDepth,ih]

theorem entries_depth_le : entriesDepth entries ≤ d ↔ ∀ entry ∈ entries, depth entry.2 ≤ d := by
  induction entries with
  | nil => simp [entriesDepth]
  | cons entry rest ih => simp [entriesDepth,ih]

theorem items_within_iff : itemsWithin digits items = true ↔ ∀ item ∈ items, intsWithin digits item = true := by
  induction items with
  | nil => simp [itemsWithin]
  | cons item rest ih => simp [itemsWithin,ih]

theorem entries_within_iff :
    entriesWithin digits entries = true ↔ ∀ entry ∈ entries, intsWithin digits entry.2 = true := by
  induction entries with
  | nil => simp [entriesWithin]
  | cons entry rest ih => simp [entriesWithin,ih]

theorem set_item_mem (found : entry ∈ setItem entries key value) : entry.2 = value ∨ entry ∈ entries := by
  induction entries with
  | nil => exact .inl (by rw [List.mem_singleton.mp found])
  | cons head rest ih =>
    obtain ⟨k,v⟩ := head
    simp only [setItem] at found
    split at found
    · rcases List.mem_cons.mp found with rfl | old
      · exact .inl rfl
      · exact .inr (List.mem_cons_of_mem _ old)
    · rcases List.mem_cons.mp found with rfl | old
      · exact .inr List.mem_cons_self
      · exact (ih old).imp_right (List.mem_cons_of_mem _)

theorem get_mem (found : get? frame key = some value) : (text key,value) ∈ frame := by
  obtain ⟨before,after,rfl,-⟩ := List.lookup_eq_some_iff.mp found
  simp

theorem get_depth (found : get? frame key = some value) : depth value ≤ entriesDepth frame :=
  entries_depth_le.mp (Nat.le_refl _) _ (get_mem found)

end Json
end LoomClient.Lib
