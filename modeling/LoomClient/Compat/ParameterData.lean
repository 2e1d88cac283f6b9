import LoomClient.Lib.Ranks
import LoomClient.Wire

namespace LoomClient.Compat
open Lib Wire
variable {V : Type}

-- The translation reads with `get`, so each field may be absent. A value may also be null.
structure UISchemaValueListEntry where
  value : Option (Option Int)
  key : Option String
  deriving DecidableEq, Repr

structure UISchemaParameterOps where
  read : Option Bool
  write : Option Bool
  event : Option Bool
  deriving DecidableEq, Repr

structure UISchemaParameterFlags where
  visible : Option Bool
  internal : Option Bool
  service : Option Bool
  deriving DecidableEq, Repr

structure UISchemaParameter (V : Type) where
  name : Option String
  type : Option String
  min : Option V
  max : Option V
  default : Option V
  unit : Option String
  operations : Option UISchemaParameterOps
  flags : Option UISchemaParameterFlags
  valueList : Option (List UISchemaValueListEntry)
  deriving DecidableEq, Repr

structure UISchema (V : Type) where
  parameters : Option (List (UISchemaParameter V))
  deriving DecidableEq, Repr

structure ParameterData (V : Type) where
  id : String
  type : Option String
  operations : Nat
  flags : Nat
  min : Option V
  max : Option V
  default : Option V
  unit : Option String
  valueList : Option (List String)
  deriving DecidableEq, Repr

inductive TranslationError where
  | keyError (key : String)
  | typeError
  deriving DecidableEq, Repr

def opRead : Nat := 1
def opWrite : Nat := 2
def opEvent : Nat := 4
def flagVisible : Nat := 1
def flagInternal : Nat := 2
def flagService : Nat := 8

def bitIf (set : Option Bool) (mask : Nat) : Nat := if set.getD false then mask else 0

def operationsMask (ops : UISchemaParameterOps) : Nat :=
  bitIf ops.read opRead ||| bitIf ops.write opWrite ||| bitIf ops.event opEvent

def flagsMask (flags : UISchemaParameterFlags) : Nat :=
  bitIf flags.visible flagVisible ||| bitIf flags.internal flagInternal ||| bitIf flags.service flagService

-- An entry without a value has the first one.
def UISchemaValueListEntry.wire (e : UISchemaValueListEntry) : Option Int := e.value.getD (some 0)

def UISchemaValueListEntry.rank (e : UISchemaValueListEntry) : Int := e.wire.getD 0

def UISchemaValueListEntry.readKey (e : UISchemaValueListEntry) : Except TranslationError String := match e.key with
  | some key => .ok key
  | none => .error (.keyError "key")

-- Sorting two entries or more compares each value, and null compares with nothing.
def Sortable (entries : List UISchemaValueListEntry) : Prop := entries.length ≤ 1 ∨ ∀ e ∈ entries, e.wire.isSome

instance (entries : List UISchemaValueListEntry) : Decidable (Sortable entries) := by unfold Sortable; infer_instance

def sortedByValue (entries : List UISchemaValueListEntry) : Except TranslationError (List UISchemaValueListEntry) :=
  if Sortable entries then .ok (byRank UISchemaValueListEntry.rank entries) else .error .typeError

def orderedKeys (entries : List UISchemaValueListEntry) : Except TranslationError (Option (List String)) :=
  if entries = [] then .ok none
  else do
    let sorted ← sortedByValue entries
    (sorted.mapM UISchemaValueListEntry.readKey).map some

namespace UISchemaParameter

def ops (p : UISchemaParameter V) : UISchemaParameterOps := p.operations.getD ⟨none,none,none⟩
def marks (p : UISchemaParameter V) : UISchemaParameterFlags := p.flags.getD ⟨none,none,none⟩
def entries (p : UISchemaParameter V) : List UISchemaValueListEntry := p.valueList.getD []

def data (p : UISchemaParameter V) (name : String) : Except TranslationError (ParameterData V) :=
  (orderedKeys p.entries).map fun valueList => {
    id := name
    type := p.type
    operations := operationsMask p.ops
    flags := flagsMask p.marks
    min := p.min
    max := p.max
    default := p.default
    unit := p.unit
    valueList }

end UISchemaParameter

def translateParameter (result : Dict String (ParameterData V)) (p : UISchemaParameter V) :
    Except TranslationError (Dict String (ParameterData V)) := match truthy p.name with
  | none => .ok result
  | some name => (p.data name).map fun data => result.set name data

def uiSchemaToParameterData (schema : UISchema V) : Except TranslationError (Dict String (ParameterData V)) :=
  (schema.parameters.getD []).foldlM translateParameter .empty

def namesOf (parameters : List (UISchemaParameter V)) : List String := parameters.filterMap fun p => truthy p.name

def decodeOperations (mask : Nat) : Bool × Bool × Bool :=
  (decide (mask &&& opRead ≠ 0),decide (mask &&& opWrite ≠ 0),decide (mask &&& opEvent ≠ 0))

def decodeFlags (mask : Nat) : Bool × Bool × Bool :=
  (decide (mask &&& flagVisible ≠ 0),decide (mask &&& flagInternal ≠ 0),decide (mask &&& flagService ≠ 0))

-- The wire values of a list that are one for each entry.
def DistinctWires (entries : List UISchemaValueListEntry) : Prop :=
  (∀ e ∈ entries, e.wire.isSome) ∧ (entries.map UISchemaValueListEntry.rank).Nodup

instance (entries : List UISchemaValueListEntry) : Decidable (DistinctWires entries) := by unfold DistinctWires; infer_instance

-- Each entry of the value list stands at its wire value.
def Positioned (entries : List UISchemaValueListEntry) (valueList : Option (List String)) : Prop :=
  ∀ e ∈ entries, 0 ≤ e.rank ∧ ∃ keys key, valueList = some keys ∧ e.key = some key ∧ keys[e.rank.toNat]? = some key

-- A description tells what its parameter does, the operations and flags by their bits.
structure Describes (p : UISchemaParameter V) (name : String) (data : ParameterData V) : Prop where
  id : data.id = name
  copied : data.type = p.type ∧ data.min = p.min ∧ data.max = p.max ∧ data.default = p.default ∧ data.unit = p.unit
  operations : decodeOperations data.operations = (p.ops.read.getD false,p.ops.write.getD false,p.ops.event.getD false)
  flags : decodeFlags data.flags = (p.marks.visible.getD false,p.marks.internal.getD false,p.marks.service.getD false)
  positions : DistinctWires p.entries → Positioned p.entries data.valueList

structure FaithfulTranslation (schema : UISchema V) (result : Dict String (ParameterData V)) : Prop where
  names : result.keys = namesOf (schema.parameters.getD [])
  described : ∀ p ∈ schema.parameters.getD [], ∀ name, truthy p.name = some name →
    ∃ data, result.get? name = some data ∧ Describes p name data

-- The list can be read, and wire values that are all different fill 0 to n - 1.
def Listable (entries : List UISchemaValueListEntry) : Prop := Sortable entries ∧ ∀ e ∈ entries, e.key.isSome

def Gapless (entries : List UISchemaValueListEntry) : Prop := ∀ e ∈ entries, 0 ≤ e.rank ∧ e.rank < entries.length

instance (entries : List UISchemaValueListEntry) : Decidable (Listable entries) := by unfold Listable; infer_instance
instance (entries : List UISchemaValueListEntry) : Decidable (Gapless entries) := by unfold Gapless; infer_instance

section Masks

theorem operations_decode (ops : UISchemaParameterOps) :
    decodeOperations (operationsMask ops) = (ops.read.getD false,ops.write.getD false,ops.event.getD false) := by
  unfold operationsMask bitIf
  cases ops.read.getD false <;> cases ops.write.getD false <;> cases ops.event.getD false <;> rfl

theorem flags_decode (flags : UISchemaParameterFlags) :
    decodeFlags (flagsMask flags) = (flags.visible.getD false,flags.internal.getD false,flags.service.getD false) := by
  unfold flagsMask bitIf
  cases flags.visible.getD false <;> cases flags.internal.getD false <;> cases flags.service.getD false <;> rfl

end Masks

section Positions
variable {entries : List UISchemaValueListEntry}

theorem read_keys_iff (keys : List String) :
    entries.mapM UISchemaValueListEntry.readKey = .ok keys ↔ entries.map UISchemaValueListEntry.key = keys.map some := by
  induction entries generalizing keys with
  | nil => cases keys <;> simp [pure,Except.pure]
  | cons e later ih =>
    rw [List.mapM_cons,List.map_cons]
    cases named : e.key with
    | none => cases keys <;> simp [UISchemaValueListEntry.readKey,named,bind,Except.bind]
    | some first =>
      have read : e.readKey = .ok first := by rw [UISchemaValueListEntry.readKey,named]
      cases keys with
      | nil => cases later.mapM UISchemaValueListEntry.readKey <;> simp [read,bind,Except.bind,pure,Except.pure]
      | cons key rest =>
        rw [List.map_cons,List.cons.injEq,← ih rest]
        cases later.mapM UISchemaValueListEntry.readKey <;> simp [read,bind,Except.bind,pure,Except.pure]

theorem ordered_keys_iff (filled : entries ≠ []) (valueList : Option (List String)) :
    orderedKeys entries = .ok valueList ↔ Sortable entries ∧ ∃ keys, valueList = some keys ∧
      (byRank UISchemaValueListEntry.rank entries).map UISchemaValueListEntry.key = keys.map some := by
  rw [orderedKeys,if_neg filled,sortedByValue]
  by_cases sortable : Sortable entries
  · rw [if_pos sortable]
    simp only [bind,Except.bind,sortable,true_and,← read_keys_iff]
    cases (byRank UISchemaValueListEntry.rank entries).mapM UISchemaValueListEntry.readKey with
    | error failure => simp [Except.map]
    | ok keys =>
      simp only [Except.map,Except.ok.injEq]
      exact ⟨fun same => ⟨keys,same.symm,rfl⟩,fun ⟨_,same,read⟩ => by rw [same,read]⟩
  · simp [sortable,bind,Except.bind]

theorem ordered_listable (read : orderedKeys entries = .ok valueList) : Listable entries := by
  by_cases empty : entries = []
  · rw [empty]
    exact ⟨.inl (Nat.zero_le 1),fun e member => nomatch member⟩
  · obtain ⟨sortable,keys,-,named⟩ := (ordered_keys_iff empty valueList).mp read
    refine ⟨sortable,fun e member => ?_⟩
    have among : e.key ∈ (byRank UISchemaValueListEntry.rank entries).map UISchemaValueListEntry.key :=
      List.mem_map_of_mem ((by_rank_perm entries).mem_iff.mpr member)
    rw [named] at among
    obtain ⟨key,-,same⟩ := List.mem_map.mp among
    rw [← same]
    rfl

theorem positioned_gapless (read : orderedKeys entries = .ok valueList) (positioned : Positioned entries valueList) :
    Gapless entries := by
  intro e member
  obtain ⟨low,keys,key,listed,named,found⟩ := positioned e member
  obtain ⟨-,keys',same,sorted⟩ := (ordered_keys_iff (List.ne_nil_of_mem member) valueList).mp read
  obtain rfl : keys = keys' := Option.some.inj (listed.symm.trans same)
  have length := congrArg List.length sorted
  rw [List.length_map,List.length_map,(by_rank_perm entries).length_eq] at length
  obtain ⟨below,-⟩ := List.getElem?_eq_some_iff.mp found
  exact ⟨low,by omega⟩

theorem listable_ordered (listable : Listable entries) : ∃ valueList, orderedKeys entries = .ok valueList := by
  by_cases empty : entries = []
  · rw [orderedKeys,if_pos empty]
    exact ⟨none,rfl⟩
  · refine ⟨_,(ordered_keys_iff empty _).mpr ⟨listable.1,
      (byRank UISchemaValueListEntry.rank entries).map fun e => e.key.getD "",rfl,?_⟩⟩
    rw [List.map_map]
    refine List.map_congr_left fun e among => ?_
    obtain ⟨key,same⟩ := Option.isSome_iff_exists.mp (listable.2 e ((by_rank_perm entries).mem_iff.mp among))
    simp [same]

theorem gapless_positioned (distinct : (entries.map UISchemaValueListEntry.rank).Nodup) (gapless : Gapless entries)
    (read : orderedKeys entries = .ok valueList) : Positioned entries valueList := by
  intro e member
  obtain ⟨-,keys,same,sorted⟩ := (ordered_keys_iff (List.ne_nil_of_mem member) valueList).mp read
  obtain ⟨key,named⟩ := Option.isSome_iff_exists.mp ((ordered_listable read).2 e member)
  have placed := by_rank_get distinct gapless member
  refine ⟨(gapless e member).1,keys,key,same,named,?_⟩
  have at_place := congrArg (fun l : List (Option String) => l[e.rank.toNat]?) sorted
  simp only [List.getElem?_map,placed,Option.map_some,named] at at_place
  obtain ⟨found,there,equal⟩ := Option.map_eq_some_iff.mp at_place.symm
  rw [there,Option.some.inj equal]

end Positions

theorem data_describes_iff (p : UISchemaParameter V) (name : String) :
    (∃ data, p.data name = .ok data ∧ Describes p name data) ↔
      Listable p.entries ∧ (DistinctWires p.entries → Gapless p.entries) := by
  constructor
  · intro ⟨data,read,describes⟩
    unfold UISchemaParameter.data at read
    cases ordered : orderedKeys p.entries with
    | error failure =>
      rw [ordered] at read
      cases read
    | ok valueList =>
      rw [ordered] at read
      cases read
      exact ⟨ordered_listable ordered,fun distinct => positioned_gapless ordered (describes.positions distinct)⟩
  · intro ⟨listable,gapless⟩
    obtain ⟨valueList,ordered⟩ := listable_ordered listable
    rw [UISchemaParameter.data,ordered]
    exact ⟨_,rfl,⟨rfl,⟨rfl,rfl,rfl,rfl,rfl⟩,operations_decode p.ops,flags_decode p.marks,
      fun distinct => gapless_positioned distinct.2 (gapless distinct) ordered⟩⟩

section Loop
variable {p : UISchemaParameter V} {parameters : List (UISchemaParameter V)} {result final : Dict String (ParameterData V)}

theorem names_unnamed (unnamed : truthy p.name = none) : namesOf (p :: parameters) = namesOf parameters :=
  List.filterMap_cons_none unnamed

theorem names_named (named : truthy p.name = some name) : namesOf (p :: parameters) = name :: namesOf parameters :=
  List.filterMap_cons_some named

theorem translate_step (done : (p :: parameters).foldlM translateParameter result = .ok final) :
    (truthy p.name = none ∧ parameters.foldlM translateParameter result = .ok final) ∨
      ∃ name data, truthy p.name = some name ∧ p.data name = .ok data ∧
        parameters.foldlM translateParameter (result.set name data) = .ok final := by
  rw [List.foldlM_cons,translateParameter] at done
  cases named : truthy p.name with
  | none =>
    rw [named] at done
    exact .inl ⟨rfl,done⟩
  | some name =>
    rw [named] at done
    cases read : p.data name with
    | error failure => simp [read,bind,Except.bind,Except.map] at done
    | ok data =>
      simp only [read,Except.map] at done
      exact .inr ⟨name,data,rfl,read,done⟩

theorem translate_keeps (done : parameters.foldlM translateParameter result = .ok final) (other : name ∉ namesOf parameters) :
    final.get? name = result.get? name := by
  induction parameters generalizing result with
  | nil =>
    cases done
    rfl
  | cons p later ih =>
    rcases translate_step done with ⟨unnamed,rest⟩ | ⟨own,data,named,-,rest⟩
    · rw [names_unnamed unnamed] at other
      exact ih rest other
    · rw [names_named named,List.mem_cons,not_or] at other
      rw [ih rest other.2,Dict.get?_set,if_neg other.1]

theorem translate_data (distinct : (namesOf parameters).Nodup)
    (done : parameters.foldlM translateParameter result = .ok final) (member : p ∈ parameters)
    (named : truthy p.name = some name) : ∃ data, p.data name = .ok data ∧ final.get? name = some data := by
  induction parameters generalizing result with
  | nil => cases member
  | cons q later ih =>
    rcases translate_step done with ⟨unnamed,rest⟩ | ⟨own,data,named',read,rest⟩
    · rw [names_unnamed unnamed] at distinct
      rcases List.mem_cons.mp member with rfl | after
      · rw [unnamed] at named
        cases named
      · exact ih distinct rest after
    · rw [names_named named',List.nodup_cons] at distinct
      rcases List.mem_cons.mp member with rfl | after
      · obtain rfl : own = name := Option.some.inj (named'.symm.trans named)
        refine ⟨data,read,?_⟩
        rw [translate_keeps rest distinct.1,Dict.get?_set_self]
      · exact ih distinct.2 rest after

theorem translate_keys (distinct : (namesOf parameters).Nodup) (fresh : ∀ name ∈ namesOf parameters, name ∉ result)
    (done : parameters.foldlM translateParameter result = .ok final) :
    final.keys = result.keys ++ namesOf parameters := by
  induction parameters generalizing result with
  | nil =>
    cases done
    exact (List.append_nil _).symm
  | cons p later ih =>
    rcases translate_step done with ⟨unnamed,rest⟩ | ⟨own,data,named,-,rest⟩
    · rw [names_unnamed unnamed] at distinct fresh ⊢
      exact ih distinct fresh rest
    · rw [names_named named] at distinct fresh ⊢
      rw [List.nodup_cons] at distinct
      have new : own ∉ result := fresh own List.mem_cons_self
      have free : ∀ name ∈ namesOf later, name ∉ result.set own data := by
        intro name among
        rw [Dict.mem_set,not_or]
        exact ⟨fun same => distinct.1 (same ▸ among),fresh name (.tail _ among)⟩
      rw [ih distinct.2 free rest,Dict.keys_set,if_neg new,List.append_assoc,List.singleton_append]

theorem translate_total (each : ∀ p ∈ parameters, ∀ name, truthy p.name = some name → ∃ data, p.data name = .ok data) :
    ∃ final, parameters.foldlM translateParameter result = .ok final := by
  induction parameters generalizing result with
  | nil => exact ⟨result,rfl⟩
  | cons p later ih =>
    have rest := fun q among => each q (.tail p among)
    rw [List.foldlM_cons,translateParameter]
    cases named : truthy p.name with
    | none => exact ih rest
    | some name =>
      obtain ⟨data,read⟩ := each p List.mem_cons_self name named
      simp only [read,Except.map]
      exact ih rest

end Loop

theorem parameter_description_faithful_iff (schema : UISchema V) (distinct : (namesOf (schema.parameters.getD [])).Nodup) :
    (∃ result, uiSchemaToParameterData schema = .ok result ∧ FaithfulTranslation schema result) ↔
      ∀ p ∈ schema.parameters.getD [], (truthy p.name).isSome →
        Listable p.entries ∧ (DistinctWires p.entries → Gapless p.entries) := by
  constructor
  · intro ⟨result,done,faithful⟩ p member isNamed
    obtain ⟨name,named⟩ := Option.isSome_iff_exists.mp isNamed
    obtain ⟨data,read,held⟩ := translate_data distinct done member named
    obtain ⟨data',held',describes⟩ := faithful.described p member name named
    obtain rfl : data = data' := Option.some.inj (held.symm.trans held')
    exact (data_describes_iff p name).mp ⟨data,read,describes⟩
  · intro gapless
    have each : ∀ p ∈ schema.parameters.getD [], ∀ name, truthy p.name = some name →
        ∃ data, p.data name = .ok data ∧ Describes p name data := by
      intro p member name named
      exact (data_describes_iff p name).mpr (gapless p member (by rw [named]; rfl))
    obtain ⟨result,done⟩ : ∃ result, uiSchemaToParameterData schema = .ok result :=
      translate_total fun p member name named => (each p member name named).imp fun data read => read.1
    refine ⟨result,done,?_,?_⟩
    · rw [translate_keys distinct (fun name _ => Dict.not_mem_empty name) done]
      rfl
    · intro p member name named
      obtain ⟨data,read,held⟩ := translate_data distinct done member named
      obtain ⟨data',read',describes⟩ := each p member name named
      obtain rfl : data = data' := Except.ok.inj (read.symm.trans read')
      exact ⟨data,held,describes⟩

def enumParameter (name : String) (valueList : List UISchemaValueListEntry) : UISchemaParameter Int :=
  ⟨some name,some "ENUM",none,none,none,none,some ⟨some true,some true,some true⟩,some ⟨some true,some false,some true⟩,
    some valueList⟩

def wireEntry (value : Int) (key : String) : UISchemaValueListEntry := ⟨some (some value),some key⟩

-- The second list has two entries of one wire value, and asks for no position.
def gaplessSchema : UISchema Int := ⟨some
  [enumParameter "CH_MODE" [wireEntry 2 "AUTO",wireEntry 0 "NORMAL",wireEntry 1 "MANU"],
    enumParameter "STATE" [wireEntry 1 "ON",wireEntry 1 "OPEN"]]⟩

theorem gapless_schema_faithful :
    ∃ result, uiSchemaToParameterData gaplessSchema = .ok result ∧ FaithfulTranslation gaplessSchema result :=
  (parameter_description_faithful_iff gaplessSchema (by decide)).mpr (by decide)

def gapSchema : UISchema Int := ⟨some [enumParameter "CH_MODE" [wireEntry 0 "NORMAL",wireEntry 2 "AUTO"]]⟩

-- The mode with the wire value 2 is served at position 1, and at 2 there is none.
theorem gap_shifts_positions : (namesOf (gapSchema.parameters.getD [])).Nodup ∧
    (∀ p ∈ gapSchema.parameters.getD [], DistinctWires p.entries) ∧
      ¬∃ result, uiSchemaToParameterData gapSchema = .ok result ∧ FaithfulTranslation gapSchema result := by
  refine ⟨by decide,by decide,?_⟩
  intro ⟨result,done,faithful⟩
  obtain ⟨data,held,describes⟩ := faithful.described _ List.mem_cons_self "CH_MODE" (by decide)
  obtain ⟨-,keys,key,listed,-,found⟩ := describes.positions (by decide) (wireEntry 2 "AUTO") (by decide)
  have served : (uiSchemaToParameterData gapSchema).map (fun r => (r.get? "CH_MODE").bind (·.valueList)) =
      .ok (some ["NORMAL","AUTO"]) := by decide
  rw [done] at served
  simp only [Except.map,held,Option.bind_some,listed,Except.ok.injEq,Option.some.injEq] at served
  rw [served] at found
  cases found

end LoomClient.Compat
