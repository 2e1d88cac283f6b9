import LoomClient.Lib.CodePoints
import LoomClient.Lib.Dict
import Mathlib.Data.Finset.Dedup
import Mathlib.Data.Finset.Insert

namespace LoomClient.Client.Discovery
open Lib CodePoints

inductive TxtValue where
  | str (value : Text)
  | bytes (value : ByteArray)
  | none

abbrev Properties := List (Text × TxtValue)

structure DiscoveredDaemon where
  txtvers : Option Int
  path : Option Text
  apiVersion : Option Text
  tls : Option Bool
  instanceName : Option Text
  centrals : Option Int
  ccus : List Text
  deploy : Option Text
  ingress : Option Text
  loginPaths : Finset Text
  deriving DecidableEq

-- `_text`
def textOf (value : TxtValue) : Option Text :=
  (match value with
    | .str value => some value
    | .bytes value => decodeUtf8 value
    | .none => none).filter (· ≠ [])

structure Normalised where
  seen : Finset Text
  out : Dict Text Text

-- The first occurrence of a key decides, also when its value is unreadable.
def normaliseItem (x : SigmaContext) (n : Normalised) (item : Text × TxtValue) : Normalised :=
  let folded := lower x item.1
  if folded ∈ n.seen then n
  else ⟨insert folded n.seen,match textOf item.2 with
    | some value => n.out.set folded value
    | none => n.out⟩

def normalise (x : SigmaContext) (properties : Properties) : Dict Text Text :=
  (properties.foldl (normaliseItem x) ⟨∅,.empty⟩).out

-- `_decimal`, `_flag` and `_items`
def decimal (value : Option Text) : Except Text.ValueError (Option Int) := match value with
  | none => .ok none
  | some value => if !isAscii value || !isDigit value then .ok none else (int value).map some

def flag (value : Option Text) : Option Bool :=
  if value = some (text "1") then some true else if value = some (text "0") then some false else none

def comma : Nat := 44

def items (value : Option Text) : List Text := match value with
  | none => []
  | some value => ((split comma value).map strip).filter (· ≠ [])

def daemonOf (values : String → Option Text) : Except Text.ValueError DiscoveredDaemon :=
  (decimal (values "txtvers")).bind fun txtvers => (decimal (values "centrals")).map fun centrals => {
    txtvers
    path := values "path"
    apiVersion := values "api_version"
    tls := flag (values "tls")
    instanceName := values "instance"
    centrals
    ccus := items (values "ccus")
    deploy := values "deploy"
    ingress := values "ingress"
    loginPaths := (items (values "auth")).toFinset }

def parseTxtRecord (x : SigmaContext) (properties : Properties) : Except Text.ValueError DiscoveredDaemon :=
  daemonOf fun key => (normalise x properties).get? (text key)

def txtKeys : List String :=
  ["txtvers","path","api_version","tls","instance","centrals","ccus","deploy","ingress","auth"]

-- What the record says: each key by its first occurrence, in whatever case it stands.
def spells (key : Text) (name : String) : Bool := key.map asciiLower = text name

def firstOf (properties : Properties) (name : String) : Option TxtValue :=
  (properties.find? fun item => spells item.1 name).map Prod.snd

def firstText (properties : Properties) (name : String) : Option Text := (firstOf properties name).bind textOf

def plainValue (value : Option Text) : Option Int := (value.filter plainDecimal).map decimalValue

def announced (properties : Properties) : DiscoveredDaemon :=
  let said := firstText properties
  { txtvers := plainValue (said "txtvers")
    path := said "path"
    apiVersion := said "api_version"
    tls := flag (said "tls")
    instanceName := said "instance"
    centrals := plainValue (said "centrals")
    ccus := items (said "ccus")
    deploy := said "deploy"
    ingress := said "ingress"
    loginPaths := (items (said "auth")).toFinset }

structure TxtLaw (x : SigmaContext) (properties : Properties) : Prop where
  read : parseTxtRecord x properties = .ok (announced properties)
  settled : ∀ further, (∀ item ∈ further, ∃ present ∈ properties, lower x item.1 = lower x present.1) →
    parseTxtRecord x (properties ++ further) = parseTxtRecord x properties
  firsts : ∀ other, (∀ name ∈ txtKeys, firstOf other name = firstOf properties name) →
    parseTxtRecord x other = parseTxtRecord x properties

-- The text is no decimal, or one the interpreter converts.
def Convertible (value : Option Text) : Prop :=
  ∀ t, value = some t → plainDecimal t = true → t.length ≤ Text.maxStrDigits

section Normalise
variable {x : SigmaContext} {n : Normalised} {k : Text}

theorem item_seen (seen : lower x item.1 ∈ n.seen) : normaliseItem x n item = n := by
  unfold normaliseItem
  exact if_pos seen

theorem item_new (new : lower x item.1 ∉ n.seen) : (normaliseItem x n item).seen = insert (lower x item.1) n.seen ∧
    (normaliseItem x n item).out.get? k = if lower x item.1 = k then (textOf item.2).or (n.out.get? k) else n.out.get? k := by
  unfold normaliseItem
  rw [if_neg new]
  refine ⟨rfl,?_⟩
  cases textOf item.2 with
  | none => exact (ite_self _).symm
  | some value => simp only [Dict.get?_set,Option.some_or,eq_comm]

theorem items_get (properties : Properties) (unseen : k ∉ n.seen → n.out.get? k = none) :
    (properties.foldl (normaliseItem x) n).out.get? k =
      if k ∈ n.seen then n.out.get? k else (properties.find? fun item => lower x item.1 = k).bind fun item => textOf item.2 := by
  induction properties generalizing n with
  | nil =>
    rw [List.foldl_nil,List.find?_nil,Option.bind_none]
    split
    · rfl
    · exact unseen ‹_›
  | cons item rest ih =>
    rw [List.foldl_cons]
    by_cases seen : lower x item.1 ∈ n.seen
    · rw [item_seen seen,ih unseen]
      split
      · rfl
      · rename_i other
        have skipped : lower x item.1 ≠ k := fun same => other (same ▸ seen)
        rw [List.find?_cons_of_neg (by simpa using skipped)]
    · obtain ⟨known,read⟩ := item_new (k := k) seen
      by_cases same : lower x item.1 = k
      · have fresh : k ∉ n.seen := same ▸ seen
        have now : k ∈ (normaliseItem x n item).seen := by
          rw [known,same]
          exact Finset.mem_insert_self k n.seen
        rw [ih (fun never => absurd now never),if_pos now,if_neg fresh,read,if_pos same,unseen fresh,Option.or_none,
          List.find?_cons_of_pos (by simpa using same)]
        rfl
      · have kept : k ∈ (normaliseItem x n item).seen ↔ k ∈ n.seen := by
          rw [known,Finset.mem_insert]
          exact or_iff_right (Ne.symm same)
        rw [if_neg same] at read
        rw [ih (fun never => read.trans (unseen fun old => never (kept.mpr old))),read,
          List.find?_cons_of_neg (by simpa using same)]
        simp only [kept]

theorem normalise_get (properties : Properties) (k : Text) : (normalise x properties).get? k =
    (properties.find? fun item => lower x item.1 = k).bind fun item => textOf item.2 :=
  items_get properties fun _ => rfl

end Normalise

section Reading
variable {x : SigmaContext} {f g : String → Option Text}

theorem daemon_congr (same : ∀ name ∈ txtKeys, f name = g name) : daemonOf f = daemonOf g := by
  unfold daemonOf
  simp only [same "txtvers" (by decide),same "path" (by decide),same "api_version" (by decide),same "tls" (by decide),
    same "instance" (by decide),same "centrals" (by decide),same "ccus" (by decide),same "deploy" (by decide),
    same "ingress" (by decide),same "auth" (by decide)]

theorem key_points : ∀ name ∈ txtKeys, ∀ n ∈ text name, n < 128 ∧ n ≠ 107 := by decide

theorem folds_iff (known : name ∈ txtKeys) (key : Text) : lower x key = text name ↔ spells key name = true := by
  unfold spells
  rw [decide_eq_true_iff]
  exact lower_eq_iff (text name) (key_points name known)

theorem normalise_first (properties : Properties) (known : name ∈ txtKeys) :
    (normalise x properties).get? (text name) = firstText properties name := by
  have same : (fun item : Text × TxtValue => decide (lower x item.1 = text name)) = fun item => spells item.1 name := by
    funext item
    rw [Bool.eq_iff_iff,decide_eq_true_iff]
    exact folds_iff known item.1
  rw [normalise_get,same,firstText,firstOf,Option.bind_map]
  rfl

theorem parse_first (properties : Properties) : parseTxtRecord x properties = daemonOf (firstText properties) :=
  daemon_congr fun _ known => normalise_first properties known

theorem first_appended (properties further : Properties) (known : name ∈ txtKeys)
    (present : ∀ item ∈ further, ∃ old ∈ properties, lower x item.1 = lower x old.1) :
    firstText (properties ++ further) name = firstText properties name := by
  unfold firstText firstOf
  rw [List.find?_append]
  cases found : properties.find? fun item => spells item.1 name with
  | some item => rfl
  | none =>
    have absent : further.find? (fun item => spells item.1 name) = none := by
      refine List.find?_eq_none.mpr fun item member spelled => ?_
      obtain ⟨old,there,same⟩ := present item member
      have folded := (folds_iff (x := x) known item.1).mpr spelled
      rw [same] at folded
      exact List.find?_eq_none.mp found old there ((folds_iff known old.1).mp folded)
    rw [absent]
    rfl

theorem decimal_ok (convertible : Convertible value) : decimal value = .ok (plainValue value) := by
  cases value with
  | none => rfl
  | some t =>
    unfold decimal plainValue
    dsimp only
    rw [← Bool.not_and,ascii_digits,Option.filter_some]
    cases plain : plainDecimal t with
    | false => rfl
    | true =>
      have short := convertible t rfl plain
      rw [int_plain plain,if_neg (Nat.not_lt.mpr short)]
      rfl

theorem decimal_fails (longer : ¬Convertible value) : decimal value = .error .digitLimit := by
  unfold Convertible at longer
  push Not at longer
  obtain ⟨t,rfl,plain,long⟩ := longer
  unfold decimal
  dsimp only
  rw [← Bool.not_and,ascii_digits,plain,int_plain plain,if_pos long]
  rfl

theorem daemon_ok_iff (properties : Properties) : daemonOf (firstText properties) = .ok (announced properties) ↔
    Convertible (firstText properties "txtvers") ∧ Convertible (firstText properties "centrals") := by
  constructor
  · intro read
    constructor
    · by_contra longer
      rw [daemonOf,decimal_fails longer] at read
      cases read
    · by_contra longer
      rw [daemonOf,decimal_fails longer] at read
      cases versions : decimal (firstText properties "txtvers") with
      | error failure =>
        rw [versions] at read
        cases read
      | ok txtvers =>
        rw [versions] at read
        cases read
  · intro ⟨versions,centrals⟩
    rw [daemonOf,decimal_ok versions,decimal_ok centrals]
    rfl

end Reading

theorem txt_record_law_iff (x : SigmaContext) (properties : Properties) : TxtLaw x properties ↔
    Convertible (firstText properties "txtvers") ∧ Convertible (firstText properties "centrals") := by
  constructor
  · intro law
    have read := law.read
    rw [parse_first] at read
    exact (daemon_ok_iff properties).mp read
  · intro convertible
    refine ⟨?_,?_,?_⟩
    · rw [parse_first]
      exact (daemon_ok_iff properties).mpr convertible
    · intro further present
      rw [parse_first,parse_first]
      exact daemon_congr fun name known => first_appended properties further known present
    · intro other same
      rw [parse_first,parse_first]
      refine daemon_congr fun name known => ?_
      rw [firstText,firstText,same name known]

-- A version of 4301 ones.
def longVersion : Properties := [(text "txtvers",.str (List.replicate (Text.maxStrDigits + 1) 49))]

theorem long_version_raises : ¬TxtLaw ⟨fun _ => false,fun _ => false⟩ longVersion := by
  intro law
  have said : firstText longVersion "txtvers" = some (List.replicate (Text.maxStrDigits + 1) 49) := rfl
  have longer : ¬Convertible (firstText longVersion "txtvers") := by
    intro convertible
    have plain : plainDecimal (List.replicate (Text.maxStrDigits + 1) 49) = true := by
      simp [plainDecimal,List.all_replicate]
    have short := convertible _ said plain
    rw [List.length_replicate] at short
    exact Nat.not_succ_le_self _ short
  have read := law.read
  rw [parse_first,daemonOf,decimal_fails longer] at read
  cases read

end LoomClient.Client.Discovery
