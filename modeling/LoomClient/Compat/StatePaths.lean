import LoomClient.Lib.Text
import LoomClient.Store.Places

namespace LoomClient.Compat
open Lib Wire Store
variable {V : Type}

def deviceStatePathRoot : String := "device/status"
def sysvarStatePathRoot : String := "sysvar/status"

-- The number is printed by the interpreter, which may refuse it.
def deviceStatePath (address : Address) (channel : Int) (parameter : String) : Except Text.ValueError String :=
  (Text.str channel).map fun number =>
    deviceStatePathRoot ++ "/" ++ Text.upper address ++ "/" ++ number ++ "/" ++ Text.upper parameter

def sysvarStatePath (name : String) : String := sysvarStatePathRoot ++ "/" ++ name

def parseDeviceStatePath (statePath : String) : Except Text.ValueError (Option DataPointKey) :=
  match Text.pieces '/' statePath with
  | [root,kind,address,channel,parameter] =>
    if root ≠ "device" ∨ kind ≠ "status" then .ok none
    else if Text.isDigit channel then (Text.int channel).map fun number => some (address,number,parameter)
    else .ok none
  | _ => .ok none

def parseSysvarStatePath (statePath : String) : Option String :=
  let lead := (sysvarStatePathRoot ++ "/").toList
  if lead <+: statePath.toList then some (String.ofList (statePath.toList.drop lead.length)) else none

def getGenericDataPoint (s : LoomStore V) (statePath : String) : Except Text.ValueError (Option (Model.DataPoint V)) :=
  (parseDeviceStatePath statePath).map fun parsed => parsed.bind s.dataPoints.get?

def statePathOf (dp : Model.DataPoint V) : Except Text.ValueError String :=
  deviceStatePath dp.deviceAddress dp.channelNumber dp.summary.parameter

def getStatePaths (s : LoomStore V) : Except Text.ValueError (List String) := s.dataPoints.values.mapM statePathOf

structure StatePathLaw (s : LoomStore V) (name statePath : String) : Prop where
  resolves : ∀ k dp, s.dataPoints.get? k = some dp →
    ∃ path, statePathOf dp = .ok path ∧ getGenericDataPoint s path = .ok (some dp)
  apart : ∀ k l dp other, s.dataPoints.get? k = some dp → s.dataPoints.get? l = some other → k ≠ l →
    ∀ path, statePathOf dp = .ok path → statePathOf other ≠ .ok path
  sysvar : parseSysvarStatePath (sysvarStatePath name) = some name
  total : ∃ parsed, parseDeviceStatePath statePath = .ok parsed

-- A data point that is stored as it is spelt in its path.
structure Spelt (k : DataPointKey) (dp : Model.DataPoint V) : Prop where
  address : Text.upper dp.deviceAddress = k.1
  parameter : Text.upper dp.summary.parameter = k.2.2
  undivided : '/' ∉ k.1.toList ∧ '/' ∉ k.2.2.toList
  channel : 0 ≤ k.2.1 ∧ (Nat.toDigits 10 k.2.1.natAbs).length ≤ Text.maxStrDigits

-- Where the text has a digit for a channel, it is a decimal one, and not too many.
def Readable (statePath : String) : Prop :=
  ∀ address channel parameter, Text.pieces '/' statePath = ["device","status",address,channel,parameter] →
    Text.isDigit channel = true → (∀ c ∈ channel.toList, (Text.decimal c).isSome) ∧ channel.toList.length ≤ Text.maxStrDigits

section Paths
variable {address parameter number path : String} {channel : Int}

theorem path_parts (printed : deviceStatePath address channel parameter = .ok path) :
    (Nat.toDigits 10 channel.natAbs).length ≤ Text.maxStrDigits ∧
      path = deviceStatePathRoot ++ "/" ++ Text.upper address ++ "/" ++ toString channel ++ "/" ++ Text.upper parameter := by
  unfold deviceStatePath Text.str at printed
  split at printed
  · rename_i short
    cases printed
    exact ⟨short,rfl⟩
  · cases printed

theorem path_of_short (short : (Nat.toDigits 10 channel.natAbs).length ≤ Text.maxStrDigits) : ∃ path,
    deviceStatePath address channel parameter = .ok path := by
  unfold deviceStatePath Text.str
  rw [if_pos short]
  exact ⟨_,rfl⟩

theorem number_undivided (channel : Int) : '/' ∉ (toString channel).toList := by
  intro member
  rcases Text.toString_chars channel '/' member with digit | sign
  · revert digit
    decide
  · revert sign
    decide

theorem path_pieces (printed : deviceStatePath address channel parameter = .ok path)
    (free : '/' ∉ (Text.upper address).toList ∧ '/' ∉ (Text.upper parameter).toList) :
    Text.pieces '/' path = ["device","status",Text.upper address,toString channel,Text.upper parameter] := by
  apply Text.pieces_join
  · simp
  · intro part listed
    simp only [List.mem_cons,List.not_mem_nil,or_false] at listed
    rcases listed with rfl | rfl | rfl | rfl | rfl
    · decide
    · decide
    · exact free.1
    · exact number_undivided channel
    · exact free.2
  · rw [(path_parts printed).2]
    simp [String.toList_append,deviceStatePathRoot]

theorem path_count (printed : deviceStatePath address channel parameter = .ok path) :
    path.toList.count '/' = 4 + (Text.upper address).toList.count '/' + (Text.upper parameter).toList.count '/' := by
  have none : (toString channel).toList.count '/' = 0 := List.count_eq_zero.mpr (number_undivided channel)
  have root : deviceStatePathRoot.toList.count '/' = 1 := by decide
  have slash : "/".toList.count '/' = 1 := by decide
  rw [(path_parts printed).2]
  simp only [String.toList_append,List.count_append,none,root,slash]
  omega

theorem parsed_undivided (printed : deviceStatePath address channel parameter = .ok path)
    (parsed : parseDeviceStatePath path = .ok (some key)) :
    '/' ∉ (Text.upper address).toList ∧ '/' ∉ (Text.upper parameter).toList := by
  have five : (Text.pieces '/' path).length = 5 := by
    unfold parseDeviceStatePath at parsed
    split at parsed
    · rename_i split
      rw [split]
      rfl
    · cases parsed
  rw [Text.pieces_length,path_count printed] at five
  constructor <;> apply List.count_eq_zero.mp <;> omega

theorem parse_path_iff (printed : deviceStatePath address channel parameter = .ok path) (key : DataPointKey) :
    parseDeviceStatePath path = .ok (some key) ↔
      ('/' ∉ (Text.upper address).toList ∧ '/' ∉ (Text.upper parameter).toList) ∧ 0 ≤ channel ∧
        key = (Text.upper address,channel,Text.upper parameter) := by
  have short := (path_parts printed).1
  have read : '/' ∉ (Text.upper address).toList ∧ '/' ∉ (Text.upper parameter).toList → parseDeviceStatePath path =
      if 0 ≤ channel then .ok (some (Text.upper address,channel,Text.upper parameter)) else .ok none := by
    intro free
    unfold parseDeviceStatePath
    rw [path_pieces printed free]
    simp only [ne_eq,not_true_eq_false,or_self,if_false]
    cases channel with
    | ofNat n =>
      have digit : Text.isDigit (toString (Int.ofNat n)) = true := Text.is_digit_repr n
      have int : Text.int (toString (Int.ofNat n)) = .ok (Int.ofNat n) := Text.int_repr short
      rw [if_pos digit,int,if_pos (show 0 ≤ Int.ofNat n from Int.natCast_nonneg n)]
      rfl
    | negSucc n =>
      have negative : ¬ 0 ≤ Int.negSucc n := by omega
      rw [if_neg (by simp only [Text.is_digit_negative,Bool.false_eq_true,not_false_eq_true]),if_neg negative]
  constructor
  · intro parsed
    have free := parsed_undivided printed parsed
    rw [read free] at parsed
    split at parsed
    · rename_i natural
      cases parsed
      exact ⟨free,natural,rfl⟩
    · cases parsed
  · intro ⟨free,natural,same⟩
    rw [read free,if_pos natural,same]

theorem parse_total_iff (path : String) : (∃ parsed, parseDeviceStatePath path = .ok parsed) ↔ Readable path := by
  unfold parseDeviceStatePath Readable
  split
  · rename_i root kind address channel parameter split
    rw [split]
    by_cases other : root ≠ "device" ∨ kind ≠ "status"
    · rw [if_pos other]
      refine iff_of_true ⟨none,rfl⟩ fun _ _ _ same _ => ?_
      cases same
      simp at other
    · obtain ⟨rfl,rfl⟩ : root = "device" ∧ kind = "status" := by simpa [not_or] using other
      rw [if_neg other]
      cases digit : Text.isDigit channel with
      | false =>
        refine iff_of_true ⟨none,rfl⟩ fun _ _ _ same read => ?_
        cases same
        rw [digit] at read
        cases read
      | true =>
        have filled : channel ≠ "" := by
          intro empty
          rw [empty] at digit
          revert digit
          decide
        rw [if_pos rfl]
        refine Iff.trans ?_ ((Text.int_ok_iff filled).trans ?_)
        · cases Text.int channel <;> simp [Except.map]
        · constructor
          · intro decimals _ _ _ same _
            cases same
            exact decimals
          · intro readable
            exact readable address channel parameter rfl digit
  · rename_i unlike
    exact iff_of_true ⟨none,rfl⟩ fun address channel parameter same _ => (unlike _ _ _ _ _ same).elim

theorem sysvar_path_parsed (name : String) : parseSysvarStatePath (sysvarStatePath name) = some name := by
  unfold parseSysvarStatePath sysvarStatePath
  simp [String.toList_append]

end Paths

section Resolving
variable {s : LoomStore V} {k : DataPointKey} {dp : Model.DataPoint V}

theorem path_resolves_iff (placed : Placed s) (stored : s.dataPoints.get? k = some dp) :
    (∃ path, statePathOf dp = .ok path ∧ getGenericDataPoint s path = .ok (some dp)) ↔ Spelt k dp := by
  obtain ⟨address,channel⟩ := placed.place k dp stored
  constructor
  · intro ⟨path,printed,found⟩
    obtain ⟨key,parsed,there⟩ : ∃ key, parseDeviceStatePath path = .ok (some key) ∧ s.dataPoints.get? key = some dp := by
      unfold getGenericDataPoint at found
      cases parsed : parseDeviceStatePath path with
      | error e => simp [parsed,Except.map] at found
      | ok result =>
        cases result with
        | none => simp [parsed,Except.map] at found
        | some key => exact ⟨key,rfl,by simpa [parsed,Except.map] using found⟩
    obtain ⟨free,natural,key⟩ := (parse_path_iff printed key).mp parsed
    have same := placed.apart k _ dp dp stored there rfl
    subst key
    subst same
    exact ⟨rfl,rfl,free,natural,(path_parts printed).1⟩
  · intro spelt
    have short := spelt.channel.2
    rw [← channel] at short
    obtain ⟨path,printed⟩ : ∃ path, statePathOf dp = .ok path := path_of_short short
    have key : k = (Text.upper dp.deviceAddress,dp.channelNumber,Text.upper dp.summary.parameter) := by
      rw [spelt.address,spelt.parameter,channel]
    have parsed : parseDeviceStatePath path = .ok (some k) := by
      refine (parse_path_iff printed k).mpr ⟨?_,?_,key⟩
      · rw [spelt.address,spelt.parameter]
        exact spelt.undivided
      · rw [channel]
        exact spelt.channel.1
    refine ⟨path,printed,?_⟩
    unfold getGenericDataPoint
    rw [parsed]
    exact congrArg Except.ok stored

theorem apart_of_resolves (placed : Placed s)
    (resolves : ∀ k dp, s.dataPoints.get? k = some dp →
      ∃ path, statePathOf dp = .ok path ∧ getGenericDataPoint s path = .ok (some dp))
    {l : DataPointKey} {other : Model.DataPoint V} (stored : s.dataPoints.get? k = some dp)
    (there : s.dataPoints.get? l = some other) (printed : statePathOf dp = .ok path)
    (shared : statePathOf other = .ok path) : k = l := by
  obtain ⟨first,own,found⟩ := resolves k dp stored
  obtain ⟨second,its,found'⟩ := resolves l other there
  obtain rfl : path = first := Except.ok.inj (printed.symm.trans own)
  obtain rfl : path = second := Except.ok.inj (shared.symm.trans its)
  have same : dp = other := Option.some.inj (Except.ok.inj (found.symm.trans found'))
  exact placed.apart k l dp other stored there (congrArg Model.DataPoint.oid same)

theorem all_listed {α β ε : Type} {f : α → Except ε β} {holds : β → Prop} {items : List α}
    (each : ∀ a ∈ items, ∃ b, f a = .ok b ∧ holds b) : ∃ results, items.mapM f = .ok results ∧ ∀ b ∈ results, holds b := by
  induction items with
  | nil => exact ⟨[],rfl,fun _ member => by cases member⟩
  | cons a rest ih =>
    obtain ⟨b,here,first⟩ := each a List.mem_cons_self
    obtain ⟨results,later,others⟩ := ih fun c member => each c (.tail a member)
    refine ⟨b :: results,?_,List.forall_mem_cons.mpr ⟨first,others⟩⟩
    rw [List.mapM_cons,here,later]
    rfl

-- The list the bridge subscribes to, when every data point is stored as it is spelt.
theorem listed_paths_resolve (placed : Placed s) (spelt : ∀ k dp, s.dataPoints.get? k = some dp → Spelt k dp) :
    ∃ paths, getStatePaths s = .ok paths ∧ ∀ path ∈ paths, ∃ dp, getGenericDataPoint s path = .ok (some dp) := by
  refine all_listed fun dp member => ?_
  obtain ⟨k,stored⟩ := Dict.mem_values.mp member
  obtain ⟨path,printed,found⟩ := (path_resolves_iff placed stored).mpr (spelt k dp stored)
  exact ⟨path,printed,dp,found⟩

theorem law_iff (placed : Placed s) (name statePath : String) : StatePathLaw s name statePath ↔
    (∀ k dp, s.dataPoints.get? k = some dp → Spelt k dp) ∧ Readable statePath := by
  constructor
  · intro law
    exact ⟨fun k dp stored => (path_resolves_iff placed stored).mp (law.resolves k dp stored),(parse_total_iff statePath).mp law.total⟩
  · intro ⟨spelt,readable⟩
    have resolves : ∀ k dp, s.dataPoints.get? k = some dp →
        ∃ path, statePathOf dp = .ok path ∧ getGenericDataPoint s path = .ok (some dp) :=
      fun k dp stored => (path_resolves_iff placed stored).mpr (spelt k dp stored)
    refine ⟨resolves,?_,sysvar_path_parsed name,(parse_total_iff statePath).mpr readable⟩
    intro k l dp other stored there different path printed shared
    exact different (apart_of_resolves placed resolves stored there printed shared)

end Resolving

theorem state_paths_round_trip_iff (maxDevices : Nat) (centralName serialSuffix : String)
    (calculatedFactory programFactory : Bool) (ops : List (Operation V)) (name statePath : String) :
    Always perform (fun s => StatePathLaw s name statePath ↔
        (∀ k dp, s.dataPoints.get? k = some dp → Spelt k dp) ∧ Readable statePath)
      (constructed maxDevices centralName serialSuffix calculatedFactory programFactory) ops := by
  have first := @constructed_placed V maxDevices centralName serialSuffix calculatedFactory programFactory
  have placed : Always perform Placed (constructed maxDevices centralName serialSuffix calculatedFactory programFactory) ops := by
    refine always_of_invariant first fun s op t kept moved => ?_
    cases moved
    exact operation_placed op kept
  exact always_mono (fun s kept => law_iff kept name statePath) placed

-- The virtual remote control is served under an address in mixed case.
def virtualRemote : List (Operation Nat) :=
  [.push (.deviceCreated ⟨"ccu","ccu-HmIP","HmIP-RCV-1","HmIP-RCV-50",none⟩),
    .attachChannelDataPoints "HmIP-RCV-1" 1
      [⟨"PRESS_SHORT","press",none,none,true,none,none,none,none,none,none,none,⟨false,true,true⟩,none⟩]]

theorem virtual_remote_unresolved :
    ¬ Always perform (fun s => StatePathLaw s "Presence" "device/status/A/1/STATE") (constructed 8 "ccu" "S" true true) virtualRemote := by
  intro law
  obtain ⟨path,printed,found⟩ := law.2.2.resolves ("HmIP-RCV-1",1,"PRESS_SHORT") _ rfl
  obtain ⟨_,rfl⟩ := path_parts printed
  revert found
  decide +kernel

-- A superscript is a digit to one test and no number to the other.
example : parseDeviceStatePath "device/status/A/²/STATE" = .error .invalidLiteral := by decide +kernel

end LoomClient.Compat
