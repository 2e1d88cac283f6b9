import Mathlib.Data.List.Count
import Mathlib.Data.List.TakeWhile

namespace LoomClient.Lib.Text

-- A run of code points that are written in upper case alike: every `step`-th one
-- from `first` to `last`, the first of them as `upper`.
structure CaseRun where
  first : Nat
  last : Nat
  step : Nat
  upper : Nat

-- Unicode 16.0: the upper-case mappings to one code point,
def caseRuns : List CaseRun := [
  ⟨97,122,1,65⟩,⟨181,181,1,924⟩,⟨224,246,1,192⟩,⟨248,254,1,216⟩,⟨255,255,1,376⟩,⟨257,303,2,256⟩,⟨305,305,1,73⟩,
  ⟨307,311,2,306⟩,⟨314,328,2,313⟩,⟨331,375,2,330⟩,⟨378,382,2,377⟩,⟨383,383,1,83⟩,⟨384,384,1,579⟩,⟨387,389,2,386⟩,
  ⟨392,392,1,391⟩,⟨396,396,1,395⟩,⟨402,402,1,401⟩,⟨405,405,1,502⟩,⟨409,409,1,408⟩,⟨410,410,1,573⟩,⟨411,411,1,42972⟩,
  ⟨414,414,1,544⟩,⟨417,421,2,416⟩,⟨424,424,1,423⟩,⟨429,429,1,428⟩,⟨432,432,1,431⟩,⟨436,438,2,435⟩,⟨441,441,1,440⟩,
  ⟨445,445,1,444⟩,⟨447,447,1,503⟩,⟨453,453,1,452⟩,⟨454,454,1,452⟩,⟨456,456,1,455⟩,⟨457,457,1,455⟩,⟨459,459,1,458⟩,
  ⟨460,460,1,458⟩,⟨462,476,2,461⟩,⟨477,477,1,398⟩,⟨479,495,2,478⟩,⟨498,498,1,497⟩,⟨499,499,1,497⟩,⟨501,501,1,500⟩,
  ⟨505,543,2,504⟩,⟨547,563,2,546⟩,⟨572,572,1,571⟩,⟨575,576,1,11390⟩,⟨578,578,1,577⟩,⟨583,591,2,582⟩,
  ⟨592,592,1,11375⟩,⟨593,593,1,11373⟩,⟨594,594,1,11376⟩,⟨595,595,1,385⟩,⟨596,596,1,390⟩,⟨598,599,1,393⟩,
  ⟨601,601,1,399⟩,⟨603,603,1,400⟩,⟨604,604,1,42923⟩,⟨608,608,1,403⟩,⟨609,609,1,42924⟩,⟨611,611,1,404⟩,
  ⟨612,612,1,42955⟩,⟨613,613,1,42893⟩,⟨614,614,1,42922⟩,⟨616,616,1,407⟩,⟨617,617,1,406⟩,⟨618,618,1,42926⟩,
  ⟨619,619,1,11362⟩,⟨620,620,1,42925⟩,⟨623,623,1,412⟩,⟨625,625,1,11374⟩,⟨626,626,1,413⟩,⟨629,629,1,415⟩,
  ⟨637,637,1,11364⟩,⟨640,640,1,422⟩,⟨642,642,1,42949⟩,⟨643,643,1,425⟩,⟨647,647,1,42929⟩,⟨648,648,1,430⟩,
  ⟨649,649,1,580⟩,⟨650,651,1,433⟩,⟨652,652,1,581⟩,⟨658,658,1,439⟩,⟨669,669,1,42930⟩,⟨670,670,1,42928⟩,
  ⟨837,837,1,921⟩,⟨881,883,2,880⟩,⟨887,887,1,886⟩,⟨891,893,1,1021⟩,⟨940,940,1,902⟩,⟨941,943,1,904⟩,⟨945,961,1,913⟩,
  ⟨962,962,1,931⟩,⟨963,971,1,931⟩,⟨972,972,1,908⟩,⟨973,974,1,910⟩,⟨976,976,1,914⟩,⟨977,977,1,920⟩,⟨981,981,1,934⟩,
  ⟨982,982,1,928⟩,⟨983,983,1,975⟩,⟨985,1007,2,984⟩,⟨1008,1008,1,922⟩,⟨1009,1009,1,929⟩,⟨1010,1010,1,1017⟩,
  ⟨1011,1011,1,895⟩,⟨1013,1013,1,917⟩,⟨1016,1016,1,1015⟩,⟨1019,1019,1,1018⟩,⟨1072,1103,1,1040⟩,⟨1104,1119,1,1024⟩,
  ⟨1121,1153,2,1120⟩,⟨1163,1215,2,1162⟩,⟨1218,1230,2,1217⟩,⟨1231,1231,1,1216⟩,⟨1233,1327,2,1232⟩,⟨1377,1414,1,1329⟩,
  ⟨4304,4346,1,7312⟩,⟨4349,4351,1,7357⟩,⟨5112,5117,1,5104⟩,⟨7296,7296,1,1042⟩,⟨7297,7297,1,1044⟩,⟨7298,7298,1,1054⟩,
  ⟨7299,7300,1,1057⟩,⟨7301,7301,1,1058⟩,⟨7302,7302,1,1066⟩,⟨7303,7303,1,1122⟩,⟨7304,7304,1,42570⟩,
  ⟨7306,7306,1,7305⟩,⟨7545,7545,1,42877⟩,⟨7549,7549,1,11363⟩,⟨7566,7566,1,42950⟩,⟨7681,7829,2,7680⟩,
  ⟨7835,7835,1,7776⟩,⟨7841,7935,2,7840⟩,⟨7936,7943,1,7944⟩,⟨7952,7957,1,7960⟩,⟨7968,7975,1,7976⟩,⟨7984,7991,1,7992⟩,
  ⟨8000,8005,1,8008⟩,⟨8017,8023,2,8025⟩,⟨8032,8039,1,8040⟩,⟨8048,8049,1,8122⟩,⟨8050,8053,1,8136⟩,⟨8054,8055,1,8154⟩,
  ⟨8056,8057,1,8184⟩,⟨8058,8059,1,8170⟩,⟨8060,8061,1,8186⟩,⟨8112,8113,1,8120⟩,⟨8126,8126,1,921⟩,⟨8144,8145,1,8152⟩,
  ⟨8160,8161,1,8168⟩,⟨8165,8165,1,8172⟩,⟨8526,8526,1,8498⟩,⟨8560,8575,1,8544⟩,⟨8580,8580,1,8579⟩,⟨9424,9449,1,9398⟩,
  ⟨11312,11359,1,11264⟩,⟨11361,11361,1,11360⟩,⟨11365,11365,1,570⟩,⟨11366,11366,1,574⟩,⟨11368,11372,2,11367⟩,
  ⟨11379,11379,1,11378⟩,⟨11382,11382,1,11381⟩,⟨11393,11491,2,11392⟩,⟨11500,11502,2,11499⟩,⟨11507,11507,1,11506⟩,
  ⟨11520,11557,1,4256⟩,⟨11559,11559,1,4295⟩,⟨11565,11565,1,4301⟩,⟨42561,42605,2,42560⟩,⟨42625,42651,2,42624⟩,
  ⟨42787,42799,2,42786⟩,⟨42803,42863,2,42802⟩,⟨42874,42876,2,42873⟩,⟨42879,42887,2,42878⟩,⟨42892,42892,1,42891⟩,
  ⟨42897,42899,2,42896⟩,⟨42900,42900,1,42948⟩,⟨42903,42921,2,42902⟩,⟨42933,42947,2,42932⟩,⟨42952,42954,2,42951⟩,
  ⟨42957,42957,1,42956⟩,⟨42961,42961,1,42960⟩,⟨42967,42971,2,42966⟩,⟨42998,42998,1,42997⟩,⟨43859,43859,1,42931⟩,
  ⟨43888,43967,1,5024⟩,⟨65345,65370,1,65313⟩,⟨66600,66639,1,66560⟩,⟨66776,66811,1,66736⟩,⟨66967,66977,1,66928⟩,
  ⟨66979,66993,1,66940⟩,⟨66995,67001,1,66956⟩,⟨67003,67004,1,66964⟩,⟨68800,68850,1,68736⟩,⟨68976,68997,1,68944⟩,
  ⟨71872,71903,1,71840⟩,⟨93792,93823,1,93760⟩,⟨125218,125251,1,125184⟩]

-- those to several,
def specialUpper : List (Nat × List Nat) := [
  (223,[83,83]),(329,[700,78]),(496,[74,780]),(912,[921,776,769]),(944,[933,776,769]),(1415,[1333,1362]),
  (7830,[72,817]),(7831,[84,776]),(7832,[87,778]),(7833,[89,778]),(7834,[65,702]),(8016,[933,787]),
  (8018,[933,787,768]),(8020,[933,787,769]),(8022,[933,787,834]),(8064,[7944,921]),(8065,[7945,921]),
  (8066,[7946,921]),(8067,[7947,921]),(8068,[7948,921]),(8069,[7949,921]),(8070,[7950,921]),(8071,[7951,921]),
  (8072,[7944,921]),(8073,[7945,921]),(8074,[7946,921]),(8075,[7947,921]),(8076,[7948,921]),(8077,[7949,921]),
  (8078,[7950,921]),(8079,[7951,921]),(8080,[7976,921]),(8081,[7977,921]),(8082,[7978,921]),(8083,[7979,921]),
  (8084,[7980,921]),(8085,[7981,921]),(8086,[7982,921]),(8087,[7983,921]),(8088,[7976,921]),(8089,[7977,921]),
  (8090,[7978,921]),(8091,[7979,921]),(8092,[7980,921]),(8093,[7981,921]),(8094,[7982,921]),(8095,[7983,921]),
  (8096,[8040,921]),(8097,[8041,921]),(8098,[8042,921]),(8099,[8043,921]),(8100,[8044,921]),(8101,[8045,921]),
  (8102,[8046,921]),(8103,[8047,921]),(8104,[8040,921]),(8105,[8041,921]),(8106,[8042,921]),(8107,[8043,921]),
  (8108,[8044,921]),(8109,[8045,921]),(8110,[8046,921]),(8111,[8047,921]),(8114,[8122,921]),(8115,[913,921]),
  (8116,[902,921]),(8118,[913,834]),(8119,[913,834,921]),(8124,[913,921]),(8130,[8138,921]),(8131,[919,921]),
  (8132,[905,921]),(8134,[919,834]),(8135,[919,834,921]),(8140,[919,921]),(8146,[921,776,768]),(8147,[921,776,769]),
  (8150,[921,834]),(8151,[921,776,834]),(8162,[933,776,768]),(8163,[933,776,769]),(8164,[929,787]),(8166,[933,834]),
  (8167,[933,776,834]),(8178,[8186,921]),(8179,[937,921]),(8180,[911,921]),(8182,[937,834]),(8183,[937,834,921]),
  (8188,[937,921]),(64256,[70,70]),(64257,[70,73]),(64258,[70,76]),(64259,[70,70,73]),(64260,[70,70,76]),
  (64261,[83,84]),(64262,[83,84]),(64275,[1348,1350]),(64276,[1348,1333]),(64277,[1348,1339]),(64278,[1358,1350]),
  (64279,[1348,1341])]

-- the zeros of the runs of ten decimal digits,
def decimalZeros : List Nat := [
  48,1632,1776,1984,2406,2534,2662,2790,2918,3046,3174,3302,3430,3558,3664,3792,3872,4160,4240,6112,6160,6470,6608,
  6784,6800,6992,7088,7232,7248,42528,43216,43264,43472,43504,43600,44016,65296,66720,68912,68928,69734,69872,69942,
  70096,70384,70736,70864,71248,71360,71376,71386,71472,71904,72016,72688,72784,73040,73120,73552,90416,92768,92864,
  93008,93552,118000,120782,120792,120802,120812,120822,123200,123632,124144,124401,125264,130032]

-- and the digits that are not decimal: superscripts, circled ones and the like.
def digitRuns : List (Nat × Nat) := [
  (178,179),(185,185),(4969,4977),(6618,6618),(8304,8304),(8308,8313),(8320,8329),(9312,9320),(9332,9340),
  (9352,9360),(9450,9450),(9461,9469),(9471,9471),(10102,10110),(10112,10120),(10122,10130),(68160,68163),
  (69216,69224),(69714,69722),(127232,127242)]

def CaseRun.covers (r : CaseRun) (n : Nat) : Bool := r.first ≤ n && n ≤ r.last && (n - r.first) % r.step = 0

def upperChar (c : Char) : List Char :=
  match specialUpper.find? (·.1 = c.toNat) with
  | some special => special.2.map Char.ofNat
  | none =>
    match caseRuns.find? (·.covers c.toNat) with
    | some r => [Char.ofNat (r.upper + (c.toNat - r.first))]
    | none => [c]

def upper (s : String) : String := String.ofList (s.toList.flatMap upperChar)

def decimal (c : Char) : Option Nat :=
  (decimalZeros.find? fun z => z ≤ c.toNat && c.toNat < z + 10).map (c.toNat - ·)

def isDigitChar (c : Char) : Bool :=
  (decimal c).isSome || digitRuns.any fun r => r.1 ≤ c.toNat && c.toNat ≤ r.2

def isDigit (s : String) : Bool := s ≠ "" && s.toList.all isDigitChar

inductive ValueError where
  | invalidLiteral
  | digitLimit
  deriving DecidableEq, Repr

-- The interpreter's limit on the conversion between integers and text.
def maxStrDigits : Nat := 4300

def ofDecimals (digits : List Nat) : Nat := digits.foldl (fun sofar d => 10 * sofar + d) 0

-- The conversion of a text without sign, blank or underscore.
def int (s : String) : Except ValueError Int :=
  if maxStrDigits < (s.toList.takeWhile fun c => (decimal c).isSome).length then .error .digitLimit
  else if s = "" then .error .invalidLiteral
  else match s.toList.mapM decimal with
    | none => .error .invalidLiteral
    | some digits => .ok (ofDecimals digits)

def str (i : Int) : Except ValueError String :=
  if (Nat.toDigits 10 i.natAbs).length ≤ maxStrDigits then .ok (toString i) else .error .digitLimit

def pieces (separator : Char) (s : String) : List String := (s.toList.splitOn separator).map String.ofList

section Digits
variable {c : Char} {s : String}

theorem decimal_of_ascii (ascii : c.isDigit = true) : decimal c = some (c.toNat - 48) := by
  have bounds : 48 ≤ c.toNat ∧ c.toNat ≤ 57 := by
    simpa [Char.isDigit,UInt32.le_iff_toNat_le] using ascii
  have first : (48 ≤ c.toNat && c.toNat < 48 + 10) = true := by
    simp
    omega
  have zeros : decimalZeros = 48 :: decimalZeros.tail := rfl
  unfold decimal
  rw [zeros,List.find?_cons]
  simp only [first]
  rfl

theorem decimals_of_ascii {cs : List Char} (ascii : ∀ c ∈ cs, c.isDigit = true) :
    cs.mapM decimal = some (cs.map fun c => c.toNat - 48) := by
  induction cs with
  | nil => rfl
  | cons c rest ih =>
    rw [List.mapM_cons,decimal_of_ascii (ascii c List.mem_cons_self),ih fun d later => ascii d (.tail c later)]
    rfl

theorem decimals_some_iff (cs : List Char) : (∃ digits, cs.mapM decimal = some digits) ↔ ∀ c ∈ cs, (decimal c).isSome := by
  induction cs with
  | nil => simp
  | cons c rest ih =>
    rw [List.mapM_cons,List.forall_mem_cons,← ih]
    cases decimal c with
    | none => simp
    | some d => cases rest.mapM decimal <;> simp

theorem of_decimals_ascii (cs : List Char) : ofDecimals (cs.map fun c => c.toNat - 48) = Nat.ofDigitChars 10 cs 0 := by
  unfold ofDecimals Nat.ofDigitChars
  rw [List.foldl_map]
  rfl

theorem digits_ascii (n : Nat) : ∀ c ∈ Nat.toDigits 10 n, c.isDigit = true :=
  fun _ member => Nat.isDigit_of_mem_toDigits (by decide) (by decide) member

theorem is_digit_repr (n : Nat) : isDigit n.repr = true := by
  have digits : (Nat.toDigits 10 n).all isDigitChar = true := by
    refine List.all_eq_true.mpr fun c member => ?_
    unfold isDigitChar
    rw [decimal_of_ascii (digits_ascii n c member)]
    rfl
  unfold isDigit
  rw [Nat.toList_repr,digits]
  simp [Nat.repr_ne_empty]

theorem negative_text (n : Nat) : (toString (Int.negSucc n)).toList = '-' :: (n + 1).repr.toList := by
  show ("-" ++ (n + 1).repr).toList = _
  rw [String.toList_append]
  rfl

theorem is_digit_negative (n : Nat) : isDigit (toString (Int.negSucc n)) = false := by
  have sign : isDigitChar '-' = false := by decide +kernel
  unfold isDigit
  rw [negative_text,List.all_cons,sign]
  simp

theorem toString_chars (i : Int) : ∀ c ∈ (toString i).toList, c.isDigit = true ∨ c = '-' := by
  intro c member
  cases i with
  | ofNat n =>
    have digits : c ∈ Nat.toDigits 10 n := Nat.toList_repr ▸ member
    exact .inl (digits_ascii n c digits)
  | negSucc n =>
    have text : (toString (Int.negSucc n)).toList = '-' :: Nat.toDigits 10 (n + 1) := by
      rw [negative_text,Nat.toList_repr]
    rw [text] at member
    rcases List.mem_cons.mp member with sign | later
    · exact .inr sign
    · exact .inl (digits_ascii (n + 1) c later)

theorem int_repr (short : (Nat.toDigits 10 n).length ≤ maxStrDigits) : int n.repr = .ok n := by
  have limit : ¬ maxStrDigits < ((Nat.toDigits 10 n).takeWhile fun c => (decimal c).isSome).length := by
    have part := List.takeWhile_sublist (l := Nat.toDigits 10 n) fun c => (decimal c).isSome
    have shorter := part.length_le
    omega
  unfold int
  rw [Nat.toList_repr,if_neg limit,if_neg Nat.repr_ne_empty,decimals_of_ascii (digits_ascii n)]
  simp [of_decimals_ascii,Nat.ofDigitChars_ten_toDigits]

theorem int_ok_iff (filled : s ≠ "") : (∃ i, int s = .ok i) ↔
    (∀ c ∈ s.toList, (decimal c).isSome) ∧ s.toList.length ≤ maxStrDigits := by
  have whole : (∀ c ∈ s.toList, (decimal c).isSome) → s.toList.takeWhile (fun c => (decimal c).isSome) = s.toList :=
    List.takeWhile_eq_self_iff.mpr
  unfold int
  rw [if_neg filled]
  constructor
  · intro ⟨i,read⟩
    split at read
    · cases read
    · rename_i short
      split at read
      · cases read
      · rename_i digits known
        have all := (decimals_some_iff s.toList).mp ⟨digits,known⟩
        rw [whole all] at short
        exact ⟨all,Nat.le_of_not_lt short⟩
  · intro ⟨all,short⟩
    obtain ⟨digits,known⟩ := (decimals_some_iff s.toList).mpr all
    rw [whole all,if_neg (Nat.not_lt.mpr short),known]
    exact ⟨_,rfl⟩

end Digits

theorem pieces_length (separator : Char) (s : String) : (pieces separator s).length = s.toList.count separator + 1 := by
  unfold pieces
  rw [List.length_map]
  induction s.toList with
  | nil => rfl
  | cons c rest ih =>
    rw [List.splitOn_cons_eq_if_modifyHead,List.count_cons]
    split
    · rw [List.length_cons,ih]
    · rw [List.length_modifyHead,ih]

theorem pieces_join (separator : Char) (parts : List String) (some : parts ≠ []) (free : ∀ p ∈ parts, separator ∉ p.toList)
    (joined : s.toList = [separator].intercalate (parts.map String.toList)) : pieces separator s = parts := by
  unfold pieces
  rw [joined,List.splitOn_intercalate]
  · rw [List.map_map]
    refine (List.map_congr_left fun p _ => ?_).trans (List.map_id parts)
    exact String.ofList_toList
  · simpa using free
  · simpa using some

end LoomClient.Lib.Text
