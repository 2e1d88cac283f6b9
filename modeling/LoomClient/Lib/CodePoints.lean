import LoomClient.Lib.Json
import LoomClient.Lib.Text

namespace LoomClient.Lib.CodePoints

-- A run of code points that are written in lower case alike: every `step`-th one from
-- `first` to `last`, the first of them as `lower`.
structure LowerRun where
  first : Nat
  last : Nat
  step : Nat
  lower : Nat

-- Unicode 16.0: the lower-case mappings to one code point.
def lowerRuns : List LowerRun := [
  ⟨65,90,1,97⟩,⟨192,214,1,224⟩,⟨216,222,1,248⟩,⟨256,302,2,257⟩,⟨306,310,2,307⟩,⟨313,327,2,314⟩,⟨330,374,2,331⟩,
  ⟨376,376,1,255⟩,⟨377,381,2,378⟩,⟨385,385,1,595⟩,⟨386,388,2,387⟩,⟨390,390,1,596⟩,⟨391,391,1,392⟩,⟨393,394,1,598⟩,
  ⟨395,395,1,396⟩,⟨398,398,1,477⟩,⟨399,399,1,601⟩,⟨400,400,1,603⟩,⟨401,401,1,402⟩,⟨403,403,1,608⟩,⟨404,404,1,611⟩,
  ⟨406,406,1,617⟩,⟨407,407,1,616⟩,⟨408,408,1,409⟩,⟨412,412,1,623⟩,⟨413,413,1,626⟩,⟨415,415,1,629⟩,⟨416,420,2,417⟩,
  ⟨422,422,1,640⟩,⟨423,423,1,424⟩,⟨425,425,1,643⟩,⟨428,428,1,429⟩,⟨430,430,1,648⟩,⟨431,431,1,432⟩,⟨433,434,1,650⟩,
  ⟨435,437,2,436⟩,⟨439,439,1,658⟩,⟨440,440,1,441⟩,⟨444,444,1,445⟩,⟨452,452,1,454⟩,⟨453,453,1,454⟩,⟨455,455,1,457⟩,
  ⟨456,456,1,457⟩,⟨458,458,1,460⟩,⟨459,475,2,460⟩,⟨478,494,2,479⟩,⟨497,497,1,499⟩,⟨498,500,2,499⟩,⟨502,502,1,405⟩,
  ⟨503,503,1,447⟩,⟨504,542,2,505⟩,⟨544,544,1,414⟩,⟨546,562,2,547⟩,⟨570,570,1,11365⟩,⟨571,571,1,572⟩,⟨573,573,1,410⟩,
  ⟨574,574,1,11366⟩,⟨577,577,1,578⟩,⟨579,579,1,384⟩,⟨580,580,1,649⟩,⟨581,581,1,652⟩,⟨582,590,2,583⟩,⟨880,882,2,881⟩,
  ⟨886,886,1,887⟩,⟨895,895,1,1011⟩,⟨902,902,1,940⟩,⟨904,906,1,941⟩,⟨908,908,1,972⟩,⟨910,911,1,973⟩,⟨913,929,1,945⟩,
  ⟨931,939,1,963⟩,⟨975,975,1,983⟩,⟨984,1006,2,985⟩,⟨1012,1012,1,952⟩,⟨1015,1015,1,1016⟩,⟨1017,1017,1,1010⟩,
  ⟨1018,1018,1,1019⟩,⟨1021,1023,1,891⟩,⟨1024,1039,1,1104⟩,⟨1040,1071,1,1072⟩,⟨1120,1152,2,1121⟩,⟨1162,1214,2,1163⟩,
  ⟨1216,1216,1,1231⟩,⟨1217,1229,2,1218⟩,⟨1232,1326,2,1233⟩,⟨1329,1366,1,1377⟩,⟨4256,4293,1,11520⟩,⟨4295,4295,1,11559⟩,
  ⟨4301,4301,1,11565⟩,⟨5024,5103,1,43888⟩,⟨5104,5109,1,5112⟩,⟨7305,7305,1,7306⟩,⟨7312,7354,1,4304⟩,⟨7357,7359,1,4349⟩,
  ⟨7680,7828,2,7681⟩,⟨7838,7838,1,223⟩,⟨7840,7934,2,7841⟩,⟨7944,7951,1,7936⟩,⟨7960,7965,1,7952⟩,⟨7976,7983,1,7968⟩,
  ⟨7992,7999,1,7984⟩,⟨8008,8013,1,8000⟩,⟨8025,8031,2,8017⟩,⟨8040,8047,1,8032⟩,⟨8072,8079,1,8064⟩,⟨8088,8095,1,8080⟩,
  ⟨8104,8111,1,8096⟩,⟨8120,8121,1,8112⟩,⟨8122,8123,1,8048⟩,⟨8124,8124,1,8115⟩,⟨8136,8139,1,8050⟩,⟨8140,8140,1,8131⟩,
  ⟨8152,8153,1,8144⟩,⟨8154,8155,1,8054⟩,⟨8168,8169,1,8160⟩,⟨8170,8171,1,8058⟩,⟨8172,8172,1,8165⟩,⟨8184,8185,1,8056⟩,
  ⟨8186,8187,1,8060⟩,⟨8188,8188,1,8179⟩,⟨8486,8486,1,969⟩,⟨8490,8490,1,107⟩,⟨8491,8491,1,229⟩,⟨8498,8498,1,8526⟩,
  ⟨8544,8559,1,8560⟩,⟨8579,8579,1,8580⟩,⟨9398,9423,1,9424⟩,⟨11264,11311,1,11312⟩,⟨11360,11360,1,11361⟩,
  ⟨11362,11362,1,619⟩,⟨11363,11363,1,7549⟩,⟨11364,11364,1,637⟩,⟨11367,11371,2,11368⟩,⟨11373,11373,1,593⟩,
  ⟨11374,11374,1,625⟩,⟨11375,11375,1,592⟩,⟨11376,11376,1,594⟩,⟨11378,11378,1,11379⟩,⟨11381,11381,1,11382⟩,
  ⟨11390,11391,1,575⟩,⟨11392,11490,2,11393⟩,⟨11499,11501,2,11500⟩,⟨11506,11506,1,11507⟩,⟨42560,42604,2,42561⟩,
  ⟨42624,42650,2,42625⟩,⟨42786,42798,2,42787⟩,⟨42802,42862,2,42803⟩,⟨42873,42875,2,42874⟩,⟨42877,42877,1,7545⟩,
  ⟨42878,42886,2,42879⟩,⟨42891,42891,1,42892⟩,⟨42893,42893,1,613⟩,⟨42896,42898,2,42897⟩,⟨42902,42920,2,42903⟩,
  ⟨42922,42922,1,614⟩,⟨42923,42923,1,604⟩,⟨42924,42924,1,609⟩,⟨42925,42925,1,620⟩,⟨42926,42926,1,618⟩,
  ⟨42928,42928,1,670⟩,⟨42929,42929,1,647⟩,⟨42930,42930,1,669⟩,⟨42931,42931,1,43859⟩,⟨42932,42946,2,42933⟩,
  ⟨42948,42948,1,42900⟩,⟨42949,42949,1,642⟩,⟨42950,42950,1,7566⟩,⟨42951,42953,2,42952⟩,⟨42955,42955,1,612⟩,
  ⟨42956,42956,1,42957⟩,⟨42960,42960,1,42961⟩,⟨42966,42970,2,42967⟩,⟨42972,42972,1,411⟩,⟨42997,42997,1,42998⟩,
  ⟨65313,65338,1,65345⟩,⟨66560,66599,1,66600⟩,⟨66736,66771,1,66776⟩,⟨66928,66938,1,66967⟩,⟨66940,66954,1,66979⟩,
  ⟨66956,66962,1,66995⟩,⟨66964,66965,1,67003⟩,⟨68736,68786,1,68800⟩,⟨68944,68965,1,68976⟩,⟨71840,71871,1,71872⟩,
  ⟨93760,93791,1,93792⟩,⟨125184,125217,1,125218⟩]

def LowerRun.covers (r : LowerRun) (n : Nat) : Bool := r.first ≤ n && n ≤ r.last && (n - r.first) % r.step = 0

-- The only mapping to several code points is the one of the dotted capital I.
def lowerPoint (n : Nat) : Text :=
  if n = 304 then [105,775]
  else match lowerRuns.find? (·.covers n) with
    | some r => [r.lower + (n - r.first)]
    | none => [n]

structure SigmaContext where
  cased : Nat → Bool
  caseIgnorable : Nat → Bool

def SigmaContext.isFinal (x : SigmaContext) (before after : Text) : Bool :=
  (before.find? fun n => !x.caseIgnorable n).any x.cased && !(after.find? fun n => !x.caseIgnorable n).any x.cased

def capitalSigma : Nat := 931

def lowerFrom (x : SigmaContext) (before : Text) : Text → Text
  | [] => []
  | n :: after =>
    (if n = capitalSigma then [if x.isFinal before after then 962 else 963] else lowerPoint n) ++
      lowerFrom x (n :: before) after

-- `str.lower`
def lower (x : SigmaContext) (t : Text) : Text := lowerFrom x [] t

def whitespace : List Nat :=
  [9,10,11,12,13,28,29,30,31,32,133,160,5760,8192,8193,8194,8195,8196,8197,8198,8199,8200,8201,8202,8232,8233,8239,8287,
    12288]

-- `str.strip` and `str.split`
def strip (t : Text) : Text :=
  ((t.dropWhile (whitespace.contains ·)).reverse.dropWhile (whitespace.contains ·)).reverse

def split (separator : Nat) (t : Text) : List Text := t.splitOn separator

def isAscii (t : Text) : Bool := t.all fun n => n < 128

-- A lone surrogate is no character; what stands here for one is neither digit nor letter.
def chars (t : Text) : String := String.ofList (t.map Char.ofNat)

def isDigit (t : Text) : Bool := Text.isDigit (chars t)

def int (t : Text) : Except Text.ValueError Int := Text.int (chars t)

-- `bytes.decode('utf-8')`, which raises where this is none.
def decodeUtf8 (b : ByteArray) : Option Text := b.utf8Decode?.map fun cs => cs.toList.map Char.toNat

def asciiLower (n : Nat) : Nat := if 65 ≤ n ∧ n ≤ 90 then n + 32 else n

def plainDecimal (t : Text) : Bool := t ≠ [] && t.all fun n => 48 ≤ n && n ≤ 57

section Lower
variable {x : SigmaContext}

theorem lower_point_ascii (ascii : n < 128) : lowerPoint n = [asciiLower n] := by
  have each : ∀ m < 128, lowerPoint m = [asciiLower m] := by decide +kernel
  exact each n ascii

-- Outside of ASCII only the Kelvin sign becomes a letter of ASCII, besides the dotted capital.
theorem lower_runs_outside : ∀ r ∈ lowerRuns, r.last < 128 ∨ 128 ≤ r.lower ∨ r.first = r.last ∧ r.lower = 107 := by
  decide +kernel

theorem lower_point_outside (outside : 128 ≤ n) : ∃ m ∈ lowerPoint n, 128 ≤ m ∨ m = 107 := by
  unfold lowerPoint
  by_cases dotted : n = 304
  · rw [if_pos dotted]
    exact ⟨775,by decide,.inl (by decide)⟩
  · rw [if_neg dotted]
    cases found : lowerRuns.find? (·.covers n) with
    | none => exact ⟨n,List.mem_singleton_self n,.inl outside⟩
    | some r =>
      refine ⟨_,List.mem_singleton_self _,?_⟩
      have covered := List.find?_some found
      simp only [LowerRun.covers,Bool.and_eq_true,decide_eq_true_eq] at covered
      obtain ⟨⟨above,below⟩,-⟩ := covered
      rcases lower_runs_outside r (List.mem_of_find?_eq_some found) with inside | mapped | ⟨single,kelvin⟩
      · omega
      · exact .inl (by omega)
      · exact .inr (by omega)

theorem lower_from_ascii (before : Text) (ascii : ∀ n ∈ t, n < 128) : lowerFrom x before t = t.map asciiLower := by
  induction t generalizing before with
  | nil => rfl
  | cons n after ih =>
    have small := ascii n List.mem_cons_self
    have letter : n ≠ capitalSigma := by
      intro sigma
      rw [sigma] at small
      exact absurd small (by decide)
    rw [lowerFrom,if_neg letter,lower_point_ascii small,ih _ fun m later => ascii m (.tail n later)]
    rfl

theorem lower_from_outside (before : Text) (member : n ∈ t) (outside : 128 ≤ n) :
    ∃ m ∈ lowerFrom x before t, 128 ≤ m ∨ m = 107 := by
  induction t generalizing before with
  | nil => cases member
  | cons first after ih =>
    rw [lowerFrom]
    rcases List.mem_cons.mp member with rfl | later
    · by_cases sigma : n = capitalSigma
      · rw [if_pos sigma]
        refine ⟨_,List.mem_append_left _ (List.mem_singleton_self _),.inl ?_⟩
        split <;> decide
      · rw [if_neg sigma]
        obtain ⟨m,there,far⟩ := lower_point_outside outside
        exact ⟨m,List.mem_append_left _ there,far⟩
    · obtain ⟨m,there,far⟩ := ih (first :: before) later
      exact ⟨m,List.mem_append_right _ there,far⟩

theorem ascii_lower_small : asciiLower n < 128 ↔ n < 128 := by
  unfold asciiLower
  split <;> omega

theorem lower_eq_iff (name : Text) (plain : ∀ n ∈ name, n < 128 ∧ n ≠ 107) : lower x t = name ↔ t.map asciiLower = name := by
  unfold lower
  constructor
  · intro folded
    have ascii : ∀ n ∈ t, n < 128 := by
      intro n member
      by_contra outside
      obtain ⟨m,there,far⟩ := lower_from_outside (x := x) [] member (Nat.le_of_not_lt outside)
      rw [folded] at there
      have near := plain m there
      omega
    rwa [lower_from_ascii [] ascii] at folded
  · intro spelled
    rw [lower_from_ascii [] ?_,spelled]
    intro n member
    have folded : asciiLower n ∈ name := spelled ▸ List.mem_map_of_mem member
    exact ascii_lower_small.mp (plain _ folded).1

end Lower

section Decimals
variable {t : Text}

theorem digit_point (ascii : n < 128) : Text.isDigitChar (Char.ofNat n) = (48 ≤ n && n ≤ 57) := by
  have each : ∀ m < 128, Text.isDigitChar (Char.ofNat m) = (48 ≤ m && m ≤ 57) := by decide +kernel
  exact each n ascii

theorem chars_toList (t : Text) : (chars t).toList = t.map Char.ofNat := String.toList_ofList

theorem chars_filled : chars t ≠ "" ↔ t ≠ [] := by
  rw [ne_eq,ne_eq,← String.toList_inj,chars_toList]
  simp

theorem plain_decimal_mem (plain : plainDecimal t = true) (member : n ∈ t) : 48 ≤ n ∧ n ≤ 57 := by
  simp only [plainDecimal,Bool.and_eq_true,List.all_eq_true,decide_eq_true_eq] at plain
  exact plain.2 n member

theorem ascii_digits (t : Text) : (isAscii t && isDigit t) = plainDecimal t := by
  rw [Bool.eq_iff_iff]
  simp only [isAscii,isDigit,Text.isDigit,plainDecimal,Bool.and_eq_true,List.all_eq_true,decide_eq_true_eq,chars_toList,
    chars_filled,List.forall_mem_map]
  constructor
  · intro ⟨ascii,filled,digits⟩
    refine ⟨filled,fun n member => ?_⟩
    have digit := digits n member
    rw [digit_point (ascii n member)] at digit
    simpa using digit
  · intro ⟨filled,digits⟩
    have ascii : ∀ n ∈ t, n < 128 := fun n member => Nat.lt_of_le_of_lt (digits n member).2 (by decide)
    refine ⟨ascii,filled,fun n member => ?_⟩
    rw [digit_point (ascii n member)]
    simpa using digits n member

theorem decimal_point (low : 48 ≤ n) (high : n ≤ 57) : Text.decimal (Char.ofNat n) = some (n - 48) := by
  have each : ∀ m < 58, 48 ≤ m → Text.decimal (Char.ofNat m) = some (m - 48) := by decide +kernel
  exact each n (Nat.lt_succ_of_le high) low

theorem decimals_plain (digits : ∀ n ∈ t, 48 ≤ n ∧ n ≤ 57) :
    (t.map Char.ofNat).mapM Text.decimal = some (t.map (· - 48)) := by
  induction t with
  | nil => rfl
  | cons n rest ih =>
    obtain ⟨low,high⟩ := digits n List.mem_cons_self
    rw [List.map_cons,List.mapM_cons,decimal_point low high,ih fun m later => digits m (.tail n later)]
    rfl

def decimalValue (t : Text) : Int := Text.ofDecimals (t.map (· - 48))

theorem int_plain (plain : plainDecimal t = true) :
    int t = if Text.maxStrDigits < t.length then .error .digitLimit else .ok (decimalValue t) := by
  have digits : ∀ n ∈ t, 48 ≤ n ∧ n ≤ 57 := fun n => plain_decimal_mem plain
  have whole : (t.map Char.ofNat).takeWhile (fun c => (Text.decimal c).isSome) = t.map Char.ofNat := by
    refine List.takeWhile_eq_self_iff.mpr fun c member => ?_
    obtain ⟨n,there,rfl⟩ := List.mem_map.mp member
    rw [decimal_point (digits n there).1 (digits n there).2]
    rfl
  have filled : chars t ≠ "" := by
    simp only [plainDecimal,Bool.and_eq_true,decide_eq_true_eq] at plain
    exact chars_filled.mpr plain.1
  unfold int Text.int
  rw [chars_toList,whole,List.length_map,if_neg filled,decimals_plain digits]
  rfl

end Decimals

end LoomClient.Lib.CodePoints
