import LoomClient.Lib.Bytes

namespace LoomClient.Lib.Percent
variable {raw text rest : List Char} {texts : List (List Char)}

def utf8 (t : List Char) : Bytes := t.flatMap String.utf8EncodeChar

-- Strict UTF-8: none where the decoder refuses a byte.
def ofUtf8 (b : Bytes) : Option (List Char) := b.toByteArray.utf8Decode?.map Array.toList

-- What `urllib.parse.quote` leaves alone when nothing else is named safe.
def alwaysSafe (n : Nat) : Bool :=
  (48 ≤ n && n ≤ 57) || (65 ≤ n && n ≤ 90) || (97 ≤ n && n ≤ 122) || n == 45 || n == 46 || n == 95 || n == 126

def hexCapital (n : Nat) : Char := Char.ofNat (if n < 10 then n + 48 else n + 55)

def quoteByte (b : UInt8) : List Char :=
  if alwaysSafe b.toNat then [Char.ofNat b.toNat] else ['%',hexCapital (b.toNat / 16),hexCapital (b.toNat % 16)]

-- `urllib.parse.quote(s, safe='')`
def quoteChars (t : List Char) : List Char := (utf8 t).flatMap quoteByte

def percentDecode : List Char → Option Bytes
  | [] => some []
  | c :: rest =>
    if c = '%' then match rest with
      | high :: low :: rest => do
        let high ← hexValue high.toNat
        let low ← hexValue low.toNat
        let bytes ← percentDecode rest
        return UInt8.ofNat (high * 16 + low) :: bytes
      | _ => none
    else (percentDecode rest).map (String.utf8EncodeChar c ++ ·)

def unquote (t : List Char) : Option (List Char) := (percentDecode t).bind ofUtf8

-- What stands before the query and the fragment.
def pathOf (t : List Char) : List Char := t.takeWhile fun c => c != '?' && c != '#'

-- The receiver splits at the slashes first and decodes every segment on its own.
def readPath (t : List Char) : Option (List (List Char)) := ((pathOf t).splitOn '/').tail.mapM unquote

-- A character that stays inside of its segment.
def staysInside (c : Char) : Bool := c != '/' && c != '?' && c != '#'

structure Legible (raw text : List Char) : Prop where
  inside : ∀ c ∈ raw, staysInside c = true
  reads : unquote raw = some text

theorem of_utf8_utf8 (t : List Char) : ofUtf8 (utf8 t) = some t := by
  have decoded := List.utf8Decode?_utf8Encode (l := t)
  unfold ofUtf8 utf8
  rw [show (t.flatMap String.utf8EncodeChar).toByteArray = t.utf8Encode from rfl,decoded]
  simp

theorem utf8_of_utf8 (decoded : ofUtf8 b = some t) : utf8 t = b := by
  unfold ofUtf8 at decoded
  cases read : b.toByteArray.utf8Decode? with
  | none => rw [read] at decoded; cases decoded
  | some cs =>
    rw [read] at decoded
    cases decoded
    have encoded := ByteArray.utf8Encode_get_utf8Decode? (b := b.toByteArray) (h := by rw [read]; rfl)
    simp only [read,Option.get_some] at encoded
    have same : (utf8 cs.toList).toByteArray = b.toByteArray := encoded
    exact List.toByteArray_inj.mp same

theorem utf8_filled (c : Char) : 0 < (String.utf8EncodeChar c).length :=
  List.length_pos_of_ne_nil String.utf8EncodeChar_ne_nil

theorem char_point (small : n < 256) : (Char.ofNat n).toNat = n := by
  have valid : n.isValidChar := Or.inl (by omega)
  unfold Char.ofNat
  rw [dif_pos valid]
  rfl

theorem safe_ascii (safe : alwaysSafe n = true) : n < 128 := by
  simp only [alwaysSafe,Bool.or_eq_true,Bool.and_eq_true,decide_eq_true_eq,beq_iff_eq] at safe
  omega

theorem hex_capital_value (small : n < 16) : hexValue (hexCapital n).toNat = some n := by
  unfold hexCapital
  split
  · rw [char_point (by omega)]
    unfold hexValue
    rw [if_pos (by omega)]
    exact congrArg some (by omega)
  · rw [char_point (by omega)]
    unfold hexValue
    rw [if_neg (by omega),if_neg (by omega),if_pos (by omega)]
    exact congrArg some (by omega)

theorem encode_safe (small : b.toNat < 128) : String.utf8EncodeChar (Char.ofNat b.toNat) = [b] := by
  have point : (Char.ofNat b.toNat).val.toNat = b.toNat := char_point (by omega)
  unfold String.utf8EncodeChar
  simp only [point]
  rw [if_pos (show b.toNat ≤ 127 by omega),UInt8.ofNat_toNat]

theorem quote_byte_inside (b : UInt8) : ∀ c ∈ quoteByte b, staysInside c = true := by
  have inside : ∀ n < 256, n ≠ 47 → n ≠ 63 → n ≠ 35 → staysInside (Char.ofNat n) = true := by
    intro n small slash query fragment
    have apart : ∀ d : Char, d.toNat ≠ n → Char.ofNat n ≠ d := fun d other same =>
      other (by rw [← same,char_point small])
    simp only [staysInside,Bool.and_eq_true,bne_iff_ne]
    exact ⟨⟨apart '/' (Ne.symm slash),apart '?' (Ne.symm query)⟩,apart '#' (Ne.symm fragment)⟩
  have capital : ∀ n < 16, staysInside (hexCapital n) = true := by
    intro n small
    unfold hexCapital
    split <;> exact inside _ (by omega) (by omega) (by omega) (by omega)
  have below := b.toNat_lt
  intro c member
  unfold quoteByte at member
  split at member
  · rename_i safe
    rw [List.mem_singleton] at member
    subst member
    simp only [alwaysSafe,Bool.or_eq_true,Bool.and_eq_true,decide_eq_true_eq,beq_iff_eq] at safe
    exact inside _ below (by omega) (by omega) (by omega)
  · simp only [List.mem_cons,List.not_mem_nil,or_false] at member
    rcases member with rfl | rfl | rfl
    · rfl
    · exact capital _ (by omega)
    · exact capital _ (by omega)

theorem decode_other (plain : c ≠ '%') (rest : List Char) :
    percentDecode (c :: rest) = (percentDecode rest).map (String.utf8EncodeChar c ++ ·) := by
  rcases rest with _ | ⟨high,_ | ⟨low,rest⟩⟩
  all_goals
    simp only [percentDecode]
    rw [if_neg plain]

theorem decode_quoted_byte (b : UInt8) (rest : List Char) :
    percentDecode (quoteByte b ++ rest) = (percentDecode rest).map (b :: ·) := by
  have below := b.toNat_lt
  unfold quoteByte
  split
  · rename_i safe
    have ascii := safe_ascii safe
    have plain : Char.ofNat b.toNat ≠ '%' := by
      intro same
      have point : b.toNat = 37 := by rw [← char_point (n := b.toNat) (by omega),same]; rfl
      rw [point] at safe
      cases safe
    rw [List.singleton_append,decode_other plain,encode_safe ascii]
    rfl
  · have high := hex_capital_value (n := b.toNat / 16) (by omega)
    have low := hex_capital_value (n := b.toNat % 16) (by omega)
    have whole : b.toNat / 16 * 16 + b.toNat % 16 = b.toNat := by omega
    simp only [List.cons_append,List.nil_append,percentDecode,if_true,high,low,Option.bind_eq_bind,Option.bind_some,whole,
      UInt8.ofNat_toNat]
    cases percentDecode rest <;> rfl

theorem decode_quoted (b : Bytes) (rest : List Char) :
    percentDecode (b.flatMap quoteByte ++ rest) = (percentDecode rest).map (b ++ ·) := by
  induction b with
  | nil => cases read : percentDecode rest <;> simp [read]
  | cons x more ih =>
    rw [List.flatMap_cons,List.append_assoc,decode_quoted_byte,ih,Option.map_map]
    rfl

theorem quoted_legible (t : List Char) : Legible (quoteChars t) t where
  inside := by
    intro c member
    obtain ⟨b,_,written⟩ := List.mem_flatMap.mp member
    exact quote_byte_inside b c written
  reads := by
    have decoded := decode_quoted (utf8 t) []
    rw [List.append_nil] at decoded
    unfold unquote quoteChars
    rw [decoded]
    simp only [percentDecode,Option.map_some,List.append_nil,Option.bind_some,of_utf8_utf8]

theorem decode_length (decoded : percentDecode t = some b) :
    b.length ≤ (utf8 t).length ∧ ('%' ∈ t → b.length < (utf8 t).length) := by
  fun_induction percentDecode t generalizing b with
  | case1 =>
    cases decoded
    exact ⟨Nat.le_refl _,fun member => nomatch member⟩
  | case2 high low rest ih =>
    cases first : hexValue high.toNat with
    | none => rw [first] at decoded; cases decoded
    | some h => cases second : hexValue low.toNat with
      | none => rw [first,second] at decoded; cases decoded
      | some l => cases later : percentDecode rest with
        | none => rw [first,second,later] at decoded; cases decoded
        | some bytes =>
          rw [first,second,later] at decoded
          cases decoded
          have shorter := (ih later).1
          have written : utf8 ('%' :: high :: low :: rest) =
              String.utf8EncodeChar '%' ++ (String.utf8EncodeChar high ++ (String.utf8EncodeChar low ++ utf8 rest)) := rfl
          have a := utf8_filled '%'
          have b := utf8_filled high
          rw [written]
          simp only [List.length_append,List.length_cons]
          exact ⟨by omega,fun _ => by omega⟩
  | case3 => cases decoded
  | case4 c rest plain ih =>
    cases later : percentDecode rest with
    | none => rw [later] at decoded; cases decoded
    | some bytes =>
      rw [later] at decoded
      cases decoded
      obtain ⟨shorter,strictly⟩ := ih later
      have written : utf8 (c :: rest) = String.utf8EncodeChar c ++ utf8 rest := rfl
      rw [written]
      simp only [List.length_append]
      refine ⟨by omega,fun member => ?_⟩
      have rest : '%' ∈ rest := (List.mem_cons.mp member).resolve_left fun same => plain same.symm
      have := strictly rest
      omega

theorem decode_plain (plain : '%' ∉ t) : percentDecode t = some (utf8 t) := by
  induction t with
  | nil => rfl
  | cons c rest ih =>
    rw [List.mem_cons,not_or] at plain
    rw [decode_other (Ne.symm plain.1),ih plain.2]
    rfl

theorem unquote_shorter (decoded : unquote s = some t) :
    (utf8 t).length ≤ (utf8 s).length ∧ ('%' ∈ s → (utf8 t).length < (utf8 s).length) := by
  unfold unquote at decoded
  cases read : percentDecode s with
  | none => rw [read] at decoded; cases decoded
  | some b =>
    rw [read] at decoded
    rw [utf8_of_utf8 decoded]
    exact decode_length read

-- A text that is written as it is reads back exactly when nothing in it is special.
theorem plain_legible_iff (t : List Char) : Legible t t ↔ ∀ c ∈ t, staysInside c = true ∧ c ≠ '%' := by
  constructor
  · intro ⟨inside,reads⟩ c member
    refine ⟨inside c member,fun percent => ?_⟩
    subst percent
    exact Nat.lt_irrefl _ ((unquote_shorter reads).2 member)
  · intro plain
    refine ⟨fun c member => (plain c member).1,?_⟩
    unfold unquote
    rw [decode_plain fun member => (plain _ member).2 rfl]
    exact of_utf8_utf8 t

def Slashed (rest : List Char) : Prop := rest = [] ∨ ∃ more, rest = '/' :: more

theorem path_of_cons (c : Char) (t : List Char) :
    pathOf (c :: t) = if (c != '?' && c != '#') = true then c :: pathOf t else [] := List.takeWhile_cons

theorem path_of_slash (t : List Char) : pathOf ('/' :: t) = '/' :: pathOf t := rfl

theorem path_of_inside {raw : List Char} (inside : ∀ c ∈ raw, staysInside c = true) (rest : List Char) :
    pathOf (raw ++ rest) = raw ++ pathOf rest := by
  refine List.takeWhile_append_of_pos fun c member => ?_
  have stays := inside c member
  simp only [staysInside,Bool.and_eq_true] at stays ⊢
  exact ⟨stays.1.2,stays.2⟩

theorem no_slash (inside : ∀ c ∈ raw, staysInside c = true) : '/' ∉ raw := fun member => nomatch inside '/' member

theorem slashed_path_of (slashed : Slashed rest) : Slashed (pathOf rest) := by
  rcases slashed with rfl | ⟨more,rfl⟩
  · exact .inl rfl
  · exact .inr ⟨pathOf more,rfl⟩

theorem split_segment (inside : ∀ c ∈ raw, staysInside c = true) (slashed : Slashed rest) :
    (('/' :: (raw ++ rest)).splitOn '/').tail = raw :: (rest.splitOn '/').tail := by
  rw [List.splitOn_cons_eq_if_modifyHead,if_pos (beq_self_eq_true _),List.tail_cons]
  rcases slashed with rfl | ⟨more,rfl⟩
  · rw [List.append_nil,List.splitOn_eq_singleton (no_slash inside)]
    rfl
  · rw [List.splitOn_append_cons_self_of_not_mem (no_slash inside),List.splitOn_cons_eq_if_modifyHead,if_pos (beq_self_eq_true _),List.tail_cons]

theorem first_segment (t : List Char) : ∃ more, (pathOf t).splitOn '/' = t.takeWhile staysInside :: more := by
  induction t with
  | nil => exact ⟨[],rfl⟩
  | cons c rest ih =>
    obtain ⟨more,first⟩ := ih
    rw [path_of_cons,List.takeWhile_cons]
    by_cases stays : staysInside c = true
    · have parts := stays
      simp only [staysInside,Bool.and_eq_true,bne_iff_ne] at parts
      have goes : (c != '?' && c != '#') = true := by simp [parts.1.2,parts.2]
      have other : ¬(c == '/') = true := by simp [parts.1.1]
      rw [if_pos goes,if_pos stays,List.splitOn_cons_eq_if_modifyHead,if_neg other,first]
      exact ⟨more,rfl⟩
    · rw [if_neg stays]
      by_cases goes : (c != '?' && c != '#') = true
      · have slash : (c == '/') = true := by
          by_cases same : (c == '/') = true
          · exact same
          · refine absurd ?_ stays
            simp only [Bool.and_eq_true,bne_iff_ne] at goes
            simp only [beq_iff_eq] at same
            simp [staysInside,same,goes.1,goes.2]
        rw [if_pos goes,List.splitOn_cons_eq_if_modifyHead,if_pos slash]
        exact ⟨_,rfl⟩
      · rw [if_neg goes]
        exact ⟨[],rfl⟩

theorem strays_shorter (strays : ¬∀ c ∈ raw, staysInside c = true) :
    (utf8 ((raw ++ rest).takeWhile staysInside)).length < (utf8 raw).length := by
  induction raw with
  | nil => exact absurd (fun c member => nomatch member) strays
  | cons c more ih =>
    rw [List.cons_append,List.takeWhile_cons]
    have filled := utf8_filled c
    have written : utf8 (c :: more) = String.utf8EncodeChar c ++ utf8 more := rfl
    by_cases stays : staysInside c = true
    · have rest := ih fun all => strays (List.forall_mem_cons.mpr ⟨stays,all⟩)
      have shown (t : List Char) : utf8 (c :: t) = String.utf8EncodeChar c ++ utf8 t := rfl
      rw [if_pos stays,written,shown,List.length_append,List.length_append]
      omega
    · rw [if_neg stays,written,List.length_append]
      exact Nat.lt_of_lt_of_le filled (Nat.le_add_right _ _)

theorem read_segment (written : raw = text ∨ Legible raw text) (slashed : Slashed rest) :
    readPath ('/' :: (raw ++ rest)) = some (text :: texts) ↔ Legible raw text ∧ readPath rest = some texts := by
  by_cases inside : ∀ c ∈ raw, staysInside c = true
  · have split : readPath ('/' :: (raw ++ rest)) = (raw :: ((pathOf rest).splitOn '/').tail).mapM unquote := by
      unfold readPath
      rw [path_of_slash,path_of_inside inside,split_segment inside (slashed_path_of slashed)]
    rw [split,List.mapM_cons]
    cases read : unquote raw with
    | none =>
      refine iff_of_false (fun some => nomatch some) fun ⟨legible,_⟩ => ?_
      rw [legible.reads] at read
      cases read
    | some shown =>
      constructor
      · intro all
        cases later : readPath rest with
        | none =>
          unfold readPath at later
          rw [later] at all
          cases all
        | some more =>
          unfold readPath at later
          rw [later] at all
          cases all
          exact ⟨⟨inside,read⟩,rfl⟩
      · intro ⟨legible,later⟩
        rw [legible.reads] at read
        cases read
        unfold readPath at later
        rw [later]
        rfl
  · rcases written with rfl | legible
    · refine iff_of_false (fun all => ?_) fun ⟨legible,_⟩ => inside legible.inside
      obtain ⟨more,first⟩ := first_segment (raw ++ rest)
      unfold readPath at all
      rw [path_of_slash,List.splitOn_cons_eq_if_modifyHead,if_pos (beq_self_eq_true _),List.tail_cons,first,List.mapM_cons] at all
      cases read : unquote ((raw ++ rest).takeWhile staysInside) with
      | none => rw [read] at all; cases all
      | some shown =>
        rw [read] at all
        cases later : more.mapM unquote with
        | none => rw [later] at all; cases all
        | some others =>
          rw [later] at all
          cases all
          exact absurd (unquote_shorter read).1 (Nat.not_le.mpr (strays_shorter inside))
    · exact absurd legible.inside inside

def joined (parts : List (List Char × List Char)) : List Char := parts.flatMap fun p => '/' :: p.1

theorem joined_slashed (parts : List (List Char × List Char)) : Slashed (joined parts) := by
  cases parts with
  | nil => exact .inl rfl
  | cons p more => exact .inr ⟨p.1 ++ joined more,rfl⟩

theorem read_joined_iff (parts : List (List Char × List Char)) (written : ∀ p ∈ parts, p.1 = p.2 ∨ Legible p.1 p.2) :
    readPath (joined parts) = some (parts.map Prod.snd) ↔ ∀ p ∈ parts, Legible p.1 p.2 := by
  induction parts with
  | nil => exact iff_of_true rfl fun p member => nomatch member
  | cons p more ih =>
    obtain ⟨first,others⟩ := List.forall_mem_cons.mp written
    have step : readPath (joined (p :: more)) = some (p.2 :: more.map Prod.snd) ↔
        Legible p.1 p.2 ∧ readPath (joined more) = some (more.map Prod.snd) := read_segment first (joined_slashed more)
    rw [ih others] at step
    rw [List.forall_mem_cons]
    exact step

end LoomClient.Lib.Percent
