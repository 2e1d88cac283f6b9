import LoomClient.Lib.Json
import Mathlib.Data.Nat.Digits.Lemmas

namespace LoomClient.Lib.Json

-- The limits of the interpreter.
structure Limits where
  digits : Nat
  nesting : Nat

-- How `json.loads` raises: a JSONDecodeError, the plain ValueError of `int`, and a
-- RecursionError.
inductive Refusal where
  | decode
  | digits
  | recursion
  deriving DecidableEq, Repr

inductive Part where
  | zero
  | whole
  | point
  | fraction
  | exponent
  | sign
  | power
  deriving DecidableEq, Repr

structure Numeral where
  negative : Bool
  whole : List Nat
  isFloat : Bool
  literal : List Char

-- What the next part is when the number goes on with this character.
def Part.next (c : Char) : Part → Option Part
  | .zero => if c = '.' then some .point else if c = 'e' ∨ c = 'E' then some .exponent else none
  | .whole =>
    if c.isDigit then some .whole else if c = '.' then some .point
    else if c = 'e' ∨ c = 'E' then some .exponent else none
  | .point => if c.isDigit then some .fraction else none
  | .fraction => if c.isDigit then some .fraction else if c = 'e' ∨ c = 'E' then some .exponent else none
  | .exponent => if c.isDigit then some .power else if c = '+' ∨ c = '-' then some .sign else none
  | .sign => if c.isDigit then some .power else none
  | .power => if c.isDigit then some .power else none

-- At the other parts the number ends before the point or the exponent, which nothing can follow.
def Part.complete : Part → Bool
  | .point | .exponent | .sign => false
  | _ => true

def digit (c : Char) : Nat := c.toNat - '0'.toNat

def Numeral.read (n : Numeral) (part : Part) (c : Char) : Numeral :=
  { n with
    whole := if part = .whole then digit c :: n.whole else n.whole
    isFloat := n.isFloat || part = .fraction || part = .power
    literal := n.literal ++ [c] }

def Numeral.int (n : Numeral) : Int :=
  let magnitude : Nat := Nat.ofDigits 10 n.whole
  if n.negative then -magnitude else magnitude

def Numeral.value (limits : Limits) (n : Numeral) : Except Refusal Json :=
  if n.isFloat then .ok (.float n.literal)
  else if limits.digits < n.whole.length then .error .digits
  else .ok (.int n.int)

-- An array or an object that is still open, an object with the key whose value is read.
inductive Container where
  | arr (items : List Json)
  | obj (entries : List (Text × Json)) (key : Text)

-- `first` and `firstKey` come right after the bracket, `nextKey` after a comma.
inductive Mode where
  | value
  | first
  | firstKey
  | nextKey
  | string (key : Bool) (read : Text)
  | escape (key : Bool) (read : Text)
  | hex (key : Bool) (read : Text) (code : Nat) (left : Nat)
  | colon
  | word (left : List Char) (v : Json)
  | minus
  | number (part : Part) (n : Numeral)
  | after
  | done (v : Json)

structure Scanner where
  mode : Mode
  stack : List Container

def isSpace (c : Char) : Bool := c = ' ' || c = '\t' || c = '\n' || c = '\r'

-- A value is complete: the container around it takes it in.
def put (stack : List Container) (v : Json) : Scanner :=
  match stack with
  | [] => ⟨.done v,[]⟩
  | .arr items :: rest => ⟨.after,.arr (items ++ [v]) :: rest⟩
  | .obj entries key :: rest => ⟨.after,.obj (setItem entries key v) key :: rest⟩

def setKey (stack : List Container) (key : Text) : Except Refusal Scanner :=
  match stack with
  | .obj entries _ :: rest => .ok ⟨.colon,.obj entries key :: rest⟩
  | _ => .error .decode

def isHighSurrogate (code : Nat) : Bool := 0xD800 ≤ code && code ≤ 0xDBFF
def isLowSurrogate (code : Nat) : Bool := 0xDC00 ≤ code && code ≤ 0xDFFF

-- The escape of a low surrogate joins the high one right before it.
def pushCode (read : Text) (code : Nat) : Text :=
  match read with
  | high :: rest =>
    if isHighSurrogate high && isLowSurrogate code then
      (0x10000 + ((high - 0xD800) * 0x400 + (code - 0xDC00))) :: rest
    else code :: read
  | [] => [code]

def hexDigit (c : Char) : Option Nat :=
  if c.isDigit then some (digit c)
  else if 'a' ≤ c ∧ c ≤ 'f' then some (c.toNat - 'a'.toNat + 10)
  else if 'A' ≤ c ∧ c ≤ 'F' then some (c.toNat - 'A'.toNat + 10)
  else none

def escaped (c : Char) : Option Nat :=
  match c with
  | '"' => some 0x22
  | '\\' => some 0x5C
  | '/' => some 0x2F
  | 'b' => some 0x08
  | 'f' => some 0x0C
  | 'n' => some 0x0A
  | 'r' => some 0x0D
  | 't' => some 0x09
  | _ => none

def startNumeral (stack : List Container) (negative : Bool) (c : Char) : Except Refusal Scanner :=
  if c = '0' then .ok ⟨.number .zero ⟨negative,[0],false,if negative then ['-',c] else [c]⟩,stack⟩
  else if c.isDigit then .ok ⟨.number .whole ⟨negative,[digit c],false,if negative then ['-',c] else [c]⟩,stack⟩
  else .error .decode

def startValue (limits : Limits) (stack : List Container) (c : Char) : Except Refusal Scanner :=
  match c with
  | '"' => .ok ⟨.string false [],stack⟩
  | '{' => if limits.nesting ≤ stack.length then .error .recursion else .ok ⟨.firstKey,.obj [] [] :: stack⟩
  | '[' => if limits.nesting ≤ stack.length then .error .recursion else .ok ⟨.first,.arr [] :: stack⟩
  | 'n' => .ok ⟨.word "ull".toList .null,stack⟩
  | 't' => .ok ⟨.word "rue".toList (.bool true),stack⟩
  | 'f' => .ok ⟨.word "alse".toList (.bool false),stack⟩
  | 'N' => .ok ⟨.word "aN".toList (.float "NaN".toList),stack⟩
  | 'I' => .ok ⟨.word "nfinity".toList (.float "Infinity".toList),stack⟩
  | '-' => .ok ⟨.minus,stack⟩
  | _ => startNumeral stack false c

def startKey (stack : List Container) (c : Char) : Except Refusal Scanner :=
  if c = '"' then .ok ⟨.string true [],stack⟩ else .error .decode

def closeContainer (stack : List Container) (c : Char) : Except Refusal Scanner :=
  match stack with
  | .arr items :: rest => if c = ']' then .ok (put rest (.arr items)) else .error .decode
  | .obj entries _ :: rest => if c = '}' then .ok (put rest (.obj entries)) else .error .decode
  | [] => .error .decode

def afterValue (stack : List Container) (c : Char) : Except Refusal Scanner :=
  if isSpace c then .ok ⟨.after,stack⟩
  else match stack,c with
  | .arr items :: rest,',' => .ok ⟨.value,.arr items :: rest⟩
  | .obj entries key :: rest,',' => .ok ⟨.nextKey,.obj entries key :: rest⟩
  | stack,c => closeContainer stack c

def follow (s : Scanner) (c : Char) : Except Refusal Scanner :=
  match s.mode with
  | .done v => if isSpace c then .ok ⟨.done v,s.stack⟩ else .error .decode
  | _ => afterValue s.stack c

def endString (key : Bool) (read : Text) (stack : List Container) : Except Refusal Scanner :=
  if key then setKey stack read.reverse else .ok (put stack (.str read.reverse))

def scan (limits : Limits) (s : Scanner) (c : Char) : Except Refusal Scanner :=
  match s.mode with
  | .value => if isSpace c then .ok s else startValue limits s.stack c
  | .first =>
    if isSpace c then .ok s else if c = ']' then closeContainer s.stack c
    else startValue limits s.stack c
  | .firstKey =>
    if isSpace c then .ok s else if c = '}' then closeContainer s.stack c
    else startKey s.stack c
  | .nextKey => if isSpace c then .ok s else startKey s.stack c
  | .string key read =>
    if c = '"' then endString key read s.stack
    else if c = '\\' then .ok ⟨.escape key read,s.stack⟩
    else if c.toNat ≤ 0x1F then .error .decode
    else .ok ⟨.string key (c.toNat :: read),s.stack⟩
  | .escape key read =>
    if c = 'u' then .ok ⟨.hex key read 0 4,s.stack⟩
    else match escaped c with
    | some code => .ok ⟨.string key (code :: read),s.stack⟩
    | none => .error .decode
  | .hex key read code left => match hexDigit c with
    | some d =>
      if left ≤ 1 then .ok ⟨.string key (pushCode read (code * 16 + d)),s.stack⟩
      else .ok ⟨.hex key read (code * 16 + d) (left - 1),s.stack⟩
    | none => .error .decode
  | .colon => if isSpace c then .ok s else if c = ':' then .ok ⟨.value,s.stack⟩ else .error .decode
  | .word left v => match left with
    | l :: rest =>
      if c ≠ l then .error .decode
      else if rest = [] then .ok (put s.stack v) else .ok ⟨.word rest v,s.stack⟩
    | [] => .error .decode
  | .minus => if c = 'I' then .ok ⟨.word "nfinity".toList (.float "-Infinity".toList),s.stack⟩ else startNumeral s.stack true c
  | .number part n => match part.next c with
    | some next => .ok ⟨.number next (n.read next c),s.stack⟩
    | none => do
      let v ← n.value limits
      if part.complete then follow (put s.stack v) c else .error .decode
  | .after | .done _ => follow s c

def finish (limits : Limits) (s : Scanner) : Except Refusal Json :=
  match s.mode with
  | .done v => .ok v
  | .number part n => do
    let v ← n.value limits
    if part.complete && s.stack.isEmpty then .ok v else .error .decode
  | _ => .error .decode

def scanAll (limits : Limits) : List Char → Scanner → Except Refusal Scanner
  | [],s => .ok s
  | c :: rest,s => do scanAll limits rest (← scan limits s c)

def loads (limits : Limits) (raw : List Char) : Except Refusal Json := do
  finish limits (← scanAll limits raw ⟨.value,[]⟩)

theorem digit_lt (isDigit : c.isDigit = true) : digit c < 10 := by
  obtain ⟨above,below⟩ : 48 ≤ c.toNat ∧ c.toNat ≤ 57 := by
    simpa [Char.isDigit,UInt32.le_iff_toNat_le] using isDigit
  simp only [digit,show '0'.toNat = 48 from rfl]
  omega

-- A value with so many containers around it keeps to the limits.
def Modest (limits : Limits) (outside : Nat) (v : Json) : Prop :=
  depth v + outside ≤ limits.nesting ∧ intsWithin limits.digits v = true

def Container.Modest (limits : Limits) (outside : Nat) : Container → Prop
  | .arr items => ∀ item ∈ items, Json.Modest limits outside item
  | .obj entries _ => ∀ entry ∈ entries, Json.Modest limits outside entry.2

def StackModest (limits : Limits) : List Container → Prop
  | [] => True
  | c :: rest => rest.length < limits.nesting ∧ c.Modest limits (rest.length + 1) ∧ StackModest limits rest

def ModeModest (limits : Limits) : Mode → Prop
  | .done v => Modest limits 0 v
  | .word _ v => depth v = 0 ∧ intsWithin limits.digits v = true
  | .number _ n => ∀ d ∈ n.whole, d < 10
  | _ => True

structure Scanner.Modest (limits : Limits) (s : Scanner) : Prop where
  stack : StackModest limits s.stack
  mode : ModeModest limits s.mode

section Bounds
variable {limits : Limits}

theorem stack_length_le (modest : StackModest limits stack) : stack.length ≤ limits.nesting := by
  cases stack with
  | nil => exact Nat.zero_le _
  | cons c rest => exact modest.1

theorem flat_modest (modest : StackModest limits stack) (flat : depth v = 0)
    (ints : intsWithin limits.digits v = true) : Modest limits stack.length v := by
  refine ⟨?_,ints⟩
  have := stack_length_le modest
  omega

theorem container_modest (room : outside < limits.nesting)
    (modest : Container.Modest limits (outside + 1) c) :
    Modest limits outside (match c with
      | .arr items => .arr items
      | .obj entries _ => .obj entries) := by
  cases c with
  | arr items =>
    have flat : itemsDepth items ≤ limits.nesting - (outside + 1) :=
      items_depth_le.mpr fun item member => Nat.le_sub_of_add_le (modest item member).1
    refine ⟨?_,items_within_iff.mpr fun item member => (modest item member).2⟩
    simp only [depth]
    omega
  | obj entries key =>
    have flat : entriesDepth entries ≤ limits.nesting - (outside + 1) :=
      entries_depth_le.mpr fun entry member => Nat.le_sub_of_add_le (modest entry member).1
    refine ⟨?_,entries_within_iff.mpr fun entry member => (modest entry member).2⟩
    simp only [depth]
    omega

theorem put_modest (stacked : StackModest limits stack) (modest : Modest limits stack.length v) :
    (put stack v).Modest limits := by
  cases stack with
  | nil => exact ⟨trivial,modest⟩
  | cons c rest =>
    obtain ⟨room,held,outer⟩ := stacked
    cases c with
    | arr items =>
      refine ⟨⟨room,?_,outer⟩,trivial⟩
      intro item member
      rcases List.mem_append.mp member with old | new
      · exact held item old
      · rw [List.mem_singleton.mp new]
        exact modest
    | obj entries key =>
      refine ⟨⟨room,?_,outer⟩,trivial⟩
      intro entry member
      rcases set_item_mem member with new | old
      · rw [new]
        exact modest
      · exact held entry old

theorem numeral_value_modest (stacked : StackModest limits stack) (digits : ∀ d ∈ n.whole, d < 10)
    (read : Numeral.value limits n = .ok v) : Modest limits stack.length v := by
  unfold Numeral.value at read
  split at read
  · cases read
    exact flat_modest stacked rfl rfl
  · split at read
    · cases read
    · rename_i short
      cases read
      refine flat_modest stacked rfl ?_
      have below : Nat.ofDigits 10 n.whole < 10 ^ n.whole.length :=
        Nat.ofDigits_lt_base_pow_length (by decide) digits
      have bound : 10 ^ n.whole.length ≤ 10 ^ limits.digits :=
        Nat.pow_le_pow_right (by decide) (Nat.le_of_not_lt short)
      have magnitude : n.int.natAbs = Nat.ofDigits 10 n.whole := by
        simp only [Numeral.int]
        split <;> omega
      simpa only [intsWithin,magnitude,decide_eq_true_eq] using Nat.lt_of_lt_of_le below bound

theorem close_modest (stacked : StackModest limits stack) (closed : closeContainer stack c = .ok s) :
    s.Modest limits := by
  cases stack with
  | nil => cases closed
  | cons top rest =>
    obtain ⟨room,held,outer⟩ := stacked
    have whole := container_modest room held
    cases top <;> simp only [closeContainer] at closed <;> split at closed <;> cases closed <;>
      exact put_modest outer whole

theorem after_modest (stacked : StackModest limits stack) (moved : afterValue stack c = .ok s) :
    s.Modest limits := by
  unfold afterValue at moved
  split at moved
  · cases moved
    exact ⟨stacked,trivial⟩
  · split at moved
    · cases moved
      exact ⟨stacked,trivial⟩
    · cases moved
      exact ⟨stacked,trivial⟩
    · exact close_modest stacked moved

theorem follow_modest (modest : Scanner.Modest limits s) (moved : follow s c = .ok t) : t.Modest limits := by
  unfold follow at moved
  split at moved
  · rename_i v done
    split at moved
    · cases moved
      exact ⟨modest.stack,by simpa only [done] using modest.mode⟩
    · cases moved
  · exact after_modest modest.stack moved

theorem start_numeral_modest (stacked : StackModest limits stack)
    (moved : startNumeral stack negative c = .ok s) : s.Modest limits := by
  unfold startNumeral at moved
  split at moved
  · cases moved
    exact ⟨stacked,by simp [ModeModest]⟩
  · split at moved
    · rename_i isDigit
      cases moved
      exact ⟨stacked,by simpa [ModeModest] using digit_lt isDigit⟩
    · cases moved

theorem opened_modest (stacked : StackModest limits stack) (room : ¬limits.nesting ≤ stack.length)
    (empty : Container.Modest limits (stack.length + 1) c) : StackModest limits (c :: stack) :=
  ⟨Nat.lt_of_not_le room,empty,stacked⟩

theorem start_value_modest (stacked : StackModest limits stack)
    (moved : startValue limits stack c = .ok s) : s.Modest limits := by
  unfold startValue at moved
  split at moved
  case h_2 =>
    split at moved
    · cases moved
    · rename_i room
      cases moved
      exact ⟨opened_modest stacked room (by intro entry member; cases member),trivial⟩
  case h_3 =>
    split at moved
    · cases moved
    · rename_i room
      cases moved
      exact ⟨opened_modest stacked room (by intro item member; cases member),trivial⟩
  case h_10 => exact start_numeral_modest stacked moved
  all_goals
    cases moved
    exact ⟨stacked,by trivial⟩

theorem start_key_modest (stacked : StackModest limits stack) (moved : startKey stack c = .ok s) :
    s.Modest limits := by
  unfold startKey at moved
  split at moved
  · cases moved
    exact ⟨stacked,trivial⟩
  · cases moved

theorem end_string_modest (stacked : StackModest limits stack)
    (moved : endString key written stack = .ok s) : s.Modest limits := by
  unfold endString at moved
  split at moved
  · cases stack with
    | nil => cases moved
    | cons top rest =>
      obtain ⟨room,held,outer⟩ := stacked
      cases top with
      | arr items => cases moved
      | obj entries old =>
        cases moved
        exact ⟨⟨room,held,outer⟩,trivial⟩
  · cases moved
    exact put_modest stacked (flat_modest stacked rfl rfl)

theorem numeral_read_digits (digits : ∀ d ∈ n.whole, d < 10) (next : Part.next c part = some after) :
    ∀ d ∈ (Numeral.read n after c).whole, d < 10 := by
  intro d member
  simp only [Numeral.read] at member
  split at member
  · rename_i whole
    rcases List.mem_cons.mp member with rfl | old
    · refine digit_lt ?_
      rw [whole] at next
      cases part <;> simp only [Part.next] at next <;> grind
    · exact digits d old
  · exact digits d member

theorem scan_modest (modest : Scanner.Modest limits s) (moved : scan limits s c = .ok t) : t.Modest limits := by
  obtain ⟨stacked,mode⟩ := modest
  unfold scan at moved
  split at moved
  case h_1 =>
    split at moved
    · cases moved
      exact ⟨stacked,mode⟩
    · exact start_value_modest stacked moved
  case h_2 =>
    split at moved
    · cases moved
      exact ⟨stacked,mode⟩
    · split at moved
      · exact close_modest stacked moved
      · exact start_value_modest stacked moved
  case h_3 =>
    split at moved
    · cases moved
      exact ⟨stacked,mode⟩
    · split at moved
      · exact close_modest stacked moved
      · exact start_key_modest stacked moved
  case h_4 =>
    split at moved
    · cases moved
      exact ⟨stacked,mode⟩
    · exact start_key_modest stacked moved
  case h_5 =>
    split at moved
    · exact end_string_modest stacked moved
    · repeat' split at moved
      all_goals cases moved
      all_goals exact ⟨stacked,trivial⟩
  case h_6 =>
    repeat' split at moved
    all_goals cases moved
    all_goals exact ⟨stacked,trivial⟩
  case h_7 =>
    repeat' split at moved
    all_goals cases moved
    all_goals exact ⟨stacked,trivial⟩
  case h_8 =>
    repeat' split at moved
    all_goals cases moved
    all_goals first | exact ⟨stacked,trivial⟩ | exact ⟨stacked,mode⟩
  case h_9 left v word =>
    rw [word] at mode
    obtain ⟨flat,ints⟩ := mode
    repeat' split at moved
    all_goals cases moved
    · exact put_modest stacked (flat_modest stacked flat ints)
    · exact ⟨stacked,flat,ints⟩
  case h_10 =>
    split at moved
    · cases moved
      exact ⟨stacked,rfl,rfl⟩
    · exact start_numeral_modest stacked moved
  case h_11 part n number =>
    rw [number] at mode
    split at moved
    · rename_i next going
      cases moved
      exact ⟨stacked,numeral_read_digits mode going⟩
    · cases read : n.value limits with
      | error refusal =>
        rw [read] at moved
        cases moved
      | ok v =>
        rw [read] at moved
        simp only [bind,Except.bind] at moved
        split at moved
        · exact follow_modest (put_modest stacked (numeral_value_modest stacked mode read)) moved
        · cases moved
  all_goals exact follow_modest ⟨stacked,mode⟩ moved

theorem scan_all_modest (modest : Scanner.Modest limits s) (moved : scanAll limits raw s = .ok t) :
    t.Modest limits := by
  induction raw generalizing s with
  | nil =>
    cases moved
    exact modest
  | cons c rest ih =>
    simp only [scanAll] at moved
    cases one : scan limits s c with
    | error refusal =>
      rw [one] at moved
      cases moved
    | ok next =>
      rw [one] at moved
      exact ih (scan_modest modest one) moved

-- Whatever the decoder returns is no deeper than the decoder goes.
theorem loads_modest (loaded : loads limits raw = .ok v) :
    depth v ≤ limits.nesting ∧ intsWithin limits.digits v = true := by
  unfold loads at loaded
  cases read : scanAll limits raw ⟨.value,[]⟩ with
  | error refusal =>
    rw [read] at loaded
    cases loaded
  | ok s =>
    rw [read] at loaded
    have blank : Scanner.Modest limits ⟨.value,[]⟩ := ⟨trivial,trivial⟩
    obtain ⟨stacked,mode⟩ := scan_all_modest blank read
    simp only [bind,Except.bind] at loaded
    unfold finish at loaded
    split at loaded
    case h_1 done =>
      cases loaded
      rw [done] at mode
      exact mode
    case h_2 part n number =>
      rw [number] at mode
      cases value : n.value limits with
      | error refusal =>
        rw [value] at loaded
        cases loaded
      | ok w =>
        rw [value] at loaded
        simp only [bind,Except.bind] at loaded
        split at loaded
        · cases loaded
          have modest := numeral_value_modest stacked mode value
          exact ⟨Nat.le_trans (Nat.le_add_right _ _) modest.1,modest.2⟩
        · cases loaded
    case h_3 => cases loaded

end Bounds

structure Limits.Wider (free limits : Limits) : Prop where
  digits : limits.digits ≤ free.digits
  nesting : limits.nesting ≤ free.nesting

def Unlimited {τ : Type} : Except Refusal τ → Prop
  | .error .digits | .error .recursion => False
  | _ => True

section Wider
variable {limits free : Limits}

theorem value_wider (wider : Limits.Wider free limits) (settled : Unlimited (Numeral.value limits n)) :
    n.value free = n.value limits := by
  unfold Numeral.value at settled ⊢
  split
  · rfl
  · rename_i whole
    rw [if_neg whole] at settled
    by_cases long : limits.digits < n.whole.length
    · rw [if_pos long] at settled
      exact settled.elim
    · have short : ¬free.digits < n.whole.length := by
        have := wider.digits
        omega
      rw [if_neg long,if_neg short]

theorem start_value_wider (wider : Limits.Wider free limits) (settled : Unlimited (startValue limits stack c)) :
    startValue free stack c = startValue limits stack c := by
  have deeper : ¬limits.nesting ≤ stack.length → ¬free.nesting ≤ stack.length := by
    have := wider.nesting
    omega
  unfold startValue at settled ⊢
  split at settled
  case h_2 | h_3 =>
    by_cases deep : limits.nesting ≤ stack.length
    · rw [if_pos deep] at settled
      exact settled.elim
    · simp only [if_neg deep,if_neg (deeper deep)]
  all_goals rfl

theorem unlimited_bind {τ υ : Type} {m : Except Refusal τ} {next : τ → Except Refusal υ}
    (settled : Unlimited (m >>= next)) : Unlimited m := by
  cases m with
  | ok v => trivial
  | error refusal => cases refusal <;> trivial

theorem scan_wider (wider : Limits.Wider free limits) (settled : Unlimited (scan limits s c)) :
    scan free s c = scan limits s c := by
  unfold scan at settled ⊢
  split at settled
  case h_1 =>
    by_cases space : isSpace c = true
    · simp only [space,if_true]
    · simp only [space,Bool.false_eq_true,if_false] at settled ⊢
      exact start_value_wider wider settled
  case h_2 =>
    by_cases space : isSpace c = true
    · simp only [space,if_true]
    · by_cases closed : c = ']'
      · simp only [closed,if_true]
      · simp only [space,closed,Bool.false_eq_true,if_false] at settled ⊢
        exact start_value_wider wider settled
  case h_11 part n number =>
    split at settled
    · rfl
    · rw [value_wider wider (unlimited_bind settled)]
  all_goals rfl

theorem scan_all_wider (wider : Limits.Wider free limits) (settled : Unlimited (scanAll limits raw s)) :
    scanAll free raw s = scanAll limits raw s := by
  induction raw generalizing s with
  | nil => rfl
  | cons c rest ih =>
    simp only [scanAll] at settled ⊢
    rw [scan_wider wider (unlimited_bind settled)]
    cases moved : scan limits s c with
    | error refusal => rfl
    | ok next =>
      rw [moved] at settled
      exact ih settled

theorem finish_wider (wider : Limits.Wider free limits) (settled : Unlimited (finish limits s)) :
    finish free s = finish limits s := by
  unfold finish at settled ⊢
  split at settled
  case h_2 part n number => rw [value_wider wider (unlimited_bind settled)]
  all_goals rfl

theorem loads_wider (wider : Limits.Wider free limits) (settled : Unlimited (loads limits raw)) :
    loads free raw = loads limits raw := by
  unfold loads at settled ⊢
  rw [scan_all_wider wider (unlimited_bind settled)]
  cases moved : scanAll limits raw ⟨.value,[]⟩ with
  | error refusal => rfl
  | ok s =>
    rw [moved] at settled
    exact finish_wider wider settled

end Wider
theorem digits_read (limits : Limits) (stack : List Container) (n : Numeral) (integer : n.isFloat = false) (digits : ∀ c ∈ raw, c.isDigit = true) :
    ∃ m, scanAll limits raw ⟨.number .whole n,stack⟩ = .ok ⟨.number .whole m,stack⟩ ∧ m.isFloat = false ∧
      m.whole.length = n.whole.length + raw.length := by
  induction raw generalizing n with
  | nil => exact ⟨n,rfl,integer,rfl⟩
  | cons c rest ih =>
    have isDigit := digits c List.mem_cons_self
    obtain ⟨m,read,whole,length⟩ := ih (n.read .whole c) (by simp [Numeral.read,integer])
      (fun d member => digits d (List.mem_cons_of_mem c member))
    refine ⟨m,?_,whole,?_⟩
    · have one : scan limits ⟨.number .whole n,stack⟩ c = .ok ⟨.number .whole (n.read .whole c),stack⟩ := by
        simp [scan,Part.next,isDigit]
      rw [scanAll,one]
      exact read
    · rw [length]
      simp only [Numeral.read,if_true,List.length_cons]
      omega

theorem long_integer_refused (limits : Limits) (digits : ∀ c ∈ raw, c.isDigit = true) (long : limits.digits < raw.length + 1) :
    loads limits ('1' :: raw) = .error .digits := by
  obtain ⟨m,read,whole,length⟩ := digits_read limits [] ⟨false,[1],false,['1']⟩ rfl digits
  have first : scan limits ⟨.value,[]⟩ '1' = .ok ⟨.number .whole ⟨false,[1],false,['1']⟩,[]⟩ := rfl
  have refused : m.value limits = .error .digits := by
    simp only [Numeral.value,whole,Bool.false_eq_true,if_false,length,List.length_singleton]
    exact if_pos (by omega)
  unfold loads scanAll
  simp only [first,bind,Except.bind,read,finish,refused]

end LoomClient.Lib.Json
