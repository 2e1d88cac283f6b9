import LoomClient.Lib.PercentEncoding
import LoomClient.Lib.Text
import LoomClient.Operations.Table

namespace LoomClient.Operations
open Lib.Percent

-- The keyword arguments of a call, each as text.
abbrev Arguments := String → String

def quote (s : String) : String := String.ofList (quoteChars s.toList)

def Piece.written (args : Arguments) : Piece → String
  | .lit text => text
  | .quoted name => quote (args name)
  | .bare name => args name
  | .number name => args name

-- What the daemon is to find in the segment.
def Piece.meant (args : Arguments) : Piece → String
  | .lit text => text
  | .quoted name => args name
  | .bare name => args name
  | .number name => args name

def Piece.names : Piece → List String
  | .lit _ => []
  | .quoted name => [name]
  | .bare name => [name]
  | .number name => [name]

def Operation.target (o : Operation) (args : Arguments) : String :=
  String.join (o.path.map fun p => "/" ++ p.written args)

def Operation.meant (o : Operation) (args : Arguments) : List (List Char) := o.path.map fun p => (p.meant args).toList

def Operation.names (o : Operation) : List String := o.path.flatMap Piece.names

def plainChar (c : Char) : Bool := staysInside c && c != '%'

def plain (s : String) : Bool := s.toList.all plainChar

def Operation.Numbered (o : Operation) (args : Arguments) : Prop := ∀ name, .number name ∈ o.path → ∃ i : Int, args name = toString i

def Operation.Plain (o : Operation) (args : Arguments) : Prop := ∀ name, .bare name ∈ o.path → plain (args name) = true

-- The characters that end a segment or begin an escape are one byte each.
def clearByte (b : UInt8) : Bool := b != 47 && b != 63 && b != 35 && b != 37

def Method.command (m : Method) : Bool := m == .post || m == .patch

def methods : List Method := [.get,.put,.post,.patch,.delete]

def spelling (s : String) : Nat := s.toByteArray.data.toList.foldl (fun n b => 256 * n + b.toNat) 0

-- Two paths that no arguments make the same: one is longer, or they differ in a fixed text.
def parted : List Piece → List Piece → Bool
  | [],[] => false
  | [],_ :: _ => true
  | _ :: _,[] => true
  | .lit s :: more,.lit t :: others => spelling s != spelling t || parted more others
  | _ :: more,_ :: others => parted more others

def apart (o p : Operation) : Bool := parted o.path p.path || o.path == p.path

def allApart : List Operation → Bool
  | [] => true
  | o :: rest => rest.all (apart o) && allApart rest

def peers (m : Method) (n : Nat) : List Operation := (operations.filter (·.method = m)).filter (·.path.length = n)

def Operation.retries (o : Operation) : Bool := match o.via with
  | .request allowRetry => Transport.retries o.method.text allowRetry
  | .requestBytes | .requestUpload => false

-- The operations outside of GET, PUT and DELETE that are sent again after a failure.
def repeated : List Operation := [
  AlarmOperations.stopWalkTest,DataPointsOperations.batchRead,HubOperations.setProgramEnabled,
  HubOperations.updateSysvarMetadata,HubOperations.ackAlarmMessage,HubOperations.ackServiceMessage]

def Piece.clear : Piece → Bool
  | .lit text => text.toByteArray.data.toList.all clearByte
  | _ => true

theorem operations_checked :
    (∀ o ∈ operations, o.path.all Piece.clear = true ∧ o.path.length < 8 ∧
      (o.method.command = false → o.via ≠ .request (some false))) ∧
    (∀ m ∈ methods, ((List.range 8).all fun n => allApart (peers m n)) = true ∧
      Transport.retries m.text none = !m.command) ∧
    (operations.filter fun o => o.method.command && o.via == .request (some true)) = repeated := by decide +kernel

theorem methods_all (m : Method) : m ∈ methods := by
  cases m <;> simp [methods]

theorem plain_of_bytes (clear : s.toByteArray.data.toList.all clearByte = true) : plain s = true := by
  refine List.all_eq_true.mpr fun c member => ?_
  have bytes : s.toByteArray.data.toList = s.toList.flatMap String.utf8EncodeChar := by
    rw [← String.utf8Encode_toList,List.utf8Encode,List.data_toByteArray]
  have apart : ∀ d b, String.utf8EncodeChar d = [b] → clearByte b = false → c ≠ d := by
    rintro d b encoded taken rfl
    have shown : b ∈ s.toByteArray.data.toList := by
      rw [bytes]
      exact List.mem_flatMap.mpr ⟨c,member,encoded ▸ List.mem_singleton_self b⟩
    have kept := List.all_eq_true.mp clear b shown
    rw [taken] at kept
    cases kept
  have slash := apart '/' 47 rfl rfl
  have query := apart '?' 63 rfl rfl
  have fragment := apart '#' 35 rfl rfl
  have percent := apart '%' 37 rfl rfl
  simp [plainChar,staysInside,slash,query,fragment,percent]

theorem fixed_plain : ∀ o ∈ operations, ∀ p ∈ o.path, ∀ text, p = .lit text → plain text = true := by
  intro o member p held text same
  have piece := List.all_eq_true.mp (operations_checked.1 o member).1 p held
  subst same
  exact plain_of_bytes piece

theorem number_plain (i : Int) : plain (toString i) = true := by
  refine List.all_eq_true.mpr fun c member => ?_
  rcases Lib.Text.toString_chars i c member with digit | rfl
  · have apart : ∀ d : Char, d.isDigit = false → c ≠ d := fun d other same => by
      rw [same,other] at digit
      cases digit
    have slash := apart '/' rfl
    have query := apart '?' rfl
    have fragment := apart '#' rfl
    have percent := apart '%' rfl
    simp [plainChar,staysInside,slash,query,fragment,percent]
  · rfl

theorem plain_iff (s : String) : plain s = true ↔ Legible s.toList s.toList := by
  rw [plain_legible_iff]
  simp only [plain,plainChar,List.all_eq_true,Bool.and_eq_true,bne_iff_ne]

def Operation.parts (o : Operation) (args : Arguments) : List (List Char × List Char) :=
  o.path.map fun p => ((p.written args).toList,(p.meant args).toList)

theorem target_joined (o : Operation) (args : Arguments) : (o.target args).toList = joined (o.parts args) := by
  unfold Operation.target Operation.parts joined
  rw [List.flatMap_map]
  generalize o.path = path
  induction path with
  | nil => rfl
  | cons p more ih =>
    rw [List.map_cons,String.join_cons,String.toList_append,String.toList_append,ih,List.flatMap_cons]
    rfl

theorem meant_parts (o : Operation) (args : Arguments) : (o.parts args).map Prod.snd = o.meant args := by
  unfold Operation.parts Operation.meant
  rw [List.map_map]
  rfl

theorem piece_written (p : Piece) (args : Arguments) :
    (p.written args).toList = (p.meant args).toList ∨ Legible (p.written args).toList (p.meant args).toList := by
  cases p with
  | lit | bare | number => exact .inl rfl
  | quoted name =>
    refine .inr ?_
    simp only [Piece.written,Piece.meant,quote,String.toList_ofList]
    exact quoted_legible _

theorem parts_legible_iff (member : o ∈ operations) (numbered : o.Numbered args) :
    (∀ part ∈ o.parts args, Legible part.1 part.2) ↔ o.Plain args := by
  constructor
  · intro legible name bare
    exact (plain_iff _).mpr (legible _ (List.mem_map_of_mem bare))
  · intro plain part shown
    obtain ⟨p,held,rfl⟩ := List.mem_map.mp shown
    cases p with
    | lit text => exact (plain_iff text).mp (fixed_plain o member _ held text rfl)
    | quoted name =>
      simp only [Piece.written,Piece.meant,quote,String.toList_ofList]
      exact quoted_legible _
    | bare name => exact (plain_iff _).mp (plain name held)
    | number name =>
      obtain ⟨i,written⟩ := numbered name held
      have digits := number_plain i
      rw [← written] at digits
      exact (plain_iff _).mp digits

-- Whatever the quoted arguments hold, if and only if the others hold nothing special.
theorem target_read_iff (member : o ∈ operations) (numbered : o.Numbered args) :
    readPath (o.target args).toList = some (o.meant args) ↔ o.Plain args := by
  rw [target_joined,← meant_parts,← parts_legible_iff member numbered]
  refine read_joined_iff (o.parts args) fun part shown => ?_
  obtain ⟨p,_,rfl⟩ := List.mem_map.mp shown
  exact piece_written p args

theorem all_apart_pairwise (apart : allApart table = true) : table.Pairwise fun o p => Operations.apart o p = true := by
  induction table with
  | nil => exact .nil
  | cons o rest ih =>
    rw [allApart,Bool.and_eq_true_iff] at apart
    exact .cons (List.all_eq_true.mp apart.1) (ih apart.2)

theorem peers_apart (m : Method) (n : Nat) (short : n < 8) : (peers m n).Pairwise fun o p => apart o p = true := by
  exact all_apart_pairwise (List.all_eq_true.mp (operations_checked.2.1 m (methods_all m)).1 n (List.mem_range.mpr short))

theorem parted_of_length (longer : path.length ≠ other.length) : parted path other = true := by
  fun_induction parted path other with
  | case1 => exact absurd rfl longer
  | case2 | case3 => rfl
  | case4 s more t others ih => exact Bool.or_eq_true_iff.mpr (.inr (ih fun same => longer (congrArg (· + 1) same)))
  | case5 p more q others fixed ih => exact ih fun same => longer (congrArg (· + 1) same)

theorem parted_meant (parted : parted path other = true) :
    (path.map fun p => (p.meant args).toList) ≠ other.map fun p => (p.meant args').toList := by
  fun_induction Operations.parted path other with
  | case1 => cases parted
  | case2 | case3 => intro same; cases same
  | case4 s more t others ih =>
    intro same
    obtain ⟨first,later⟩ := List.cons.inj same
    rcases Bool.or_eq_true_iff.mp parted with differs | deeper
    · exact absurd (congrArg spelling (String.toList_inj.mp first)) (bne_iff_ne.mp differs)
    · exact ih deeper later
  | case5 p more q others fixed ih =>
    intro same
    exact ih parted (List.cons.inj same).2

theorem parted_symm (apart : parted path other = true) : parted other path = true := by
  fun_induction Operations.parted path other with
  | case1 => cases apart
  | case2 => rfl
  | case3 => rfl
  | case4 s more t others ih =>
    rw [parted,Bool.or_eq_true_iff,bne_iff_ne]
    rcases Bool.or_eq_true_iff.mp apart with differs | deeper
    · exact .inl (Ne.symm (bne_iff_ne.mp differs))
    · exact .inr (ih deeper)
  | case5 p more q others fixed ih =>
    rw [parted]
    · exact ih apart
    · exact fun s t left right => fixed t s right left

theorem operations_told_apart (left : o ∈ operations) (right : p ∈ operations) (method : o.method = p.method) :
    parted o.path p.path = true ∨ o.path = p.path := by
  by_cases level : o.path.length = p.path.length
  · have member : ∀ {q}, q ∈ operations → q.method = p.method → q.path.length = p.path.length →
        q ∈ peers p.method p.path.length := by
      intro q listed method level
      simp [peers,listed,method,level]
    have symmetric : ∀ {o p}, apart o p = true → apart p o = true := by
      intro o p told
      simp only [apart,Bool.or_eq_true,beq_iff_eq] at told ⊢
      exact told.imp parted_symm Eq.symm
    have alike : ∀ q ∈ peers p.method p.path.length, apart q q = true := fun q _ => by simp [apart]
    have told := peers_apart p.method p.path.length (operations_checked.1 p right).2.1
    have pair := List.Pairwise.forall_of_forall_of_flip alike told (told.imp symmetric) (member left method level)
      (member right rfl rfl)
    simpa only [apart,Bool.or_eq_true,beq_iff_eq] using pair
  · exact .inl (parted_of_length level)

-- A request reaches the resource it was made for and no other.
theorem target_names_call (left : o ∈ operations) (right : p ∈ operations) (method : o.method = p.method)
    (numbered : o.Numbered args) (numbered' : p.Numbered args') (plain : o.Plain args) (plain' : p.Plain args')
    (same : o.target args = p.target args') : o.path = p.path ∧ ∀ name ∈ o.names, args name = args' name := by
  have read := (target_read_iff left numbered).mpr plain
  have read' := (target_read_iff right numbered').mpr plain'
  rw [same,read'] at read
  have meant : o.meant args = p.meant args' := (Option.some.inj read).symm
  rcases operations_told_apart left right method with parts | path
  · exact absurd meant (parted_meant parts)
  · refine ⟨path,fun name named => ?_⟩
    unfold Operation.meant at meant
    rw [← path] at meant
    obtain ⟨piece,held,names⟩ := List.mem_flatMap.mp named
    have texts := String.toList_inj.mp (List.map_inj_left.mp meant piece held)
    cases piece with
    | lit => cases names
    | quoted | bare | number =>
      cases List.mem_singleton.mp names
      exact texts

section Witness

def invocation (address : String) : Arguments := fun name =>
  if name = "address" then address else if name = "name" then "LIGHT/1?" else "turn on"

theorem invoke_numbered (address : String) : CustomDataPointsOperations.invoke.Numbered (invocation address) := by
  intro name number
  simp [CustomDataPointsOperations.invoke,request] at number

theorem invoke_target_read :
    CustomDataPointsOperations.invoke.target (invocation "ABC0001234") =
      "/devices/ABC0001234/cdps/LIGHT%2F1%3F/turn%20on" ∧
    readPath (CustomDataPointsOperations.invoke.target (invocation "ABC0001234")).toList =
      some (CustomDataPointsOperations.invoke.meant (invocation "ABC0001234")) ∧
    readPath (CustomDataPointsOperations.invoke.target (invocation "ABC/1")).toList ≠
      some (CustomDataPointsOperations.invoke.meant (invocation "ABC/1")) := by
  have member : CustomDataPointsOperations.invoke ∈ operations := by simp [operations,CustomDataPointsOperations.all]
  refine ⟨by decide +kernel,(target_read_iff member (invoke_numbered _)).mpr ?_,?_⟩
  · intro name bare
    simp only [CustomDataPointsOperations.invoke,request,List.mem_cons,reduceCtorEq,Piece.bare.injEq,List.not_mem_nil,
      or_false,false_or] at bare
    subst bare
    rfl
  · intro read
    have plain := (target_read_iff member (invoke_numbered _)).mp read "address" (by simp [CustomDataPointsOperations.invoke,request])
    cases plain

end Witness

theorem sysvar_targets_apart :
    HubOperations.getSysvar.target (fun _ => "a/b") ≠ HubOperations.getSysvar.target fun _ => "a%2Fb" := by
  have member : HubOperations.getSysvar ∈ operations := by simp [operations,HubOperations.all]
  have numbered (args : Arguments) : HubOperations.getSysvar.Numbered args := fun name number => by
    simp [HubOperations.getSysvar,request] at number
  have plain (args : Arguments) : HubOperations.getSysvar.Plain args := fun name bare => by
    simp [HubOperations.getSysvar,request] at bare
  intro same
  have named := (target_names_call member member rfl (numbered _) (numbered _) (plain _) (plain _) same).2
  exact absurd (named "name" (List.mem_singleton_self _)) (by decide)

structure Connection where
  connected : Bool
  backoff : List ℚ
  requestTimeoutSeconds : ℚ
  start : ℚ

-- How often the daemon is asked in one call.
def Operation.requests (o : Operation) (kind : φ → Transport.ExceptionClass) (c : Connection) (beats : Nat → Transport.Beat φ α) :
    Nat := match o.via with
  | .request allowRetry =>
    (Transport.request kind ⟨c.connected,o.method.text,allowRetry,c.backoff,c.requestTimeoutSeconds,c.start⟩
      beats).sent.length
  | .requestBytes | .requestUpload => if c.connected then 1 else 0

-- Nothing that the daemon carries out anew is sent again.
def Operation.Once (o : Operation) : Prop :=
  o.via = .requestBytes ∨ o.via = .requestUpload ∨ ((o.method = .post ∨ o.method = .patch) ∧ o ∉ repeated)

instance (o : Operation) : Decidable o.Once := inferInstanceAs (Decidable (_ ∨ _ ∨ (_ ∧ _)))

theorem command_iff (m : Method) : m.command = true ↔ m = .post ∨ m = .patch := by
  cases m <;> simp [Method.command]

theorem retries_table (member : o ∈ operations) : o.retries = false ↔ o.Once := by
  have listed : o ∈ repeated ↔ o.method.command = true ∧ o.via = .request (some true) := by
    rw [← operations_checked.2.2]
    simp [member]
  unfold Operation.Once Operation.retries
  rw [listed,← command_iff]
  cases via : o.via with
  | requestBytes | requestUpload => simp
  | request allowRetry =>
    cases allowRetry with
    | none => simp [(operations_checked.2.1 o.method (methods_all _)).2]
    | some retry =>
      cases retry with
      | true => simp [Transport.retries]
      | false =>
        have command : o.method.command = true := by
          by_contra other
          exact (operations_checked.1 o member).2.2 (Bool.eq_false_iff.mpr other) via
        simp [Transport.retries,command]

-- Two attempts fail one after the other, at once.
def failing : Nat → Transport.Beat Transport.ExceptionClass Unit := fun _ => ⟨0,.error .loomTransportError,0⟩

theorem failing_attempts : (Transport.attempts id 30 failing [0,1 / 2] 0 0 none).sent.length = 2 := by
  have triable : Transport.triedAgain id Transport.ExceptionClass.loomTransportError = true := rfl
  norm_num [Transport.attempts,failing,Transport.outOfBudget,Transport.wakes,triable]

theorem sent_once_iff (member : o ∈ operations) :
    (∀ (φ α : Type) (kind : φ → Transport.ExceptionClass) (c : Connection) (beats : Nat → Transport.Beat φ α),
      o.requests kind c beats ≤ 1) ↔ o.Once := by
  rw [← retries_table member]
  constructor
  · intro once
    by_contra again
    have retries : o.retries = true := by simpa using again
    have most := once Transport.ExceptionClass Unit id ⟨true,[1 / 2],30,0⟩ failing
    unfold Operation.retries at retries
    unfold Operation.requests at most
    cases via : o.via with
    | requestBytes | requestUpload =>
      rw [via] at retries
      cases retries
    | request allowRetry =>
      rw [via] at retries most
      simp only [Transport.request,if_true,Transport.RequestCall.deadline,Transport.RequestCall.retry,retries,
        Transport.attemptDelays,zero_add] at most
      rw [failing_attempts] at most
      omega
  · intro retries φ α kind c beats
    unfold Operation.retries at retries
    unfold Operation.requests
    cases via : o.via with
    | requestBytes | requestUpload =>
      simp only
      split <;> omega
    | request allowRetry =>
      rw [via] at retries
      simp only [Transport.request,Transport.RequestCall.retry,retries,Transport.attemptDelays]
      split
      · exact Transport.attempts_length [0] 0 c.start none
      · exact Nat.zero_le 1

theorem arm_zone_sent_once :
    (∀ (φ α : Type) (kind : φ → Transport.ExceptionClass) (c : Connection) (beats : Nat → Transport.Beat φ α),
      AlarmOperations.armZone.requests kind c beats ≤ 1) ∧
    ¬∀ (φ α : Type) (kind : φ → Transport.ExceptionClass) (c : Connection) (beats : Nat → Transport.Beat φ α),
      HubOperations.ackAlarmMessage.requests kind c beats ≤ 1 := by
  have command : AlarmOperations.armZone ∈ operations := by simp [operations,AlarmOperations.all]
  have acknowledged : HubOperations.ackAlarmMessage ∈ operations := by simp [operations,HubOperations.all]
  refine ⟨(sent_once_iff command).mpr (by decide),fun once => ?_⟩
  exact absurd ((sent_once_iff acknowledged).mp once) (by decide)

end LoomClient.Operations
