import LoomClient.Transport.FrameReader
import Mathlib.Data.List.Sort

namespace LoomClient.Transport
open Lib Client
variable {ε : Type}

structure SubscribeOptions where
  classify : Bool
  releasedOnly : Bool

-- `boolean` says that the cursor is True or False, which count as 1 and 0; `expected` is the cursor by
-- the law, which no step reads.
structure Resume (ε : Type) where
  reader : Reader ε
  boolean : Bool
  subscriptions : List Text
  expected : Option Int

def Resume.initial (topics : List Text) : Resume ε := ⟨⟨.initial,false,none,none,[],[],[],0⟩,false,topics.dedup,none⟩

-- The cursor as `json.dumps` writes it.
def Resume.cursor (x : Resume ε) : Option Json :=
  x.reader.stream.lastSeq.map fun n => if x.boolean then .bool (n = 1) else .int n

def sortedTopics (topics : List Text) : List Text := topics.mergeSort fun a b => decide (a ≤ b)

def flags (o : SubscribeOptions) : List (Text × Json) :=
  (if o.classify then [(text "classify",.bool true)] else []) ++
    (if o.releasedOnly then [(text "released_only",.bool true)] else [])

def initialSubscribe (o : SubscribeOptions) (x : Resume ε) : Option (List (Text × Json)) :=
  if x.subscriptions = [] then none
  else some ([(text "op",.str (text "subscribe")),(text "topics",.arr ((sortedTopics x.subscriptions).map .str))] ++
    flags o ++ (x.cursor.map fun since => (text "since",since)).toList)

def isBool : Json → Bool
  | .bool _ => true
  | _ => false

-- What a sequence number is: a JSON integer that is not negative.
def sequenceNumber : Json → Option Int
  | .int n => if 0 ≤ n then some n else none
  | _ => none

section Frames
variable (i : Interpreter) (validate : Json → Option ε) (seq : ε → Option Int)

def Interpreter.beyond (raw : List Char) : Json.Limits := ⟨i.digits + raw.length,i.nesting + raw.length⟩

-- The law: the cursor after a frame, whatever the interpreter makes of its text.
def anchored (raw : List Char) (cursor : Option Int) : Option Int :=
  match Json.loads (i.beyond raw) raw with
  | .ok (.obj frame) => match (Json.get? frame "op").bind notNull with
    | some op =>
      if controlOp op = .replayLost then sequenceNumber ((Json.get? frame "oldest_seq").getD .null) else cursor
    | none => match validate (.obj frame) with
      | some envelope => highestSeq cursor (seq envelope)
      | none => cursor
  | _ => cursor

-- `replay_lost` brings a bool or takes it away, and an envelope takes it away that is ahead of it.
def booleanAfter (x : Resume ε) (raw : List Char) : Bool :=
  match Json.loads i.toLimits raw with
  | .ok (.obj frame) => match (Json.get? frame "op").bind notNull with
    | some op =>
      let oldest := (Json.get? frame "oldest_seq").getD .null
      if controlOp op = .replayLost ∧ log i i.formatsWarnings [oldest] = none then isBool oldest else x.boolean
    | none => match validate (.obj frame) with
      | some envelope =>
        x.boolean && decide (highestSeq x.reader.stream.lastSeq (seq envelope) = x.reader.stream.lastSeq)
      | none => x.boolean
  | _ => x.boolean

def closedIf (raised : Option Raised) (x : Reader ε) : Reader ε := {x with socketOpen := x.socketOpen && raised.isNone}

def Resume.hear (x : Resume ε) (raw : List Char) : Resume ε :=
  let h := x.reader.handleText i validate seq raw
  {x with
    reader := closedIf h.2 h.1
    boolean := booleanAfter i validate seq x raw
    expected := anchored i validate seq raw x.expected}

end Frames

-- A connection sends its subscribe frame first, and ends where that fails.
def Resume.connect (i : Interpreter) (o : SubscribeOptions) (x : Resume ε) : Resume ε :=
  match initialSubscribe o x with
  | none => {x with reader := {x.reader with socketOpen := true}}
  | some frame =>
    let h := Reader.send i {x.reader with socketOpen := true} (.obj frame)
    {x with reader := closedIf h.2 h.1}

def topicsFrame (op : String) (topics : List Text) (o : List (Text × Json)) : Json :=
  .obj ([(text "op",.str (text op)),(text "topics",.arr (topics.map .str))] ++ o)

-- Sent where the socket is open. What the send raises reaches the caller.
def Resume.announce (i : Interpreter) (x : Resume ε) (frame : Json) : Resume ε :=
  if x.reader.socketOpen then {x with reader := (x.reader.send i frame).1} else x

def Resume.subscribe (i : Interpreter) (o : SubscribeOptions) (x : Resume ε) (topics : List Text) : Resume ε :=
  let new := topics.filter (· ∉ x.subscriptions)
  if new = [] then x
  else {x with subscriptions := x.subscriptions ++ new.dedup}.announce i (topicsFrame "subscribe" new (flags o))

def Resume.unsubscribe (i : Interpreter) (x : Resume ε) (topics : List Text) : Resume ε :=
  let gone := topics.filter (· ∈ x.subscriptions)
  if gone = [] then x
  else {x with subscriptions := x.subscriptions.filter (· ∉ gone)}.announce i (topicsFrame "unsubscribe" gone [])

-- `consume` is everything else the stream does: start, stop and its iterators.
inductive ResumeAction (ε : Type) where
  | frame (raw : List Char)
  | connect
  | disconnect
  | subscribe (topics : List Text)
  | unsubscribe (topics : List Text)
  | consume (action : QueueAction ε)

def isFrame : QueueAction ε → Bool
  | .frame .. => true
  | _ => false

section Machine
variable (i : Interpreter) (validate : Json → Option ε) (seq : ε → Option Int) (o : SubscribeOptions)

def resumeStep (x : Resume ε) : ResumeAction ε → Option (Resume ε)
  | .frame raw => if x.reader.socketOpen then some (x.hear i validate seq raw) else none
  | .connect => if x.reader.socketOpen then none else some (x.connect i o)
  | .disconnect => some {x with reader := {x.reader with socketOpen := false}}
  | .subscribe topics => some (x.subscribe i o topics)
  | .unsubscribe topics => some (x.unsubscribe i topics)
  | .consume action =>
    if isFrame action then none
    else (queueStep seq x.reader.stream action).map fun stream => {x with reader := {x.reader with stream}}

-- A connection that subscribes now asks for the events from the cursor of the law.
structure CursorLaw (x : Resume ε) : Prop where
  cursor : x.cursor = x.expected.map .int
  since : ∀ frame, initialSubscribe o x = some frame → Json.get? frame "since" = x.expected.map .int

-- The decoder takes the frame, or the frame would leave the cursor where it is; and the oldest number
-- of a `replay_lost` is not a bool and shallow enough to be logged.
def HeardFrame (x : Resume ε) (raw : List Char) : Prop :=
  match Json.loads i.toLimits raw with
  | .error .decode => True
  | .error _ => anchored i validate seq raw x.reader.stream.lastSeq = x.reader.stream.lastSeq
  | .ok (.obj frame) => match (Json.get? frame "op").bind notNull with
    | some op =>
      let oldest := (Json.get? frame "oldest_seq").getD .null
      controlOp op = .replayLost →
        isBool oldest = false ∧ (logFits i i.formatsWarnings oldest = true ∨ x.reader.stream.lastSeq = none)
    | none => True
  | .ok _ => True

def Heard (x : Resume ε) : ResumeAction ε → Prop
  | .frame raw => HeardFrame i validate seq x raw
  | _ => True

end Machine

section Law
variable {i : Interpreter} {validate : Json → Option ε} {seq : ε → Option Int} {o : SubscribeOptions}

theorem flags_since (o : SubscribeOptions) (rest : List (Text × Json)) :
    (flags o ++ rest).lookup (text "since") = rest.lookup (text "since") := by
  have classify : (text "since" == text "classify") = false := by decide
  have released : (text "since" == text "released_only") = false := by decide
  unfold flags
  cases o.classify <;> cases o.releasedOnly <;> simp [List.lookup_cons,classify,released]

theorem subscribe_since (subscribed : initialSubscribe o x = some frame) : Json.get? frame "since" = x.cursor := by
  unfold initialSubscribe at subscribed
  split at subscribed
  · cases subscribed
  · cases subscribed
    have op : (text "since" == text "op") = false := by decide
    have topics : (text "since" == text "topics") = false := by decide
    simp only [Json.get?,List.cons_append,List.nil_append,List.lookup_cons,op,topics,flags_since]
    cases x.cursor <;> simp

theorem cursor_int (x : Resume ε) (e : Option Int) :
    x.cursor = e.map .int ↔ x.reader.stream.lastSeq = e ∧ (x.boolean = true → x.reader.stream.lastSeq = none) := by
  unfold Resume.cursor
  cases x.reader.stream.lastSeq with
  | none => cases e <;> simp
  | some n => cases e <;> cases x.boolean <;> simp

theorem cursor_law_iff (x : Resume ε) :
    CursorLaw o x ↔ x.reader.stream.lastSeq = x.expected ∧ (x.boolean = true → x.reader.stream.lastSeq = none) := by
  rw [← cursor_int]
  exact ⟨fun law => law.cursor,fun same => ⟨same,fun frame sent => (subscribe_since sent).trans same⟩⟩

instance (x : Resume ε) : Decidable (CursorLaw o x) := decidable_of_iff' _ (cursor_law_iff x)

theorem cursor_law_kept {x y : Resume ε} (law : CursorLaw o x) (stream : y.reader.stream.lastSeq = x.reader.stream.lastSeq)
    (boolean : y.boolean = x.boolean) (expected : y.expected = x.expected) : CursorLaw o y := by
  rw [cursor_law_iff] at law ⊢
  rw [stream,boolean,expected]
  exact law

theorem beyond_wider (i : Interpreter) (raw : List Char) : Json.Limits.Wider (i.beyond raw) i.toLimits :=
  ⟨Nat.le_add_right _ _,Nat.le_add_right _ _⟩

theorem beyond_loaded (loaded : Json.loads i.toLimits raw = .ok v) : Json.loads (i.beyond raw) raw = .ok v := by
  rw [Json.loads_wider (beyond_wider i raw) (by rw [loaded]; trivial),loaded]

theorem beyond_refused (refused : Json.loads i.toLimits raw = .error .decode) :
    Json.loads (i.beyond raw) raw = .error .decode := by
  rw [Json.loads_wider (beyond_wider i raw) (by rw [refused]; trivial),refused]

theorem hear_still {x : Resume ε} (stream : (x.reader.handleText i validate seq raw).1.stream = x.reader.stream)
    (boolean : booleanAfter i validate seq x raw = x.boolean) (law : CursorLaw o x) :
    CursorLaw o (x.hear i validate seq raw) ↔
      anchored i validate seq raw x.reader.stream.lastSeq = x.reader.stream.lastSeq := by
  obtain ⟨cursor,kind⟩ := (cursor_law_iff x).mp law
  simp only [cursor_law_iff,Resume.hear,closedIf,stream,boolean,← cursor]
  exact ⟨fun after => after.1.symm,fun same => ⟨same.symm,kind⟩⟩

theorem refused_frame {x : Resume ε} (law : CursorLaw o x) (refused : Json.loads i.toLimits raw = .error r) :
    CursorLaw o (x.hear i validate seq raw) ↔
      anchored i validate seq raw x.reader.stream.lastSeq = x.reader.stream.lastSeq :=
  hear_still (by simp only [Reader.handleText,refused]) (by simp only [booleanAfter,refused]) law

theorem sequence_number_filter (plain : isBool oldest = false) :
    oldest.asInt.filter (fun n => decide (0 ≤ n)) = sequenceNumber oldest := by
  cases oldest with
  | int n =>
    by_cases positive : 0 ≤ n
    · simp [Json.asInt,sequenceNumber,positive]
    · simpa [Json.asInt,sequenceNumber,positive] using Int.not_le.mp positive
  | bool b => cases plain
  | _ => rfl

theorem deep_no_number (deep : log i formats [oldest] = some e) :
    isBool oldest = false ∧ sequenceNumber oldest = none := by
  have nested : 0 < Json.depth oldest := by
    unfold log at deep
    split at deep
    · rename_i too_deep
      simp only [List.any_cons,List.any_nil,Bool.or_false,Bool.and_eq_true,decide_eq_true_eq] at too_deep
      omega
    · cases deep
  cases oldest <;> simp_all [Json.depth,isBool,sequenceNumber]

theorem replay_lost_frame {x : Resume ε} {frame : List (Text × Json)} (law : CursorLaw o x)
    (loaded : Json.loads i.toLimits raw = .ok (.obj frame)) (asked : (Json.get? frame "op").bind notNull = some op)
    (lost : controlOp op = .replayLost) :
    CursorLaw o (x.hear i validate seq raw) ↔
      isBool ((Json.get? frame "oldest_seq").getD .null) = false ∧
        (logFits i i.formatsWarnings ((Json.get? frame "oldest_seq").getD .null) = true ∨
          x.reader.stream.lastSeq = none) := by
  have anchor : ∀ cursor, anchored i validate seq raw cursor =
      sequenceNumber ((Json.get? frame "oldest_seq").getD .null) := by
    intro cursor
    simp only [anchored,beyond_loaded loaded,asked,lost,if_true]
  have read : x.reader.handleText i validate seq raw = handleReplayLost i x.reader frame := by
    simp only [Reader.handleText,loaded,handleObject,asked,handleControl,lost]
  have fits : log i i.formatsWarnings [(Json.get? frame "oldest_seq").getD .null] = none ↔
      logFits i i.formatsWarnings ((Json.get? frame "oldest_seq").getD .null) = true := by
    rw [log_none_iff,List.forall_mem_singleton]
  cases logged : log i i.formatsWarnings [(Json.get? frame "oldest_seq").getD .null] with
  | some e =>
    -- The record could not be written: the cursor stays, and an anchor it has none.
    obtain ⟨plain,absent⟩ := deep_no_number logged
    have stream : (x.reader.handleText i validate seq raw).1.stream = x.reader.stream := by
      rw [read]
      simp only [handleReplayLost,logged]
    rw [hear_still stream (by simp [booleanAfter,loaded,asked,logged]) law,anchor,absent,← fits,logged,plain]
    simp [eq_comm]
  | none =>
    have after : (x.hear i validate seq raw).reader.stream.lastSeq =
        ((Json.get? frame "oldest_seq").getD .null).asInt.filter (fun n => decide (0 ≤ n)) := by
      simp only [Resume.hear,closedIf,read,handleReplayLost,logged,triggerResync]
    have expected : (x.hear i validate seq raw).expected = sequenceNumber ((Json.get? frame "oldest_seq").getD .null) :=
      anchor x.expected
    have kind : (x.hear i validate seq raw).boolean = isBool ((Json.get? frame "oldest_seq").getD .null) := by
      simp [Resume.hear,booleanAfter,loaded,asked,lost,logged]
    rw [cursor_law_iff,after,expected,kind,← fits,logged]
    generalize (Json.get? frame "oldest_seq").getD .null = oldest
    cases plain : isBool oldest with
    | false => simp [sequence_number_filter plain]
    | true =>
      cases oldest with
      | bool b => cases b <;> simp [Json.asInt,sequenceNumber]
      | _ => cases plain

theorem handle_text_cursor (stream : EventQueue ε) (envelope : ε) :
    (handleText seq stream envelope size).lastSeq = highestSeq stream.lastSeq (seq envelope) := by
  unfold handleText registerOverflow
  dsimp only
  split <;> rfl

theorem envelope_frame {x : Resume ε} {frame : List (Text × Json)} (law : CursorLaw o x)
    (loaded : Json.loads i.toLimits raw = .ok (.obj frame)) (asked : (Json.get? frame "op").bind notNull = none)
    (valid : validate (.obj frame) = some envelope) : CursorLaw o (x.hear i validate seq raw) := by
  obtain ⟨cursor,kind⟩ := (cursor_law_iff x).mp law
  have read : (x.reader.handleText i validate seq raw).1.stream.lastSeq =
      highestSeq x.reader.stream.lastSeq (seq envelope) := by
    simp only [Reader.handleText,loaded,handleObject,asked,parseEnvelope,valid,enqueue]
    split <;> exact handle_text_cursor _ _
  rw [cursor_law_iff]
  simp only [Resume.hear,closedIf,read,anchored,beyond_loaded loaded,asked,valid,booleanAfter,loaded,cursor,true_and,
    Bool.and_eq_true,decide_eq_true_eq]
  rintro ⟨boolean,unmoved⟩
  rw [unmoved,← cursor]
  exact kind boolean

theorem boolean_still {x : Resume ε} (still : ¬Moves i validate raw) : booleanAfter i validate seq x raw = x.boolean := by
  unfold booleanAfter
  split
  · rename_i frame loaded
    split
    · rename_i op asked
      have other : controlOp op ≠ .replayLost := fun lost => still ⟨frame,loaded,by rw [asked]; exact lost⟩
      simp [other]
    · rename_i asked
      split
      · rename_i envelope valid
        exact absurd ⟨frame,loaded,by rw [asked]; simp [valid]⟩ still
      · rfl
  · rfl

theorem anchored_still (still : ¬Moves i validate raw) (loaded : Json.loads i.toLimits raw = .ok v) (cursor : Option Int) :
    anchored i validate seq raw cursor = cursor := by
  unfold anchored
  rw [beyond_loaded loaded]
  cases v with
  | obj frame =>
    dsimp only
    split
    · rename_i op asked
      exact if_neg fun lost => still ⟨frame,loaded,by rw [asked]; exact lost⟩
    · rename_i asked
      split
      · rename_i envelope valid
        exact absurd ⟨frame,loaded,by rw [asked]; simp [valid]⟩ still
      · rfl
  | _ => rfl

theorem idle_frame {x : Resume ε} (law : CursorLaw o x) (loaded : Json.loads i.toLimits raw = .ok v)
    (still : ¬Moves i validate raw) : CursorLaw o (x.hear i validate seq raw) :=
  (hear_still (frame_stream x.reader still) (boolean_still still) law).mpr (anchored_still still loaded _)

theorem frame_law {x : Resume ε} (law : CursorLaw o x) :
    CursorLaw o (x.hear i validate seq raw) ↔ HeardFrame i validate seq x raw := by
  cases loaded : Json.loads i.toLimits raw with
  | error r =>
    rw [refused_frame law loaded]
    cases r with
    | decode => simp [HeardFrame,loaded,anchored,beyond_refused loaded]
    | digits => simp only [HeardFrame,loaded]
    | recursion => simp only [HeardFrame,loaded]
  | ok v =>
    by_cases moving : Moves i validate raw
    · obtain ⟨frame,held,cause⟩ := moving
      cases asked : (Json.get? frame "op").bind notNull with
      | some op =>
        rw [asked] at cause
        have lost : controlOp op = .replayLost := cause
        rw [replay_lost_frame law held asked lost]
        simp only [HeardFrame,held,asked,lost,true_implies]
      | none =>
        rw [asked] at cause
        obtain ⟨envelope,valid⟩ := Option.isSome_iff_exists.mp cause
        exact iff_of_true (envelope_frame law held asked valid) (by simp only [HeardFrame,held,asked])
    · refine iff_of_true (idle_frame law loaded moving) ?_
      cases v with
      | obj frame =>
        simp only [HeardFrame,loaded]
        cases asked : (Json.get? frame "op").bind notNull with
        | none => trivial
        | some op => exact fun lost => absurd ⟨frame,loaded,by rw [asked]; exact lost⟩ moving
      | _ => simp only [HeardFrame,loaded]

theorem consume_cursor (apart : isFrame a = false) (step : queueStep seq x a = some y) : y.lastSeq = x.lastSeq := by
  have handed : ∀ z : EventQueue ε, (releaseLatch (popSize z)).lastSeq = z.lastSeq := by
    intro z
    unfold releaseLatch popSize
    repeat' split
    all_goals rfl
  cases a with
  | frame envelope size => cases apart
  | start =>
    cases step
    split <;> rfl
  | stop => cases step; rfl
  | iterate i =>
    simp only [queueStep] at step
    split at step <;> cases step
    unfold iterate
    split <;> rfl
  | wake i =>
    simp only [queueStep] at step
    repeat' split at step
    all_goals cases step
    · rfl
    · exact handed _
  | _ =>
    simp only [queueStep] at step
    repeat' split at step
    all_goals cases step
    all_goals rfl

theorem send_cursor (x : Resume ε) (frame : Json) (law : CursorLaw o x) : CursorLaw o (x.announce i frame) := by
  unfold Resume.announce
  split
  · exact cursor_law_kept law (by simp only [send_stream]) rfl rfl
  · exact law

theorem resume_step_law {x : Resume ε} (law : CursorLaw o x) (step : resumeStep i validate seq o x a = some y) :
    CursorLaw o y ↔ Heard i validate seq x a := by
  cases a with
  | frame raw =>
    simp only [resumeStep] at step
    split at step <;> cases step
    exact frame_law law
  | connect =>
    simp only [resumeStep] at step
    split at step <;> cases step
    refine iff_of_true ?_ trivial
    unfold Resume.connect
    split
    · exact cursor_law_kept law rfl rfl rfl
    · exact cursor_law_kept law (by simp only [closedIf,send_stream]) rfl rfl
  | disconnect =>
    cases step
    exact iff_of_true (cursor_law_kept law rfl rfl rfl) trivial
  | subscribe topics =>
    cases step
    refine iff_of_true ?_ trivial
    unfold Resume.subscribe
    dsimp only
    split
    · exact law
    · exact send_cursor _ _ (cursor_law_kept law rfl rfl rfl)
  | unsubscribe topics =>
    cases step
    refine iff_of_true ?_ trivial
    unfold Resume.unsubscribe
    dsimp only
    split
    · exact law
    · exact send_cursor _ _ (cursor_law_kept law rfl rfl rfl)
  | consume action =>
    simp only [resumeStep] at step
    cases apart : isFrame action with
    | true => simp [apart] at step
    | false =>
      obtain ⟨stream,moved,rfl⟩ := Option.map_eq_some_iff.mp (by simpa [apart] using step)
      exact iff_of_true (cursor_law_kept law (consume_cursor apart moved) rfl rfl) trivial

theorem cursor_law_iff_heard (topics : List Text) (actions : List (ResumeAction ε)) :
    Always (resumeStep i validate seq o) (CursorLaw o) (.initial topics) actions ↔
      Every (resumeStep i validate seq o) (fun x a _ => Heard i validate seq x a) (.initial topics) actions := by
  apply always_iff_every
  · exact (cursor_law_iff _).mpr ⟨rfl,fun kind => by cases kind⟩
  · exact fun x a y law step => resume_step_law law step

end Law

-- True passes as an integer: the next connection asks for the events since 1.
theorem true_becomes_cursor :
    ¬Always (resumeStep (.cpython 1000 1000 1000) (fun _ => none) (fun _ : Unit => none) ⟨false,false⟩)
      (CursorLaw ⟨false,false⟩) (.initial [text "datapoint.*"])
      [.connect,.frame "\x7b\"op\":\"replay_lost\",\"oldest_seq\":true\x7d".toList] := by
  decide +kernel

end LoomClient.Transport
