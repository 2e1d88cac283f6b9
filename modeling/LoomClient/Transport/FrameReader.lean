import LoomClient.Lib.JsonText
import LoomClient.Transport.EventQueue

namespace LoomClient.Transport
open Lib Client
variable {ε : Type}

def maxWsMsgSize : Nat := 1024 * 1024

-- The decoder's limits, the nesting of `json.dumps` and of `repr`, and whether a log handler formats
-- the records of a level and lets a RecursionError out, as a StreamHandler does.
structure Interpreter extends Json.Limits where
  dumpsNesting : Nat
  reprNesting : Nat
  formatsWarnings : Bool
  formatsDebug : Bool

-- CPython with its default limit on the digits of an integer.
def Interpreter.cpython (nesting dumpsNesting reprNesting : Nat) : Interpreter :=
  ⟨⟨4300,nesting⟩,dumpsNesting,reprNesting,true,false⟩

inductive Raised where
  | valueError
  | recursionError
  | overflowError
  | transportError
  deriving DecidableEq, Repr

-- The future of `reauth` is pending or has a result; the four histories are what went out and which
-- callbacks were called.
structure Reader (ε : Type) where
  stream : EventQueue ε
  socketOpen : Bool
  lastRtt : Option Json
  reauthAck : Option (Option Bool)
  sent : List Json
  heartbeats : List Json
  resyncs : List Int
  authFailures : Nat

abbrev Handled (ε : Type) := Reader ε × Option Raised

def Handled.andThen (h : Handled ε) (next : Reader ε → Handled ε) : Handled ε :=
  match h.2 with
  | none => next h.1
  | some e => (h.1,some e)

def writing (i : Interpreter) (nesting : Nat) (v : Json) : Option Raised :=
  if Json.intsWithin i.digits v = false then some .valueError
  else if nesting < Json.depth v then some .recursionError
  else none

-- A handler keeps every error to itself but a RecursionError.
def log (i : Interpreter) (formats : Bool) (args : List Json) : Option Raised :=
  if formats && args.any (fun v => decide (i.reprNesting < Json.depth v)) then some .recursionError else none

def Reader.send (i : Interpreter) (x : Reader ε) (frame : Json) : Handled ε :=
  if x.socketOpen then
    match writing i i.dumpsNesting frame with
    | none => ({x with sent := x.sent ++ [frame]},none)
    | some e => (x,some e)
  else (x,some .transportError)

def triggerResync (x : Reader ε) (oldestSeq : Int) : Reader ε := {x with resyncs := x.resyncs ++ [oldestSeq]}

-- `isinstance(rtt, int | float)`, a bool being an int.
def asNumber : Json → Option Json
  | .bool b => some (.int (if b then 1 else 0))
  | .int n => some (.int n)
  | .float literal => some (.float literal)
  | _ => none

-- `float()` rounds to even, and half a step above the largest float rounds up.
def floatOverflow : Nat := 2 ^ 1024 - 2 ^ 970

def toFloat : Json → Except Raised Json
  | .int n => if floatOverflow ≤ n.natAbs then .error .overflowError else .ok (.int n)
  | v => .ok v

def readRtt (x : Reader ε) (frame : List (Text × Json)) : Handled ε :=
  match (Json.get? frame "rtt_ms").bind asNumber with
  | none => (x,none)
  | some rtt => match toFloat rtt with
    | .error e => (x,some e)
    | .ok r => ({x with lastRtt := some r,heartbeats := x.heartbeats ++ [r]},none)

def notNull : Json → Option Json
  | .null => none
  | v => some v

def pong (frame : List (Text × Json)) : Json :=
  .obj ((text "op",.str (text "pong")) ::
    (((Json.get? frame "echo").bind notNull).map fun echo => (text "echo",echo)).toList)

def handlePing (i : Interpreter) (x : Reader ε) (frame : List (Text × Json)) : Handled ε :=
  (readRtt x frame).andThen fun y => y.send i (pong frame)

def handleReplayLost (i : Interpreter) (x : Reader ε) (frame : List (Text × Json)) : Handled ε :=
  let oldest := (Json.get? frame "oldest_seq").getD .null
  match log i i.formatsWarnings [oldest] with
  | some e => (x,some e)
  | none =>
    let lastSeq := oldest.asInt.filter (fun n => decide (0 ≤ n))
    (triggerResync {x with stream := {x.stream with lastSeq}} (oldest.asInt.getD (-1)),none)

-- An acknowledgement resolves a future once.
def setResult (x : Reader ε) (accepted : Bool) : Reader ε :=
  {x with reauthAck := x.reauthAck.map fun result => some (result.getD accepted)}

inductive ControlOp where
  | ping
  | replayDone
  | replayLost
  | ack
  | reauthOk
  | reauthFailed
  | unknown
  deriving DecidableEq, Repr

-- `op` is compared with strings, whatever JSON value it is.
def controlOp (op : Json) : ControlOp :=
  if op.isText "ping" then .ping
  else if op.isText "replay_done" then .replayDone
  else if op.isText "replay_lost" then .replayLost
  else if op.isText "subscribe_ack" || op.isText "unsubscribe_ack" || op.isText "pong" then .ack
  else if op.isText "reauth_ok" then .reauthOk
  else if op.isText "reauth_failed" then .reauthFailed
  else .unknown

def handleControl (i : Interpreter) (x : Reader ε) (op : Json) (frame : List (Text × Json)) : Handled ε :=
  match controlOp op with
  | .ping => handlePing i x frame
  | .replayDone => (x,log i i.formatsDebug [(Json.get? frame "seq").getD .null])
  | .replayLost => handleReplayLost i x frame
  | .ack | .unknown => (x,log i i.formatsDebug [op,.obj frame])
  | .reauthOk => (setResult x true,none)
  | .reauthFailed => ({setResult x false with authFailures := x.authFailures + 1},none)

-- The envelope, or nothing for any exception. The frame is written out for the log before the call.
def parseEnvelope (i : Interpreter) (validate : Json → Option ε) (frame : Json) : Except Raised (Option ε) :=
  match validate frame with
  | some envelope => .ok (some envelope)
  | none => match writing i i.reprNesting frame with
    | none => .ok none
    | some e => .error e

-- The first envelope to overflow the queue asks for a resync.
def enqueue (seq : ε → Option Int) (x : Reader ε) (envelope : ε) (size : Nat) : Reader ε :=
  let y := {x with stream := handleText seq x.stream envelope size}
  if x.stream.overflows size && !x.stream.overflowing then triggerResync y (-1) else y

def handleObject (i : Interpreter) (validate : Json → Option ε) (seq : ε → Option Int) (x : Reader ε)
    (size : Nat) (frame : List (Text × Json)) : Handled ε :=
  match (Json.get? frame "op").bind notNull with
  | some op => handleControl i x op frame
  | none => match parseEnvelope i validate (.obj frame) with
    | .error e => (x,some e)
    | .ok none => (x,none)
    | .ok (some envelope) => (enqueue seq x envelope size,none)

-- Only a JSONDecodeError is caught.
def refusal : Json.Refusal → Option Raised
  | .decode => none
  | .digits => some .valueError
  | .recursion => some .recursionError

def Reader.handleText (i : Interpreter) (validate : Json → Option ε) (seq : ε → Option Int) (x : Reader ε)
    (raw : List Char) : Handled ε :=
  match Json.loads i.toLimits raw with
  | .error r => (x,refusal r)
  | .ok (.obj frame) => handleObject i validate seq x raw.length frame
  | .ok _ => (x,none)

def Moves (i : Interpreter) (validate : Json → Option ε) (raw : List Char) : Prop :=
  ∃ frame, Json.loads i.toLimits raw = .ok (.obj frame) ∧
    match (Json.get? frame "op").bind notNull with
    | some op => controlOp op = .replayLost
    | none => (validate (.obj frame)).isSome

-- A frame that the reader cannot process is dropped with the stream as it was.
structure Survived (i : Interpreter) (validate : Json → Option ε) (seq : ε → Option Int) (x : Reader ε)
    (raw : List Char) : Prop where
  returned : (x.handleText i validate seq raw).2 = none
  dropped : ¬Moves i validate raw → (x.handleText i validate seq raw).1.stream = x.stream

-- The round trip a ping reports, when it is an integer, is one that a float can hold.
def rttFits (frame : List (Text × Json)) : Bool :=
  match (Json.get? frame "rtt_ms").bind Json.asInt with
  | some n => decide (n.natAbs < floatOverflow)
  | none => true

def logFits (i : Interpreter) (formats : Bool) (v : Json) : Bool := !formats || decide (Json.depth v ≤ i.reprNesting)

def tameControl (i : Interpreter) (op : Json) (frame : List (Text × Json)) : Bool :=
  match controlOp op with
  | .ping => rttFits frame && decide (Json.depth (pong frame) ≤ i.dumpsNesting)
  | .replayDone => logFits i i.formatsDebug ((Json.get? frame "seq").getD .null)
  | .replayLost => logFits i i.formatsWarnings ((Json.get? frame "oldest_seq").getD .null)
  | .ack | .unknown => logFits i i.formatsDebug (.obj frame)
  | .reauthOk | .reauthFailed => true

def tameObject (i : Interpreter) (validate : Json → Option ε) (frame : List (Text × Json)) : Bool :=
  match (Json.get? frame "op").bind notNull with
  | some op => tameControl i op frame
  | none => (validate (.obj frame)).isSome || decide (Json.depth (.obj frame) ≤ i.reprNesting)

-- The decoder returns a value or calls the text no JSON, a ping has a round trip that fits and an echo
-- shallow enough to send, and what is logged is shallow enough to write.
def tame (i : Interpreter) (validate : Json → Option ε) (raw : List Char) : Bool :=
  match Json.loads i.toLimits raw with
  | .error r => decide (r = .decode)
  | .ok (.obj frame) => tameObject i validate frame
  | .ok _ => true

section Handlers
variable {i : Interpreter} {validate : Json → Option ε} {seq : ε → Option Int}

theorem and_then_returned {h : Handled ε} {next : Reader ε → Handled ε} :
    (h.andThen next).2 = none ↔ h.2 = none ∧ (next h.1).2 = none := by
  unfold Handled.andThen
  cases raised : h.2 <;> simp

theorem and_then_stream {x : Reader ε} {h : Handled ε} {next : Reader ε → Handled ε} (first : h.1.stream = x.stream)
    (second : (next h.1).1.stream = h.1.stream) : (h.andThen next).1.stream = x.stream := by
  unfold Handled.andThen
  cases h.2 with
  | none => exact second.trans first
  | some e => exact first

theorem writing_none_iff (short : Json.intsWithin i.digits v = true) :
    writing i nesting v = none ↔ Json.depth v ≤ nesting := by
  simp [writing,short]

theorem log_none_iff (args : List Json) :
    log i formats args = none ↔ ∀ v ∈ args, logFits i formats v = true := by
  cases formats <;> simp [log,logFits]

theorem send_stream (x : Reader ε) (frame : Json) : (x.send i frame).1.stream = x.stream := by
  unfold Reader.send
  repeat' split
  all_goals rfl

theorem send_returned {x : Reader ε} (opened : x.socketOpen = true) (frame : Json) :
    (x.send i frame).2 = writing i i.dumpsNesting frame := by
  simp only [Reader.send,opened,if_true]
  split
  · rename_i written
    exact written.symm
  · rename_i e raised
    exact raised.symm

theorem read_rtt_stream (x : Reader ε) : (readRtt x frame).1.stream = x.stream := by
  unfold readRtt
  repeat' split
  all_goals rfl

theorem read_rtt_socket (x : Reader ε) : (readRtt x frame).1.socketOpen = x.socketOpen := by
  unfold readRtt
  repeat' split
  all_goals rfl

theorem read_rtt_returned (x : Reader ε) : (readRtt x frame).2 = none ↔ rttFits frame = true := by
  unfold readRtt rttFits
  cases reported : Json.get? frame "rtt_ms" with
  | none => simp
  | some v => cases v <;> simp [asNumber,Json.asInt,toFloat] <;> grind

theorem pong_short (short : Json.entriesWithin i.digits frame = true) :
    Json.intsWithin i.digits (pong frame) = true := by
  cases echoed : (Json.get? frame "echo").bind notNull with
  | none => simp [pong,echoed,Json.intsWithin,Json.entriesWithin]
  | some echo =>
    obtain ⟨v,found,kept⟩ := Option.bind_eq_some_iff.mp echoed
    have same : v = echo := by
      cases v <;> simp_all [notNull]
    have held := Json.entries_within_iff.mp short _ (Json.get_mem found)
    rw [same] at held
    simpa [pong,echoed,Json.intsWithin,Json.entriesWithin] using held

theorem ping_returned {x : Reader ε} (opened : x.socketOpen = true)
    (short : Json.entriesWithin i.digits frame = true) :
    (handlePing i x frame).2 = none ↔
      (rttFits frame && decide (Json.depth (pong frame) ≤ i.dumpsNesting)) = true := by
  have still : (readRtt x frame).1.socketOpen = true := by rw [read_rtt_socket,opened]
  rw [handlePing,and_then_returned,read_rtt_returned,send_returned still,writing_none_iff (pong_short short),
    Bool.and_eq_true,decide_eq_true_eq]

theorem ping_stream (x : Reader ε) : (handlePing i x frame).1.stream = x.stream :=
  and_then_stream (read_rtt_stream x) (send_stream _ _)

theorem replay_lost_returned (x : Reader ε) :
    (handleReplayLost i x frame).2 = none ↔
      logFits i i.formatsWarnings ((Json.get? frame "oldest_seq").getD .null) = true := by
  have logged : log i i.formatsWarnings [(Json.get? frame "oldest_seq").getD .null] = none ↔
      logFits i i.formatsWarnings ((Json.get? frame "oldest_seq").getD .null) = true := by
    rw [log_none_iff,List.forall_mem_singleton]
  rw [← logged]
  unfold handleReplayLost
  dsimp only
  split
  · rename_i e raised
    simp [raised]
  · rename_i quiet
    simp [quiet]

theorem control_returned {x : Reader ε} (opened : x.socketOpen = true)
    (short : Json.entriesWithin i.digits frame = true) (found : Json.get? frame "op" = some op) :
    (handleControl i x op frame).2 = none ↔ tameControl i op frame = true := by
  unfold handleControl tameControl
  have inside : Json.depth op ≤ Json.depth (.obj frame) := Nat.le_succ_of_le (Json.get_depth found)
  have shallow : logFits i i.formatsDebug (.obj frame) = true → logFits i i.formatsDebug op = true := by
    simp only [logFits,Bool.or_eq_true,decide_eq_true_eq]
    exact Or.imp_right (Nat.le_trans inside)
  have both : log i i.formatsDebug [op,.obj frame] = none ↔ logFits i i.formatsDebug (.obj frame) = true := by
    rw [log_none_iff,List.forall_mem_cons,List.forall_mem_singleton]
    exact ⟨And.right,fun fits => ⟨shallow fits,fits⟩⟩
  cases kind : controlOp op with
  | ping => exact ping_returned opened short
  | replayDone => exact (log_none_iff _).trans List.forall_mem_singleton
  | replayLost => exact replay_lost_returned x
  | ack => exact both
  | unknown => exact both
  | reauthOk => simp
  | reauthFailed => simp

theorem control_stream (x : Reader ε) (other : controlOp op ≠ .replayLost) :
    (handleControl i x op frame).1.stream = x.stream := by
  unfold handleControl
  cases kind : controlOp op with
  | ping => exact ping_stream x
  | replayLost => exact absurd kind other
  | _ => rfl

theorem not_null_found (found : (Json.get? frame key).bind notNull = some v) : Json.get? frame key = some v := by
  obtain ⟨w,held,kept⟩ := Option.bind_eq_some_iff.mp found
  rw [held]
  cases w <;> simp_all [notNull]

theorem object_returned {x : Reader ε} (opened : x.socketOpen = true)
    (short : Json.entriesWithin i.digits frame = true) :
    (handleObject i validate seq x size frame).2 = none ↔ tameObject i validate frame = true := by
  unfold handleObject tameObject
  cases asked : (Json.get? frame "op").bind notNull with
  | some op => exact control_returned opened short (not_null_found asked)
  | none =>
    have written : writing i i.reprNesting (.obj frame) = none ↔ Json.depth (.obj frame) ≤ i.reprNesting :=
      writing_none_iff (by simpa only [Json.intsWithin] using short)
    cases valid : validate (.obj frame) with
    | some envelope => simp [parseEnvelope,valid]
    | none =>
      cases raised : writing i i.reprNesting (.obj frame) with
      | none => simpa [parseEnvelope,valid,raised] using written.mp raised
      | some e =>
        have deep : ¬Json.depth (.obj frame) ≤ i.reprNesting := fun fits => by simp [written.mpr fits] at raised
        simpa [parseEnvelope,valid,raised] using deep

theorem object_stream (x : Reader ε)
    (still : match (Json.get? frame "op").bind notNull with
      | some op => controlOp op ≠ .replayLost
      | none => validate (.obj frame) = none) :
    (handleObject i validate seq x size frame).1.stream = x.stream := by
  unfold handleObject
  cases asked : (Json.get? frame "op").bind notNull with
  | some op =>
    rw [asked] at still
    exact control_stream x still
  | none =>
    rw [asked] at still
    simp only [parseEnvelope,show validate (.obj frame) = none from still]
    cases writing i i.reprNesting (.obj frame) <;> rfl

theorem frame_returned {x : Reader ε} (opened : x.socketOpen = true) (raw : List Char) :
    (x.handleText i validate seq raw).2 = none ↔ tame i validate raw = true := by
  unfold Reader.handleText tame
  cases loaded : Json.loads i.toLimits raw with
  | error r => cases r <;> simp [refusal]
  | ok v =>
    cases v with
    | obj frame => exact object_returned opened (by simpa only [Json.intsWithin] using (Json.loads_modest loaded).2)
    | _ => simp

theorem frame_stream (x : Reader ε) (still : ¬Moves i validate raw) :
    (x.handleText i validate seq raw).1.stream = x.stream := by
  unfold Reader.handleText
  cases loaded : Json.loads i.toLimits raw with
  | error r => rfl
  | ok v =>
    cases v with
    | obj frame =>
      refine object_stream x ?_
      cases asked : (Json.get? frame "op").bind notNull with
      | some op => exact fun lost => still ⟨frame,loaded,by rw [asked]; exact lost⟩
      | none =>
        cases valid : validate (.obj frame) with
        | some envelope => exact absurd ⟨frame,loaded,by rw [asked]; simp [valid]⟩ still
        | none => rfl
    | _ => rfl

theorem replay_lost_raised_stream {x : Reader ε} (raised : (handleReplayLost i x frame).2 = some e) :
    (handleReplayLost i x frame).1.stream = x.stream := by
  unfold handleReplayLost at raised ⊢
  dsimp only at raised ⊢
  split at raised
  · rfl
  · cases raised

-- The cursor stays before the frame, so that the daemon brings it again.
theorem frame_raised_stream {x : Reader ε} (raised : (x.handleText i validate seq raw).2 = some e) :
    (x.handleText i validate seq raw).1.stream = x.stream := by
  by_cases moving : Moves i validate raw
  · obtain ⟨frame,loaded,cause⟩ := moving
    simp only [Reader.handleText,loaded,handleObject] at raised ⊢
    cases asked : (Json.get? frame "op").bind notNull with
    | some op =>
      rw [asked] at cause
      simp only [asked,handleControl,show controlOp op = .replayLost from cause] at raised ⊢
      exact replay_lost_raised_stream raised
    | none =>
      rw [asked] at cause
      obtain ⟨envelope,valid⟩ := Option.isSome_iff_exists.mp cause
      simp [asked,parseEnvelope,valid] at raised
  · exact frame_stream x moving

theorem frame_survived_iff {x : Reader ε} (opened : x.socketOpen = true) (raw : List Char) :
    Survived i validate seq x raw ↔ tame i validate raw = true :=
  ⟨fun survived => (frame_returned opened raw).mp survived.returned,
    fun calm => ⟨(frame_returned opened raw).mpr calm,frame_stream x⟩⟩

theorem send_socket (x : Reader ε) (frame : Json) : (x.send i frame).1.socketOpen = x.socketOpen := by
  unfold Reader.send
  repeat' split
  all_goals rfl

theorem ping_socket (x : Reader ε) : (handlePing i x frame).1.socketOpen = x.socketOpen := by
  unfold handlePing Handled.andThen
  split
  · rw [send_socket,read_rtt_socket]
  · exact read_rtt_socket x

theorem replay_lost_socket (x : Reader ε) : (handleReplayLost i x frame).1.socketOpen = x.socketOpen := by
  unfold handleReplayLost
  dsimp only
  split <;> rfl

theorem handle_text_socket (x : Reader ε) (raw : List Char) :
    (x.handleText i validate seq raw).1.socketOpen = x.socketOpen := by
  unfold Reader.handleText handleObject handleControl enqueue
  repeat' split
  all_goals first | rfl | exact ping_socket x | exact replay_lost_socket x

end Handlers

section Connections
variable (i : Interpreter) (validate : Json → Option ε) (seq : ε → Option Int)

-- `_read_loop` over the frames of a connection: an exception ends it.
def readFrames : List (List Char) → Reader ε → Handled ε
  | [],x => (x,none)
  | raw :: rest,x => (x.handleText i validate seq raw).andThen (readFrames rest)

def connection (frames : List (List Char)) (x : Reader ε) : Handled ε :=
  let h := readFrames i validate seq frames {x with socketOpen := true}
  ({h.1 with socketOpen := false},h.2)

-- What the reader is after so many connections that brought the same frames.
def reconnected (frames : List (List Char)) : Nat → Reader ε → Reader ε
  | 0,x => x
  | n + 1,x => reconnected frames n (connection i validate seq frames x).1

variable {i validate seq}

theorem read_frames_returned {x : Reader ε} (opened : x.socketOpen = true) (frames : List (List Char)) :
    (readFrames i validate seq frames x).2 = none ↔ ∀ raw ∈ frames, tame i validate raw = true := by
  induction frames generalizing x with
  | nil => simp [readFrames]
  | cons raw rest ih =>
    have still : (x.handleText i validate seq raw).1.socketOpen = true := by rw [handle_text_socket,opened]
    rw [readFrames,and_then_returned,frame_returned opened,ih still,List.forall_mem_cons]

-- A frame that tears the reader down does so again after each reconnect.
theorem connection_returned (frames : List (List Char)) (n : Nat) (x : Reader ε) :
    (connection i validate seq frames (reconnected i validate seq frames n x)).2 = none ↔
      ∀ raw ∈ frames, tame i validate raw = true :=
  read_frames_returned rfl frames

theorem reader_survives_iff (x : Reader ε) (opened : x.socketOpen = true) :
    (∀ raw, Survived i validate seq x raw ↔ tame i validate raw = true) ∧
      ∀ frames n, (connection i validate seq frames (reconnected i validate seq frames n x)).2 = none ↔
        ∀ raw ∈ frames, tame i validate raw = true :=
  ⟨frame_survived_iff opened,fun frames n => connection_returned frames n x⟩

end Connections

def endlessPing : List Char := "\x7b\"op\":\"ping\",\"rtt_ms\":1".toList ++ List.replicate 309 '0' ++ "\x7d".toList

def idleReader : Reader Unit := ⟨EventQueue.initial,true,none,none,[],[],[],0⟩

theorem ping_tears_reader_down :
    (String.ofList endlessPing).utf8ByteSize ≤ maxWsMsgSize ∧
      ¬Survived (.cpython 1000 1000 1000) (fun _ => none) (fun _ => none) idleReader endlessPing := by
  refine ⟨by decide +kernel,?_⟩
  rw [frame_survived_iff rfl]
  decide +kernel

theorem bare_ping_survived :
    Survived (.cpython 1000 1000 1000) (fun _ => none) (fun _ => none) idleReader "\x7b\"op\":\"ping\"\x7d".toList :=
  ((reader_survives_iff idleReader rfl).1 _).mpr (by decide +kernel)

end LoomClient.Transport
