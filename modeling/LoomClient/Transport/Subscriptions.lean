import LoomClient.Transport.ResumeCursor

namespace LoomClient.Transport
open Lib Client
variable {ε : Type}

-- The ping a frame is, where it is one.
def pingOf (i : Interpreter) (raw : List Char) : Option (List (Text × Json)) :=
  match Json.loads i.toLimits raw with
  | .ok (.obj frame) => match (Json.get? frame "op").bind notNull with
    | some op => if controlOp op = .ping then some frame else none
    | none => none
  | _ => none

section Pongs
variable {i : Interpreter} {validate : Json → Option ε} {seq : ε → Option Int}

theorem read_rtt_sent (x : Reader ε) (frame : List (Text × Json)) : (readRtt x frame).1.sent = x.sent := by
  unfold readRtt
  repeat' split
  all_goals rfl

theorem ping_sent {x : Reader ε} (opened : x.socketOpen = true) (frame : List (Text × Json)) :
    (handlePing i x frame).1.sent = x.sent ++ if (handlePing i x frame).2 = none then [pong frame] else [] := by
  have still : (readRtt x frame).1.socketOpen = true := by rw [read_rtt_socket,opened]
  have same := read_rtt_sent x frame
  unfold handlePing Handled.andThen
  cases raised : (readRtt x frame).2 with
  | some e => simp [same]
  | none =>
    simp only [Reader.send,still,if_true]
    cases writing i i.dumpsNesting (pong frame) with
    | none => simp [same]
    | some e => simp [same]

theorem replay_lost_sent (x : Reader ε) (frame : List (Text × Json)) : (handleReplayLost i x frame).1.sent = x.sent := by
  unfold handleReplayLost
  dsimp only
  split <;> rfl

theorem handle_text_sent {x : Reader ε} (opened : x.socketOpen = true) (raw : List Char) :
    (x.handleText i validate seq raw).1.sent =
      x.sent ++ if tame i validate raw then ((pingOf i raw).map pong).toList else [] := by
  have calm : (x.handleText i validate seq raw).2 = none ↔ tame i validate raw = true := frame_returned opened raw
  unfold pingOf
  unfold Reader.handleText at calm ⊢
  cases loaded : Json.loads i.toLimits raw with
  | error r => simp
  | ok v =>
    cases v with
    | obj frame =>
      simp only [loaded,handleObject] at calm ⊢
      cases asked : (Json.get? frame "op").bind notNull with
      | none =>
        dsimp only
        unfold parseEnvelope enqueue triggerResync
        repeat' split
        all_goals simp
      | some op =>
        simp only [asked,handleControl] at calm ⊢
        cases kind : controlOp op with
        | ping =>
          simp only [kind] at calm ⊢
          rw [ping_sent opened,if_congr calm rfl rfl]
          simp
        | replayLost => simp [replay_lost_sent]
        | _ => simp [setResult]
    | _ => simp

theorem pongs_answer_pings (i : Interpreter) (validate : Json → Option ε) (seq : ε → Option Int) (x : Reader ε)
    (opened : x.socketOpen = true) (frames : List (List Char)) :
    (readFrames i validate seq frames x).1.sent =
      x.sent ++ ((frames.takeWhile (tame i validate)).filterMap (pingOf i)).map pong := by
  induction frames generalizing x with
  | nil => simp [readFrames]
  | cons raw rest ih =>
    have sent : (x.handleText i validate seq raw).1.sent =
        x.sent ++ if tame i validate raw then ((pingOf i raw).map pong).toList else [] := handle_text_sent opened raw
    have calm : (x.handleText i validate seq raw).2 = none ↔ tame i validate raw = true := frame_returned opened raw
    have still : (x.handleText i validate seq raw).1.socketOpen = true := by rw [handle_text_socket,opened]
    unfold readFrames Handled.andThen
    cases quiet : tame i validate raw with
    | false =>
      have raised : (x.handleText i validate seq raw).2 ≠ none := fun returned => by simp [calm.mp returned] at quiet
      obtain ⟨e,held⟩ := Option.ne_none_iff_exists'.mp raised
      simp [held,sent,quiet]
    | true =>
      rw [calm.mpr quiet]
      dsimp only
      rw [ih _ still,sent,quiet,List.takeWhile_cons_of_pos quiet]
      cases asked : pingOf i raw with
      | none => simp [asked]
      | some frame => simp [asked]

end Pongs

def frameTopics (frame : List (Text × Json)) : List Text :=
  match Json.get? frame "topics" with
  | some (.arr items) => items.filterMap fun
    | .str topic => some topic
    | _ => none
  | _ => []

def frameOp (frame : List (Text × Json)) : Json := (Json.get? frame "op").getD .null

def applyFrame (held : List Text) : Json → List Text
  | .obj frame =>
    if (frameOp frame).isText "subscribe" then held ++ frameTopics frame
    else if (frameOp frame).isText "unsubscribe" then held.filter (· ∉ frameTopics frame)
    else held
  | _ => held

-- The transport, and how many frames it had sent when the current connection opened.
structure Wire (ε : Type) where
  resume : Resume ε
  opened : Nat

def Wire.initial (topics : List Text) : Wire ε := ⟨.initial topics,0⟩
def Wire.frames (x : Wire ε) : List Json := x.resume.reader.sent.drop x.opened
def Wire.asked (x : Wire ε) : List Text := x.frames.foldl applyFrame []

def openedAfter (x : Wire ε) : ResumeAction ε → Nat
  | .connect => x.resume.reader.sent.length
  | _ => x.opened

def wireStep (i : Interpreter) (validate : Json → Option ε) (seq : ε → Option Int) (o : SubscribeOptions)
    (x : Wire ε) (a : ResumeAction ε) : Option (Wire ε) :=
  (resumeStep i validate seq o x.resume a).map fun resume => ⟨resume,openedAfter x a⟩

-- The options of the transport ride on a subscribe frame.
def Flagged (o : SubscribeOptions) : Json → Prop
  | .obj frame => (frameOp frame).isText "subscribe" = true →
    Json.get? frame "classify" = (if o.classify then some (.bool true) else none) ∧
      Json.get? frame "released_only" = if o.releasedOnly then some (.bool true) else none
  | _ => True

structure Mirrored (o : SubscribeOptions) (x : Wire ε) : Prop where
  topics : x.resume.reader.socketOpen = true → ∀ topic, topic ∈ x.asked ↔ topic ∈ x.resume.subscriptions
  flagged : ∀ frame ∈ x.resume.reader.sent, Flagged o frame
  within : x.opened ≤ x.resume.reader.sent.length

section Mirror
variable {i : Interpreter} {validate : Json → Option ε} {seq : ε → Option Int} {o : SubscribeOptions}

theorem topics_frame_op (op : String) (topics : List Text) (rest : List (Text × Json)) :
    frameOp ([(text "op",.str (text op)),(text "topics",.arr (topics.map .str))] ++ rest) = .str (text op) := by
  simp [frameOp,Json.get?]

theorem topics_frame_topics (op : String) (topics : List Text) (rest : List (Text × Json)) :
    frameTopics ([(text "op",.str (text op)),(text "topics",.arr (topics.map .str))] ++ rest) = topics := by
  have apart : (text "topics" == text "op") = false := by decide
  simp [frameTopics,Json.get?,List.lookup_cons,apart]

theorem topics_frame_flagged (topics : List Text) {rest : List (Text × Json)}
    (since : rest.lookup (text "classify") = none ∧ rest.lookup (text "released_only") = none) :
    Flagged o (.obj ([(text "op",.str (text "subscribe")),(text "topics",.arr (topics.map .str))] ++ flags o ++ rest)) := by
  have one : (text "classify" == text "op") = false := by decide
  have two : (text "classify" == text "topics") = false := by decide
  have three : (text "released_only" == text "op") = false := by decide
  have four : (text "released_only" == text "topics") = false := by decide
  have five : (text "released_only" == text "classify") = false := by decide
  have six : (text "classify" == text "released_only") = false := by decide
  intro _
  unfold flags
  cases o.classify <;> cases o.releasedOnly <;>
    simp [Json.get?,List.lookup_cons,one,two,three,four,five,six,since.1,since.2]

theorem strings_plain (topics : List Text) :
    Json.itemsDepth (topics.map .str) = 0 ∧ Json.itemsWithin digits (topics.map .str) = true := by
  induction topics with
  | nil => exact ⟨rfl,rfl⟩
  | cons topic rest ih =>
    refine ⟨?_,?_⟩
    · rw [List.map_cons,Json.itemsDepth,ih.1]
      rfl
    · rw [List.map_cons,Json.itemsWithin,ih.2]
      rfl

theorem topics_frame_written (nested : 2 ≤ i.dumpsNesting) (op : String) (topics : List Text) (o : SubscribeOptions) :
    writing i i.dumpsNesting (topicsFrame op topics (flags o)) = none ∧
      writing i i.dumpsNesting (topicsFrame op topics []) = none := by
  obtain ⟨depth,within⟩ := @strings_plain i.digits topics
  have zero : ¬i.dumpsNesting < 2 := Nat.not_lt.mpr nested
  unfold writing topicsFrame flags
  constructor
  · cases o.classify <;> cases o.releasedOnly <;>
      simp [Json.depth,Json.entriesDepth,Json.intsWithin,Json.entriesWithin,depth,within,zero]
  · simp [Json.depth,Json.entriesDepth,Json.intsWithin,Json.entriesWithin,depth,within,zero]

theorem announce_sent {x : Resume ε} {frame : Json} (written : writing i i.dumpsNesting frame = none) :
    (x.announce i frame).reader.sent = x.reader.sent ++ (if x.reader.socketOpen then [frame] else []) ∧
      (x.announce i frame).reader.socketOpen = x.reader.socketOpen ∧ (x.announce i frame).subscriptions = x.subscriptions := by
  unfold Resume.announce
  split
  · rename_i opened
    simp [Reader.send,opened,written]
  · rename_i closed
    simp [closed]

theorem asked_append {x : Wire ε} {resume : Resume ε} (within : x.opened ≤ x.resume.reader.sent.length)
    (sent : resume.reader.sent = x.resume.reader.sent ++ later) :
    (⟨resume,x.opened⟩ : Wire ε).asked = later.foldl applyFrame x.asked := by
  unfold Wire.asked Wire.frames
  rw [sent,List.drop_append_of_le_length within,List.foldl_append]

theorem pong_ignored (held : List Text) (frame : List (Text × Json)) : applyFrame held (pong frame) = held := by
  have one : decide (text "pong" = text "subscribe") = false := by decide
  have two : decide (text "pong" = text "unsubscribe") = false := by decide
  simp [applyFrame,pong,frameOp,Json.get?,Json.isText,one,two]

theorem pong_flagged (frame : List (Text × Json)) : Flagged o (pong frame) := by
  have one : decide (text "pong" = text "subscribe") = false := by decide
  intro asked
  simp [frameOp,Json.get?,Json.isText,one] at asked

theorem unsubscribe_flagged (topics : List Text) : Flagged o (topicsFrame "unsubscribe" topics []) := by
  have one : decide (text "unsubscribe" = text "subscribe") = false := by decide
  intro asked
  rw [topics_frame_op,Json.isText,one] at asked
  cases asked

theorem apply_subscribe (held topics : List Text) (rest : List (Text × Json)) :
    applyFrame held (topicsFrame "subscribe" topics rest) = held ++ topics := by
  unfold topicsFrame applyFrame
  dsimp only
  rw [topics_frame_op,topics_frame_topics]
  simp [Json.isText]

theorem apply_unsubscribe (held topics : List Text) :
    applyFrame held (topicsFrame "unsubscribe" topics []) = held.filter (· ∉ topics) := by
  have one : decide (text "unsubscribe" = text "subscribe") = false := by decide
  unfold topicsFrame applyFrame
  dsimp only
  rw [topics_frame_op,topics_frame_topics]
  simp [Json.isText,one]

theorem hear_mirrored {x : Wire ε} (mirrored : Mirrored o x) (opened : x.resume.reader.socketOpen = true) (raw : List Char) :
    Mirrored o ⟨x.resume.hear i validate seq raw,x.opened⟩ := by
  have sent : (x.resume.hear i validate seq raw).reader.sent =
      x.resume.reader.sent ++ if tame i validate raw then ((pingOf i raw).map pong).toList else [] := handle_text_sent opened raw
  have answered : ∀ frame ∈ if tame i validate raw then ((pingOf i raw).map pong).toList else [], ∃ ping, frame = pong ping := by
    intro frame member
    split at member
    · cases asked : pingOf i raw with
      | none => simp [asked] at member
      | some ping => exact ⟨ping,by simpa [asked] using member⟩
    · cases member
  refine ⟨fun _ topic => ?_,fun frame member => ?_,?_⟩
  · have same : ∀ held : List Text, (if tame i validate raw then ((pingOf i raw).map pong).toList else []).foldl applyFrame held = held := by
      intro held
      split
      · cases pingOf i raw with
        | none => rfl
        | some ping => exact pong_ignored held ping
      · rfl
    rw [asked_append mirrored.within sent,same]
    exact mirrored.topics opened topic
  · dsimp only at member
    rw [sent] at member
    rcases List.mem_append.mp member with before | now
    · exact mirrored.flagged frame before
    · obtain ⟨ping,rfl⟩ := answered frame now
      exact pong_flagged ping
  · dsimp only
    rw [sent,List.length_append]
    exact Nat.le_add_right_of_le mirrored.within

theorem initial_flagged {x : Resume ε} {frame : List (Text × Json)} (subscribed : initialSubscribe o x = some frame) :
    Flagged o (.obj frame) := by
  have one : (text "classify" == text "since") = false := by decide
  have two : (text "released_only" == text "since") = false := by decide
  unfold initialSubscribe at subscribed
  split at subscribed
  · cases subscribed
  · cases subscribed
    apply topics_frame_flagged
    cases x.cursor <;> simp [List.lookup_cons,one,two]

theorem initial_topics {x : Resume ε} {frame : List (Text × Json)} (subscribed : initialSubscribe o x = some frame) :
    ∀ topic, topic ∈ applyFrame [] (.obj frame) ↔ topic ∈ x.subscriptions := by
  intro topic
  unfold initialSubscribe at subscribed
  split at subscribed
  · cases subscribed
  · cases subscribed
    have sent := apply_subscribe [] (sortedTopics x.subscriptions) (flags o ++ (x.cursor.map fun since => (text "since",since)).toList)
    unfold topicsFrame at sent
    rw [List.append_assoc,sent]
    simp [sortedTopics]

theorem connect_mirrored {x : Wire ε} (mirrored : Mirrored o x) :
    Mirrored o ⟨x.resume.connect i o,x.resume.reader.sent.length⟩ := by
  unfold Resume.connect
  cases subscribed : initialSubscribe o x.resume with
  | none =>
    have none : x.resume.subscriptions = [] := by
      unfold initialSubscribe at subscribed
      split at subscribed
      · assumption
      · cases subscribed
    refine ⟨fun _ topic => ?_,mirrored.flagged,le_refl _⟩
    simp [Wire.asked,Wire.frames,none]
  | some frame =>
    dsimp only
    simp only [Reader.send,if_true]
    cases written : writing i i.dumpsNesting (.obj frame) with
    | some e => exact ⟨fun opened => (by simp [closedIf] at opened),mirrored.flagged,le_refl _⟩
    | none =>
      refine ⟨fun _ topic => ?_,fun sent member => ?_,?_⟩
      · simp only [Wire.asked,Wire.frames,closedIf,List.drop_left,List.foldl_cons,List.foldl_nil]
        exact initial_topics subscribed topic
      · rcases List.mem_append.mp member with before | now
        · exact mirrored.flagged sent before
        · rw [List.mem_singleton.mp now]
          exact initial_flagged subscribed
      · simp [closedIf]

theorem announce_mirrored {x : Wire ε} {frame : Json} {subscriptions : List Text} (mirrored : Mirrored o x)
    (written : writing i i.dumpsNesting frame = none) (flagged : Flagged o frame)
    (moved : ∀ held : List Text, (∀ topic, topic ∈ held ↔ topic ∈ x.resume.subscriptions) →
      ∀ topic, topic ∈ applyFrame held frame ↔ topic ∈ subscriptions) :
    Mirrored o ⟨({x.resume with subscriptions} : Resume ε).announce i frame,x.opened⟩ := by
  obtain ⟨sent,opened,topics⟩ := @announce_sent ε i {x.resume with subscriptions} frame written
  refine ⟨fun up topic => ?_,fun told member => ?_,?_⟩
  · dsimp only at up ⊢
    rw [opened] at up
    have up : x.resume.reader.socketOpen = true := up
    dsimp only at sent
    rw [up,if_pos rfl] at sent
    rw [topics,asked_append mirrored.within sent,List.foldl_cons,List.foldl_nil]
    exact moved _ (mirrored.topics up) topic
  · dsimp only at member
    rw [sent] at member
    rcases List.mem_append.mp member with before | now
    · exact mirrored.flagged told before
    · split at now
      · rw [List.mem_singleton.mp now]
        exact flagged
      · cases now
  · dsimp only
    rw [sent,List.length_append]
    exact Nat.le_add_right_of_le mirrored.within

theorem subscribe_mirrored {x : Wire ε} (nested : 2 ≤ i.dumpsNesting) (mirrored : Mirrored o x) (topics : List Text) :
    Mirrored o ⟨x.resume.subscribe i o topics,x.opened⟩ := by
  unfold Resume.subscribe
  dsimp only
  split
  · exact mirrored
  · refine announce_mirrored mirrored (topics_frame_written nested _ _ _).1 ?_ ?_
    · have plain : ∀ key, ([] : List (Text × Json)).lookup key = none := fun key => rfl
      have flagged := topics_frame_flagged (o := o) (topics.filter (· ∉ x.resume.subscriptions)) ⟨plain (text "classify"),plain (text "released_only")⟩
      rw [List.append_nil] at flagged
      exact flagged
    · intro held same topic
      rw [apply_subscribe,List.mem_append,List.mem_append,List.mem_dedup,same]

theorem unsubscribe_mirrored {x : Wire ε} (nested : 2 ≤ i.dumpsNesting) (mirrored : Mirrored o x) (topics : List Text) :
    Mirrored o ⟨x.resume.unsubscribe i topics,x.opened⟩ := by
  unfold Resume.unsubscribe
  dsimp only
  split
  · exact mirrored
  · refine announce_mirrored mirrored (topics_frame_written nested _ _ o).2 (unsubscribe_flagged _) ?_
    intro held same topic
    have kept : topic ∈ held ↔ topic ∈ x.resume.subscriptions := same topic
    rw [apply_unsubscribe]
    simp [kept]

theorem wire_step_mirrored {x : Wire ε} (nested : 2 ≤ i.dumpsNesting) (mirrored : Mirrored o x)
    (stepped : wireStep i validate seq o x a = some y) : Mirrored o y := by
  obtain ⟨resume,moved,rfl⟩ := Option.map_eq_some_iff.mp stepped
  cases a with
  | frame raw =>
    simp only [resumeStep] at moved
    split at moved
    · rename_i opened
      cases moved
      exact hear_mirrored mirrored opened raw
    · cases moved
  | connect =>
    simp only [resumeStep] at moved
    split at moved
    · cases moved
    · cases moved
      exact connect_mirrored mirrored
  | disconnect =>
    cases moved
    exact ⟨fun opened => (by cases opened),mirrored.flagged,mirrored.within⟩
  | subscribe topics =>
    cases moved
    exact subscribe_mirrored nested mirrored topics
  | unsubscribe topics =>
    cases moved
    exact unsubscribe_mirrored nested mirrored topics
  | consume action =>
    simp only [resumeStep] at moved
    split at moved
    · cases moved
    · obtain ⟨stream,_,rfl⟩ := Option.map_eq_some_iff.mp moved
      exact ⟨mirrored.topics,mirrored.flagged,mirrored.within⟩

end Mirror

-- In whatever order the frames, calls and connections come.
theorem daemon_holds_subscriptions (i : Interpreter) (nested : 2 ≤ i.dumpsNesting) (validate : Json → Option ε)
    (seq : ε → Option Int) (o : SubscribeOptions) (topics : List Text) (actions : List (ResumeAction ε)) :
    Always (wireStep i validate seq o) (Mirrored o) (.initial topics) actions := by
  apply always_of_invariant
  · exact ⟨fun opened => (by cases opened),fun frame member => (by cases member),le_refl _⟩
  · exact fun x a y mirrored stepped => wire_step_mirrored nested mirrored stepped

theorem daemon_holds_after_reconnect :
    Always (wireStep (.cpython 1000 1000 1000) (fun _ => none) (fun _ : Unit => none) ⟨false,true⟩) (Mirrored ⟨false,true⟩)
      (.initial [text "datapoint.*"])
      [.connect,.subscribe [text "hub.*"],.disconnect,.unsubscribe [text "datapoint.*"],.connect] :=
  daemon_holds_subscriptions (.cpython 1000 1000 1000) (by decide) _ _ _ _ _

theorem pong_echoes_token :
    (readFrames (.cpython 1000 1000 1000) (fun _ => none) (fun _ : Unit => none)
      ["\x7b\"op\":\"ping\",\"echo\":7\x7d".toList] ⟨.initial,true,none,none,[],[],[],0⟩).1.sent =
      [] ++ ((["\x7b\"op\":\"ping\",\"echo\":7\x7d".toList].takeWhile (tame (.cpython 1000 1000 1000) fun _ => (none : Option Unit))).filterMap
        (pingOf (.cpython 1000 1000 1000))).map pong :=
  pongs_answer_pings (.cpython 1000 1000 1000) (fun _ => none) (fun _ : Unit => none) ⟨.initial,true,none,none,[],[],[],0⟩ rfl _

end LoomClient.Transport
