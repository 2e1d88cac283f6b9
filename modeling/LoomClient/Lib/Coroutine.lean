import LoomClient.Lib.Transition

namespace LoomClient.Lib

-- A coroutine over a shared state: everything between two questions runs without interruption,
-- and `none` is the failure of a question.
inductive Walk (σ : Type) (ω : Type) (ρ : Type) (answer : ρ → Type) where
  | done
  | perform (effect : ω) (next : Walk σ ω ρ answer)
  | look (next : σ → Walk σ ω ρ answer)
  | ask (question : ρ) (next : Option (answer question) → Walk σ ω ρ answer)

namespace Walk
variable {σ ω ρ : Type} {answer : ρ → Type} (apply : σ → ω → σ)

def settle : Walk σ ω ρ answer → σ → List ω × Walk σ ω ρ answer
  | .done,_ => ([],.done)
  | .perform effect next,s =>
    let rest := settle next (apply s effect)
    (effect :: rest.1,rest.2)
  | .look next,s => settle (next s) s
  | .ask question next,_ => ([],.ask question next)

def isDone : Walk σ ω ρ answer → Bool
  | .done => true
  | _ => false

def reply (answers : (question : ρ) → Option (answer question)) : Walk σ ω ρ answer → Walk σ ω ρ answer
  | .ask question next => next (answers question)
  | other => other

-- The same coroutine with nothing interleaved.
def complete (answers : (question : ρ) → Option (answer question)) : Walk σ ω ρ answer → σ → σ
  | .done,s => s
  | .perform effect next,s => complete answers next (apply s effect)
  | .look next,s => complete answers (next s) s
  | .ask question next,s => complete answers (next (answers question)) s

-- Whatever it is answered and whatever state it reads.
def Only (asks : ρ → Prop) (performs : ω → Prop) : Walk σ ω ρ answer → Prop
  | .done => True
  | .perform effect next => performs effect ∧ Only asks performs next
  | .look next => ∀ s, Only asks performs (next s)
  | .ask question next => asks question ∧ ∀ reply, Only asks performs (next reply)

variable {apply : σ → ω → σ}

theorem complete_only {asks : ρ → Prop} {performs : ω → Prop} (holds : σ → Prop)
    (kept : ∀ s effect, performs effect → holds s → holds (apply s effect))
    (answers : (question : ρ) → Option (answer question)) (walk : Walk σ ω ρ answer) (s : σ)
    (only : walk.Only asks performs) (first : holds s) : holds (complete apply answers walk s) := by
  induction walk generalizing s with
  | done => exact first
  | perform effect next ih => exact ih (apply s effect) only.2 (kept s effect only.1 first)
  | look next ih => exact ih s s (only s) first
  | ask question next ih => exact ih (answers question) s (only.2 (answers question)) first

theorem only_settle {asks : ρ → Prop} {performs : ω → Prop} (walk : Walk σ ω ρ answer) (s : σ)
    (only : walk.Only asks performs) :
    (∀ effect ∈ (settle apply walk s).1, performs effect) ∧ (settle apply walk s).2.Only asks performs := by
  induction walk generalizing s with
  | done => exact ⟨nofun,trivial⟩
  | perform effect next ih =>
    have rest := ih (apply s effect) only.2
    exact ⟨fun other member => (List.mem_cons.mp member).elim (fun same => same ▸ only.1) (rest.1 other),rest.2⟩
  | look next ih => exact ih s s (only s)
  | ask question next => exact ⟨nofun,only⟩

theorem only_reply {asks : ρ → Prop} {performs : ω → Prop} (answers : (question : ρ) → Option (answer question))
    (walk : Walk σ ω ρ answer) (only : walk.Only asks performs) : (walk.reply answers).Only asks performs := by
  cases walk with
  | ask question next => exact only.2 (answers question)
  | _ => exact only

theorem only_mono {asks asks' : ρ → Prop} {performs performs' : ω → Prop} (wider : ∀ question, asks question → asks' question)
    (more : ∀ effect, performs effect → performs' effect) (walk : Walk σ ω ρ answer) (only : walk.Only asks performs) :
    walk.Only asks' performs' := by
  induction walk with
  | done => trivial
  | perform effect next ih => exact ⟨more effect only.1,ih only.2⟩
  | look next ih => exact fun s => ih s (only s)
  | ask question next ih => exact ⟨wider question only.1,fun reply => ih reply (only.2 reply)⟩

-- What a coroutine does up to its next question is licensed by the reply it goes on with.
section Licences
variable (apply : σ → ω → σ) (asks : σ → ρ → Prop) (grants : (question : ρ) → Option (answer question) → σ → σ → Prop)

def Licensed : (σ → σ → Prop) → Walk σ ω ρ answer → σ → Prop
  | _,.done,_ => True
  | may,.perform effect next,s => may s (apply s effect) ∧ Licensed may next (apply s effect)
  | may,.look next,s => Licensed may (next s) s
  | _,.ask question next,s => asks s question ∧ ∀ reply t, Licensed (grants question reply) (next reply) t

def Held : Walk σ ω ρ answer → σ → Prop
  | .ask question next,s => asks s question ∧ ∀ reply t, Licensed apply asks grants (grants question reply) (next reply) t
  | .done,_ => True
  | _,_ => False

variable {apply asks grants} {may : σ → σ → Prop}

theorem licensed_settle (refl : ∀ s, may s s) (trans : ∀ s t u, may s t → may t u → may s u) (walk : Walk σ ω ρ answer)
    (s : σ) (licensed : Licensed apply asks grants may walk s) :
    may s ((settle apply walk s).1.foldl apply s) ∧
      Held apply asks grants (settle apply walk s).2 ((settle apply walk s).1.foldl apply s) := by
  induction walk generalizing s with
  | done => exact ⟨refl s,trivial⟩
  | perform effect next ih =>
    obtain ⟨later,held⟩ := ih (apply s effect) licensed.2
    exact ⟨trans s _ _ licensed.1 later,held⟩
  | look next ih => exact ih s s licensed
  | ask question next => exact ⟨refl s,licensed⟩

theorem licensed_of_only {allowed : ρ → Prop} {performs : ω → Prop} (asked : ∀ s question, allowed question → asks s question)
    (granted : ∀ question reply s effect, performs effect → grants question reply s (apply s effect))
    (now : ∀ s effect, performs effect → may s (apply s effect)) (walk : Walk σ ω ρ answer) (s : σ)
    (only : walk.Only allowed performs) : Licensed apply asks grants may walk s := by
  induction walk generalizing s may with
  | done => trivial
  | perform effect next ih => exact ⟨now s effect only.1,ih now _ only.2⟩
  | look next ih => exact ih s now s (only s)
  | ask question next ih =>
    exact ⟨asked s question only.1,fun reply t => ih reply (granted question reply) t (only.2 reply)⟩

theorem held_along (stays : ∀ s t question, may s t → asks s question → asks t question) (walk : Walk σ ω ρ answer)
    (moved : may s t) (held : Held apply asks grants walk s) : Held apply asks grants walk t := by
  cases walk with
  | ask question next => exact ⟨stays s t question moved held.1,held.2⟩
  | _ => exact held

end Licences

end Walk
end LoomClient.Lib
