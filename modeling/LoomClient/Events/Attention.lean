import LoomClient.Events.Bus

namespace LoomClient.Events
open Lib
variable {Kind Key Handler : Type} [DecidableEq Kind] [DecidableEq Key] [BEq Handler]

def Bus.terms (b : Bus Kind Key Handler) (sub : Nat) : Option (Kind × Option Key) :=
  (b.heap[sub]?).map fun held => (held.eventType,held.eventKey)

-- The events a subscription is for, whether it is cancelled or not.
def Bus.wants (b : Bus Kind Key Handler) (sub : Nat) (event : Event Kind Key) : Bool :=
  (b.terms sub).any fun (eventType,eventKey) =>
    decide (eventType = event.kind) && decide (eventKey = none ∨ eventKey = event.eventKey)

-- The subscription is in the snapshot, and once its turn is over it was called if the event is for it.
structure Bus.Attends (b : Bus Kind Key Handler) (sub : Nat) (kind : Kind) (p : Publish Kind Key) : Prop where
  listed : p.event.kind = kind → sub ∈ p.turned ++ p.waiting
  called : sub ∈ p.turned → (sub ∈ p.calls ↔ b.wants sub p.event = true)

section Terms
variable {s t : Bus Kind Key Handler}

theorem unsubscribe_terms (b : Bus Kind Key Handler) (gone sub : Nat) : (b.unsubscribe gone).terms sub = b.terms sub := by
  unfold Bus.terms
  rw [unsubscribe_heap,List.getElem?_modify]
  cases b.heap[sub]? with
  | none => simp
  | some held => by_cases here : gone = sub <;> simp [here,Subscription.cancel]

theorem unsubscribe_all_terms (b : Bus Kind Key Handler) (members : List Nat) (sub : Nat) :
    (members.foldl Bus.unsubscribe b).terms sub = b.terms sub :=
  foldl_frame Bus.unsubscribe (fun b => b.terms sub) (fun b gone => unsubscribe_terms b gone sub) b members

theorem unsubscribe_all_length (b : Bus Kind Key Handler) (members : List Nat) :
    (members.foldl Bus.unsubscribe b).heap.length = b.heap.length :=
  foldl_frame Bus.unsubscribe (fun b => b.heap.length)
    (fun b gone => by rw [unsubscribe_heap,List.length_modify]) b members

omit [DecidableEq Key] [BEq Handler] in
theorem subscribe_terms (b : Bus Kind Key Handler) (eventType : Kind) (eventKey : Option Key) (handler : Handler)
    (old : sub < b.heap.length) : (b.subscribe eventType eventKey handler).terms sub = b.terms sub := by
  simp only [Bus.terms,Bus.subscribe]
  rw [List.getElem?_append_left old]

theorem step_terms (next : s.step a = some t) (old : sub < s.heap.length) :
    t.terms sub = s.terms sub ∧ s.heap.length ≤ t.heap.length := by
  cases a with
  | subscribe eventType eventKey handler =>
    cases next
    refine ⟨subscribe_terms s eventType eventKey handler old,?_⟩
    simp [Bus.subscribe]
  | unsubscribe gone =>
    simp only [Bus.step] at next
    split at next
    · cases next
      rw [unsubscribe_terms,unsubscribe_heap,List.length_modify]
      exact ⟨rfl,Nat.le_refl _⟩
    · cases next
  | createSubscriptionGroup =>
    cases next
    exact ⟨rfl,Nat.le_refl _⟩
  | groupSubscribe group eventType eventKey handler =>
    simp only [Bus.step] at next
    split at next
    · cases next
      refine ⟨subscribe_terms s eventType eventKey handler old,?_⟩
      simp [Bus.subscribe]
    · cases next
  | groupCancel group =>
    simp only [Bus.step] at next
    split at next
    · cases next
      rw [unsubscribe_all_terms,unsubscribe_all_length]
      exact ⟨rfl,Nat.le_refl _⟩
    · cases next
  | publish event =>
    cases next
    exact ⟨rfl,Nat.le_refl _⟩
  | settle i ending =>
    simp only [Bus.step] at next
    split at next
    · cases next
    · split at next
      · cases next
        exact ⟨rfl,Nat.le_refl _⟩
      · cases next

end Terms

section Attention
variable {s t : Bus Kind Key Handler}

omit [DecidableEq Key] [BEq Handler] in
theorem bucket_below (registry : s.Registry) (there : sub ∈ s.bucket kind) : sub < s.heap.length :=
  registered_below ((mem_bucket registry).mp there)

omit [BEq Handler] in
theorem reaches_wanted (registry : s.Registry) (there : sub ∈ s.bucket kind) (event : Event Kind Key) :
    s.reaches event sub = s.wants sub event := by
  obtain ⟨held,found,standing,_⟩ := registered_held ((mem_bucket registry).mp there)
  have listed : sub ∈ s.bucket event.kind ↔ held.eventType = event.kind := by
    rw [mem_bucket registry]
    simp [Bus.registered,found,standing]
  simp only [Bus.reaches,Bus.wants,Bus.terms,found,Option.any_some,Option.map_some,Subscription.admits]
  by_cases typed : held.eventType = event.kind <;> simp [listed,typed]

omit [BEq Handler] in
theorem wants_kind (registry : s.Registry) (there : sub ∈ s.bucket kind) (wanted : s.wants sub event = true) :
    event.kind = kind := by
  obtain ⟨held,found,_,typed⟩ := registered_held ((mem_bucket registry).mp there)
  simp only [Bus.wants,Bus.terms,found,Option.map_some,Option.any_some,Bool.and_eq_true,decide_eq_true_eq] at wanted
  exact wanted.1.symm.trans typed

omit [BEq Handler] in
theorem wants_carried (same : t.terms sub = s.terms sub) (event : Event Kind Key) : t.wants sub event = s.wants sub event := by
  rw [Bus.wants,Bus.wants,same]

omit [BEq Handler] in
theorem turns_attend (registry : s.Registry) (there : sub ∈ s.bucket kind) (same : t.terms sub = s.terms sub)
    {p q : Publish Kind Key} (turns : Turns s p q now) (order : (q.turned ++ q.waiting).Pairwise (· < ·))
    (before : p.calls.Sublist p.turned) (attends : s.Attends sub kind p) : t.Attends sub kind q := by
  have whole : q.turned ++ q.waiting = p.turned ++ p.waiting := by rw [turns.turned,turns.next,List.append_assoc]
  refine ⟨fun typed => ?_,fun turned => ?_⟩
  · rw [whole]
    exact attends.listed (turns.event ▸ typed)
  · have apart : ∀ m ∈ p.turned, m ∉ now := by
      have distinct := (order.imp Nat.ne_of_lt).sublist (List.sublist_append_left q.turned q.waiting)
      rw [turns.turned] at distinct
      intro m early late
      exact (List.pairwise_append.mp distinct).2.2 m early m late rfl
    rw [turns.calls,turns.event,wants_carried same,List.mem_append,List.mem_filter,reaches_wanted registry there]
    rw [turns.turned] at turned
    rcases List.mem_append.mp turned with early | late
    · rw [← attends.called early]
      exact ⟨fun either => either.resolve_right fun now => apart sub early now.1,Or.inl⟩
    · have fresh : sub ∉ p.calls := fun called => apart sub (before.subset called) late
      exact ⟨fun either => (either.resolve_left fresh).2,fun wanted => .inr ⟨late,wanted⟩⟩

omit [BEq Handler] in
theorem opened_attends (there : sub ∈ s.bucket kind) (event : Event Kind Key) : s.Attends sub kind (s.opened event) where
  listed typed := by
    simp only [Bus.opened] at typed ⊢
    rw [typed]
    exact there
  called turned := absurd turned List.not_mem_nil

theorem step_bucket (standing : s.Standing) (next : s.step a = some t) (old : sub < s.heap.length) (still : sub ∈ t.bucket kind) :
    sub ∈ s.bucket kind := by
  have removed := (step_law standing next).2.removed kind
  rw [removed] at still
  obtain ⟨either,_⟩ := List.mem_filter.mp still
  rcases List.mem_append.mp either with there | fresh
  · exact there
  · have last : sub = s.heap.length := by
      cases a <;> simp only [Action.registers] at fresh <;> first | split at fresh | skip
      all_goals first | exact List.mem_singleton.mp fresh | cases fresh
    omega

theorem step_publishes {i : Nat} (standing : s.Standing) (next : s.step a = some t) {p : Publish Kind Key}
    (found : s.publishes[i]? = some p) :
    ∃ q : Publish Kind Key, t.publishes[i]? = some q ∧ q.event = p.event ∧ (p.stage = .finished → q.stage = .finished) := by
  obtain ⟨_,law⟩ := step_law standing next
  by_cases own : ∃ ending, a = .settle i ending
  · obtain ⟨ending,equal⟩ := own
    obtain ⟨p',q,now,found',running,later,turns,_⟩ := law.resumed i ending equal
    cases found.symm.trans found'
    refine ⟨q,later,turns.event,fun finished => ?_⟩
    rw [running] at finished
    cases finished
  · exact ⟨p,law.others i (fun ending equal => own ⟨ending,equal⟩) p found,rfl,fun finished => finished⟩

theorem step_attends {i : Nat} (standing : s.Standing) (next : s.step a = some t) (old : sub < s.heap.length)
    (still : sub ∈ t.bucket kind) {p q : Publish Kind Key} (found : s.publishes[i]? = some p) (later : t.publishes[i]? = some q)
    (attends : s.Attends sub kind p) : t.Attends sub kind q := by
  have there := step_bucket standing next old still
  obtain ⟨same,_⟩ := step_terms next old
  obtain ⟨after,law⟩ := step_law standing next
  by_cases own : ∃ ending, a = .settle i ending
  · obtain ⟨ending,equal⟩ := own
    obtain ⟨p',q',now,found',_,later',turns,_⟩ := law.resumed i ending equal
    cases found.symm.trans found'
    cases later.symm.trans later'
    exact turns_attend standing.registry there same turns (law.once q (List.mem_of_getElem? later)).1
      (standing.stands p (List.mem_of_getElem? found)).called attends
  · cases (law.others i (fun ending equal => own ⟨ending,equal⟩) p found).symm.trans later
    refine ⟨attends.listed,fun turned => ?_⟩
    rw [wants_carried same]
    exact attends.called turned

variable (sub kind) in
theorem publish_attends (standing : s.Standing) (event : Event Kind Key) :
    ∃ q, (s.publish event).publishes = s.publishes ++ [q] ∧ q.event = event ∧
      (sub ∈ s.bucket kind → (s.publish event).Attends sub kind q) := by
  have same : (s.publish event).terms sub = s.terms sub := rfl
  obtain ⟨after,law⟩ := step_law standing (a := .publish event) rfl
  obtain ⟨q,now,publishes,turns,_⟩ := law.started event rfl
  refine ⟨q,publishes,turns.event,fun there => ?_⟩
  have member : q ∈ (s.publish event).publishes := by
    rw [publishes]
    exact List.mem_append_right _ (.head [])
  exact turns_attend standing.registry there same turns (law.once q member).1 (List.Sublist.refl []) (opened_attends there event)

omit [BEq Handler] in
theorem attends_finished (registry : s.Registry) (there : sub ∈ s.bucket kind) {p : Publish Kind Key}
    (stands : s.Stands p) (attends : s.Attends sub kind p) (finished : p.stage = .finished) :
    sub ∈ p.calls ↔ s.wants sub p.event = true := by
  constructor
  · intro called
    exact (attends.called (stands.called.subset called)).mp called
  · intro wanted
    have listed := attends.listed (wants_kind registry there wanted)
    rw [stands.complete finished,List.append_nil] at listed
    exact (attends.called listed).mpr wanted

omit [BEq Handler] in
theorem attends_called {p : Publish Kind Key} (stands : s.Stands p) (attends : s.Attends sub kind p) (called : sub ∈ p.calls) :
    s.wants sub p.event = true :=
  (attends.called (stands.called.subset called)).mp called

end Attention
end LoomClient.Events
