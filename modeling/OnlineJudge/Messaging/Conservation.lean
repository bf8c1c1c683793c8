import Mathlib.Algebra.Order.Group.Multiset
import Mathlib.Tactic.Abel
import OnlineJudge.Messaging.Settlements

/-!
# Conservation of deliveries

What the broker holds and what was acknowledged is, together, what was submitted and what was added
by routing a copy (`Conserved`).
-/

namespace OnlineJudge.Messaging.MQConsumer

open List

variable {s t : MQConsumer}

def label (message : Message) : Nat × Bytes := (message.task, message.body)

variable (s : MQConsumer)

def messages : List Message :=
  s.taskQueue ++ s.unacked.map (·.message) ++ s.retryQueue ++ s.deadQueue

def held : Multiset (Nat × Bytes) := ↑(s.messages.map label)

def acked : Multiset (Nat × Bytes) :=
  ↑(s.acknowledged.map fun delivery => label delivery.message)

def submitted : Multiset (Nat × Bytes) := ↑(s.tasks.mapIdx Prod.mk)

def routedLabels (copies : List Copy) : List (Nat × Bytes) :=
  (copies.filter (·.routed)).map fun copy => label copy.message

def Conserved : Prop :=
  s.held + s.acked = s.submitted + ↑(routedLabels s.copies)

/-! ## One step -/

variable {s}

theorem coe_map_eraseIdx {α β : Type} (f : α → β) {list : List α} {index : Nat} {a : α}
    (found : list[index]? = some a) :
    (↑(list.map f) : Multiset β) = f a ::ₘ ↑((list.eraseIdx index).map f) := by
  obtain ⟨inside, rfl⟩ := List.getElem?_eq_some_iff.mp found
  have perm := (getElem_cons_eraseIdx_perm inside).map f
  exact (Multiset.coe_eq_coe.mpr perm).symm

theorem routedLabels_append (first second : List Copy) :
    routedLabels (first ++ second) = routedLabels first ++ routedLabels second := by
  simp [routedLabels]

variable {copy : Copy} {copies : List Copy} {number : Nat}

theorem coe_routedLabels_cons {rest : List Copy} (perm : copies.Perm (copy :: rest)) :
    (↑(routedLabels copies) : Multiset (Nat × Bytes)) =
      ↑(routedLabels [copy]) + ↑(routedLabels rest) := by
  have same := (perm.filter (·.routed)).map fun copy => label copy.message
  rw [Multiset.coe_add, ← routedLabels_append]
  exact Multiset.coe_eq_coe.mpr same

theorem routedLabels_set (found : copies[number]? = some copy) (copy' : Copy) :
    (↑(routedLabels (copies.set number copy')) : Multiset (Nat × Bytes)) +
        ↑(routedLabels [copy]) =
      ↑(routedLabels copies) + ↑(routedLabels [copy']) := by
  obtain ⟨inside, isCopy⟩ := List.getElem?_eq_some_iff.mp found
  have before := getElem_cons_eraseIdx_perm inside
  rw [isCopy] at before
  rw [coe_routedLabels_cons before.symm,
    coe_routedLabels_cons (set_perm_cons_eraseIdx inside copy')]
  abel

theorem routedLabels_set_of_same {copy' : Copy} (found : copies[number]? = some copy)
    (routed : copy'.routed = copy.routed) (message : copy'.message = copy.message) :
    (↑(routedLabels (copies.set number copy')) : Multiset (Nat × Bytes)) =
      ↑(routedLabels copies) := by
  have alike : routedLabels [copy'] = routedLabels [copy] := by
    simp [routedLabels, filter_cons, routed, apply_ite (List.map _), message]
  have same := routedLabels_set found copy'
  rw [alike] at same
  exact add_right_cancel same

theorem Conserved.of_same (conserved : s.Conserved) (held : t.held = s.held)
    (acked : t.acked = s.acked) (submitted : t.submitted = s.submitted)
    (routed : (↑(routedLabels t.copies) : Multiset (Nat × Bytes)) = ↑(routedLabels s.copies)) :
    t.Conserved := by
  rw [Conserved, held, acked, submitted, routed]
  exact conserved

theorem held_eq (s : MQConsumer) :
    s.held = ↑(s.taskQueue.map label) + ↑(s.unacked.map fun delivery => label delivery.message) +
      ↑(s.retryQueue.map label) + ↑(s.deadQueue.map label) := by
  simp [held, messages, ← Multiset.coe_add, Function.comp_def, add_assoc]

theorem held_closeChannel (s : MQConsumer) : s.closeChannel.held = s.held := by
  rw [held_eq, held_eq]
  simp [closeChannel, ← Multiset.coe_add, Function.comp_def]

theorem Conserved.recoverForwardFailure (conserved : s.Conserved) (delivery : Delivery) :
    (s.recoverForwardFailure delivery).Conserved := by
  unfold MQConsumer.recoverForwardFailure
  split <;> exact conserved

theorem Conserved.onConfirm (conserved : s.Conserved) (copy : Copy) (confirm : Confirm) :
    (s.onConfirm copy confirm).Conserved := by
  cases confirm with
  | ack =>
    have forgotten : { s with returned := s.returned.erase copy.messageId }.Conserved :=
      conserved.of_same rfl rfl rfl rfl
    rw [MQConsumer.onConfirm, MQConsumer.onForwardAck]
    split
    · split
      · exact forgotten.of_same rfl rfl rfl rfl
      · exact forgotten
    · exact forgotten.recoverForwardFailure _
  | nack | error => exact conserved.recoverForwardFailure _

theorem Conserved.forward (conserved : s.Conserved) (dead : Bool) (delivery : Delivery)
    (retryCount : UInt32) (expiration : Option UInt32) :
    (s.forward dead delivery retryCount expiration).Conserved := by
  unfold MQConsumer.forward
  split
  · refine conserved.of_same rfl rfl rfl ?_
    rw [routedLabels_append]
    simp [routedLabels]
  · exact conserved

theorem Conserved.runCommand (conserved : s.Conserved) (command : Command) :
    (s.runCommand command).Conserved := by
  cases command with
  | ack =>
    rw [MQConsumer.runCommand]
    split <;> exact conserved
  | retry | deadLetter => exact conserved.forward _ _ _ _

theorem coe_map_append_singleton {α β : Type} (f : α → β) (list : List α) (a : α) :
    (↑((list ++ [a]).map f) : Multiset β) = ↑(list.map f) + {f a} := by
  rw [map_append, ← Multiset.coe_add]
  rfl

section

variable (conserved : s.Conserved)
include conserved

theorem Conserved.receiveFrame (tag : Nat) (settlement : Settlement) :
    (s.receiveFrame tag settlement).Conserved := by
  unfold MQConsumer.receiveFrame
  split
  case h_1 => exact conserved.of_same (held_closeChannel s) rfl rfl rfl
  case h_2 delivery found =>
    have perm := (perm_cons_erase (mem_of_find?_eq_some found)).map
      fun delivery => label delivery.message
    have taken : (↑(s.unacked.map fun delivery => label delivery.message) :
        Multiset (Nat × Bytes)) = {label delivery.message} +
          ↑((s.unacked.erase delivery).map fun delivery => label delivery.message) :=
      Multiset.coe_eq_coe.mpr perm
    cases settlement with
    | requeue =>
      refine conserved.of_same ?_ rfl rfl rfl
      rw [held_eq, held_eq, taken, coe_map_append_singleton]
      abel
    | ack =>
      unfold Conserved at conserved ⊢
      rw [held_eq, taken] at conserved
      rw [held_eq, acked, coe_map_append_singleton]
      refine Eq.trans ?_ conserved
      rw [acked]
      dsimp only
      abel

theorem Conserved.deliver {index : Nat} {message : Message}
    (found : s.taskQueue[index]? = some message) {delivery : Delivery}
    (isMessage : delivery.message = message) (lastTag : Nat) (delivered : List Delivery) :
    { s with
      lastTag := lastTag
      taskQueue := s.taskQueue.eraseIdx index
      unacked := s.unacked ++ [delivery]
      delivered := delivered }.Conserved := by
  refine conserved.of_same ?_ rfl rfl rfl
  rw [held_eq, held_eq, coe_map_eraseIdx label found, coe_map_append_singleton, isMessage,
    ← Multiset.singleton_add]
  dsimp only
  abel

theorem Conserved.submit (body : Bytes) :
    { s with
      tasks := s.tasks ++ [body]
      taskQueue := s.taskQueue ++ [({ task := s.tasks.length, body := body } : Message)]
      }.Conserved := by
  unfold Conserved at conserved ⊢
  rw [held_eq] at conserved ⊢
  rw [submitted, mapIdx_concat, ← Multiset.coe_add, coe_map_append_singleton,
    Multiset.coe_singleton, add_assoc _ {(s.tasks.length, body)}, add_left_comm,
    ← submitted, ← conserved]
  dsimp only [label, acked]
  abel

theorem Conserved.route (found : s.copies[number]? = some copy) (unrouted : copy.routed = false) :
    { s with
      copies := s.copies.set number { copy with routed := true }
      retryQueue := if copy.dead then s.retryQueue else s.retryQueue ++ [copy.message]
      deadQueue :=
        if copy.dead then s.deadQueue ++ [copy.message] else s.deadQueue }.Conserved := by
  have added := routedLabels_set found { copy with routed := true }
  have none' : routedLabels [copy] = [] := by simp [routedLabels, unrouted]
  have one : routedLabels [{ copy with routed := true }] = [label copy.message] := by
    simp [routedLabels]
  rw [none', one, Multiset.coe_nil, add_zero, Multiset.coe_singleton] at added
  unfold Conserved at conserved ⊢
  rw [held_eq] at conserved ⊢
  dsimp only [acked, submitted] at conserved ⊢
  rw [added, ← add_assoc, ← conserved]
  split
  · rw [coe_map_append_singleton]
    abel
  · rw [coe_map_append_singleton]
    abel

theorem Conserved.step {event : Event} (taken : s.step event = some t) : t.Conserved := by
  cases event with rw [MQConsumer.step] at taken
  | submit body =>
    cases taken
    exact conserved.submit body
  | deliver index =>
    split at taken
    · cases taken
    case h_2 message found =>
      split at taken <;> cases taken
      exact conserved.deliver found rfl _ _
  | call =>
    split at taken <;> cases taken
    exact conserved.of_same rfl rfl rfl rfl
  | command =>
    split at taken
    · cases taken
    case h_2 command rest _ =>
      cases taken
      have popped : { s with commands := rest }.Conserved := conserved.of_same rfl rfl rfl rfl
      exact popped.runCommand command
  | route number =>
    split at taken
    · cases taken
    case h_2 copy waits =>
      obtain ⟨possible, taken⟩ := Option.ite_none_right_eq_some.mp taken
      cases taken
      exact conserved.route (waitingCopy_eq_some.mp waits).1 possible.2.1
  | giveBack number =>
    split at taken
    · cases taken
    case h_2 copy waits =>
      split at taken <;> cases taken
      exact conserved.of_same rfl rfl rfl
        (routedLabels_set_of_same (waitingCopy_eq_some.mp waits).1 rfl rfl)
  | confirm number confirm =>
    split at taken
    · cases taken
    case h_2 copy waits =>
      split at taken <;> cases taken
      have answered : { s with
          copies := s.copies.set number { copy with confirm := some confirm } }.Conserved :=
        conserved.of_same rfl rfl rfl
          (routedLabels_set_of_same (waitingCopy_eq_some.mp waits).1 rfl rfl)
      exact answered.onConfirm copy confirm
  | receive =>
    split at taken
    · cases taken
    case h_2 tag settlement rest _ =>
      cases taken
      have popped : { s with frames := rest }.Conserved := conserved.of_same rfl rfl rfl rfl
      exact popped.receiveFrame tag settlement
  | expire index =>
    split at taken
    · cases taken
    case h_2 message found =>
      cases taken
      refine conserved.of_same ?_ rfl rfl rfl
      rw [held_eq, held_eq, coe_map_eraseIdx label found, coe_map_append_singleton,
        ← Multiset.singleton_add]
      dsimp only [label]
      abel
  | lose =>
    cases taken
    exact conserved.of_same (held_closeChannel s) rfl rfl rfl
  | channelError | close =>
    cases taken
    exact conserved
  | start =>
    split at taken <;> cases taken
    exact conserved.of_same (held_closeChannel s) rfl rfl rfl
  | reconnect =>
    obtain ⟨-, taken⟩ := Option.ite_none_right_eq_some.mp taken
    split at taken <;> cases taken
    · exact conserved
    · exact conserved.of_same (held_closeChannel s) rfl rfl rfl
  | ready =>
    split at taken <;> cases taken
    exact conserved

end

/-! ## All runs -/

theorem invariants_of_reachable (reachable : consumerSystem.Reachable s) :
    s.ConsumerInv ∧ s.Conserved := by
  refine reachable.induct (P := fun s => s.ConsumerInv ∧ s.Conserved) ⟨?_, rfl⟩ ?_
  · constructor <;> simp [consumerSystem]
  · exact fun _ taken inv => ⟨inv.1.step taken, inv.2.step taken⟩

theorem ConsumerInv.count_acked_le (inv : s.ConsumerInv) {task : Nat} (body : Bytes)
    (uncalled : ∀ delivery ∈ s.ackCalled, delivery.message.task ≠ task) :
    s.acked.count (task, body) ≤ Multiset.count (task, body) ↑(routedLabels s.copies) := by
  let isMine (message : Message) : Bool := (task, body) = label message
  have routed : (s.acknowledged.filter fun delivery => isMine delivery.message) ⊆
      (s.copies.filter fun copy => copy.routed && isMine copy.message).map (·.delivery) := by
    intro delivery mem
    obtain ⟨mem, mine⟩ := List.mem_filter.mp mem
    have mine : (task, body) = label delivery.message := of_decide_eq_true mine
    rcases (inv.acknowledged delivery mem).2 with called | ⟨copy, known, isFor, acked, kept⟩
    · exact absurd (congrArg Prod.fst mine).symm (uncalled delivery called)
    have facts := inv.copies copy known
    refine List.mem_map.mpr ⟨copy, List.mem_filter.mpr ⟨known, ?_⟩, isFor⟩
    have isRouted : copy.routed = true :=
      (facts.answered acked).resolve_right (by rw [kept]; decide)
    have same : label copy.message = label delivery.message := by
      rw [label, label, facts.task, facts.body, isFor]
    simp [isMine, isRouted, same, mine]
  have few := ((inv.acknowledgedNodup.filter _).subperm routed).length_le
  rw [length_map] at few
  unfold Multiset.count
  rw [acked, Multiset.coe_countP, Multiset.coe_countP, routedLabels, countP_map,
    countP_map, countP_filter, countP_eq_length_filter,
    countP_eq_length_filter]
  have swapped : (s.copies.filter fun copy => copy.routed && isMine copy.message) =
      s.copies.filter fun copy => isMine copy.message && copy.routed :=
    filter_congr fun copy _ => Bool.and_comm ..
  rw [swapped] at few
  exact few

/-- **Deliveries are conserved.** An acknowledged delivery was passed to `Ack` or has a routed copy;
settlements use the channel of the delivery; and a task that `Ack` was not called for is in a queue
or unacknowledged. -/
theorem deliveries_conserved (s : MQConsumer) (reachable : consumerSystem.Reachable s) :
    (∀ delivery ∈ s.acknowledged, delivery ∈ s.ackCalled ∨
      ∃ copy ∈ s.copies, copy.delivery = delivery ∧
        copy.message.body = delivery.message.body ∧ copy.confirm = some .ack ∧
        copy.returned = false) ∧
    (∀ sent ∈ s.settlements, sent.2 ∈ s.delivered ∧ sent.2.channelGeneration = sent.1) ∧
    ∀ task body, s.tasks[task]? = some body →
      (∀ delivery ∈ s.ackCalled, delivery.message.task ≠ task) →
      ∃ message ∈ s.taskQueue ++ s.unacked.map (·.message) ++ s.retryQueue ++ s.deadQueue,
        message.task = task ∧ message.body = body := by
  obtain ⟨inv, conserved⟩ := invariants_of_reachable reachable
  refine ⟨fun delivery mem => ?_, inv.settlements, fun task body submitted uncalled => ?_⟩
  · refine (inv.acknowledged delivery mem).2.imp_right ?_
    rintro ⟨copy, known, isFor, acked, kept⟩
    exact ⟨copy, known, isFor, isFor ▸ (inv.copies copy known).body, acked, kept⟩
  · have few := inv.count_acked_le body uncalled
    have count := congrArg (Multiset.count (task, body)) conserved
    rw [Multiset.count_add, Multiset.count_add] at count
    have some' : 0 < s.submitted.count (task, body) := by
      rw [Multiset.count_pos, MQConsumer.submitted, Multiset.mem_coe, mem_mapIdx]
      obtain ⟨inside, same⟩ := List.getElem?_eq_some_iff.mp submitted
      exact ⟨task, inside, by rw [same]⟩
    have positive : 0 < s.held.count (task, body) := by omega
    rw [Multiset.count_pos, held, Multiset.mem_coe, mem_map] at positive
    obtain ⟨message, mem, same⟩ := positive
    exact ⟨message, mem, congrArg Prod.fst same, congrArg Prod.snd same⟩

/-! ## A retry -/

def sampleDelivery : Delivery := ⟨1, 1, { task := 0, body := [5] }⟩

/-- `Retry` is called twice for the delivery.  The first copy is returned; the second one is
routed, and is taken for returned. -/
def retriedTwice : List Event :=
  [.submit [5], .start, .ready, .deliver 0, .call (.retry sampleDelivery 1000 1),
    .call (.retry sampleDelivery 1000 1), .command, .command, .giveBack 0, .route 1,
    .confirm 1 .ack, .confirm 0 .ack]

/-- The delivery goes back to the queue before the acknowledgement comes, for which the
broker closes the channel; the copy stays as well. -/
theorem deliveries_conserved_retried :
    ∃ s : MQConsumer, consumerSystem.Reachable s ∧ s.settlements.length = 2 ∧
      s.acknowledged = [] ∧ s.taskQueue.length = 1 ∧ s.retryQueue.length = 1 ∧
      (∃ message ∈ s.taskQueue ++ s.unacked.map (·.message) ++ s.retryQueue ++ s.deadQueue,
        message.task = 0 ∧ message.body = [5]) := by
  obtain ⟨s, reachable, check⟩ := consumerSystem.exists_of_run
    (retriedTwice ++ [.receive, .receive])
    (fun s => decide (s.settlements.length = 2 ∧ s.acknowledged = [] ∧ s.taskQueue.length = 1 ∧
      s.retryQueue.length = 1 ∧ s.tasks[0]? = some [5] ∧ s.ackCalled = [])) (by decide +kernel)
  rw [decide_eq_true_eq] at check
  obtain ⟨settled, acknowledged, queued, retried, submitted, uncalled⟩ := check
  refine ⟨s, reachable, settled, acknowledged, queued, retried, ?_⟩
  refine (deliveries_conserved s reachable).2.2 0 [5] submitted fun delivery mem => ?_
  rw [uncalled] at mem
  cases mem

end OnlineJudge.Messaging.MQConsumer
