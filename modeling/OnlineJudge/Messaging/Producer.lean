import Mathlib.Data.Finset.Insert
import Mathlib.Data.Finset.Erase
import OnlineJudge.Common.Messages

/-!
# `MQProducer`

`MQProducer` (`mq_client.hpp`) publishes with `mandatory` and with confirms: the broker returns a
message that no queue takes, and confirms it nevertheless.  The set `_returned` of message ids does
not tell several publishes of one id apart.
-/

namespace OnlineJudge.Messaging

inductive Confirm
  | ack
  | nack
  | error
  deriving DecidableEq

structure Sent where
  messageId : Bytes
  body : Bytes
  channel : Nat
  returned : Bool := false
  confirm : Option Confirm := none
  deriving DecidableEq

structure Completion where
  messageId : Bytes
  success : Bool
  error : String
  deriving DecidableEq

/-- `class MQProducer`, with what the broker has seen of it. -/
structure MQProducer where
  closing : Bool := false
  connected : Bool := false
  /-- Whether `_reliable` is set. -/
  reliable : Bool := false
  channel : Nat := 0
  commands : List (Bytes × Bytes) := []
  returned : Finset Bytes := ∅
  sent : List Sent := []

namespace MQProducer

variable (producer : MQProducer)

def publishConfirmed (messageId body : Bytes) : Option MQProducer :=
  if messageId = [] ∨ producer.connected = false ∨ producer.closing = true then none
  else some { producer with commands := producer.commands ++ [(messageId, body)] }

inductive Event
  | command
  /-- `onReceived` of the recall handler, for the publish with this number. -/
  | recalled (number : Nat)
  /-- `onAck`, `onNack` or `onError` of a publish. -/
  | confirmed (number : Nat) (confirm : Confirm)
  /-- `onError` of the channel. -/
  | channelError
  /-- `ScheduleReconnect` drops the channel. -/
  | reset
  /-- `onReady` of the next channel. -/
  | ready
  | close
  deriving DecidableEq

def waiting (number : Nat) : Option Sent :=
  producer.sent[number]?.filter fun sent =>
    sent.channel = producer.channel ∧ sent.confirm = none

def settle (number : Nat) (sent : Sent) (confirm : Confirm) : MQProducer × Completion :=
  let answered := producer.sent.set number { sent with confirm := some confirm }
  match confirm with
  | .ack =>
    let returned := decide (sent.messageId ∈ producer.returned)
    ({ producer with sent := answered, returned := producer.returned.erase sent.messageId },
      ⟨sent.messageId, !returned, if returned then "UNROUTABLE" else ""⟩)
  | .nack => ({ producer with sent := answered }, ⟨sent.messageId, false, "NACK"⟩)
  | .error => ({ producer with sent := answered }, ⟨sent.messageId, false, "PUBLISH_ERROR"⟩)

def step : Event → Option (MQProducer × Option Completion)
  | .command =>
    match producer.commands with
    | [] => none
    | (messageId, body) :: rest =>
      if producer.reliable = false ∨ producer.connected = false then
        some ({ producer with commands := rest }, some ⟨messageId, false, "NOT_CONNECTED"⟩)
      else
        some ({ producer with
          commands := rest
          sent := producer.sent ++
            [{ messageId := messageId, body := body, channel := producer.channel }] }, none)
  | .recalled number =>
    match producer.waiting number with
    | none => none
    | some sent =>
      if sent.returned then none
      else
        some ({ producer with
          sent := producer.sent.set number { sent with returned := true }
          returned := insert sent.messageId producer.returned }, none)
  | .confirmed number confirm =>
    match producer.waiting number with
    | none => none
    | some sent => some ((producer.settle number sent confirm).map id some)
  | .channelError => some ({ producer with connected := false }, none)
  | .reset =>
    if producer.closing then none
    else
      some ({ producer with reliable := false, channel := producer.channel + 1 }, none)
  | .ready => some ({ producer with reliable := true, connected := true }, none)
  | .close => some ({ producer with closing := true }, none)

/-! ## What a success means -/

def Routed (messageId : Bytes) : Prop :=
  ∃ (number : Nat) (sent : Sent), producer.sent[number]? = some sent ∧
    sent.messageId = messageId ∧ sent.confirm = some .ack ∧ sent.returned = false

def ReturnWaits (messageId : Bytes) (number : Nat) : Prop :=
  ∃ sent, producer.waiting number = some sent ∧ sent.messageId = messageId ∧ sent.returned = true

def ReturnsAlone : Event → Prop
  | .recalled number => ∀ sent, producer.waiting number = some sent →
      ∀ other, ¬ producer.ReturnWaits sent.messageId other
  | _ => True

variable {producer}

/-- The set of returned messages covers the one publish of the message that was returned
and waits, unless another publish of it has been routed. -/
structure ProducerInv (messageId : Bytes) (producer : MQProducer) : Prop where
  channels : ∀ (number : Nat) (sent : Sent), producer.sent[number]? = some sent →
    sent.channel ≤ producer.channel
  covered : ∀ number, producer.ReturnWaits messageId number →
    messageId ∈ producer.returned ∨ producer.Routed messageId
  unique : ∀ first second, producer.ReturnWaits messageId first →
    producer.ReturnWaits messageId second → first = second

section

variable {producer after : MQProducer} {messageId : Bytes} {number : Nat} {sent : Sent}

theorem waiting_eq_some :
    producer.waiting number = some sent ↔ producer.sent[number]? = some sent ∧
      sent.channel = producer.channel ∧ sent.confirm = none := by
  simp [waiting, Option.filter_eq_some_iff]

theorem ReturnWaits.of_same (channel : after.channel = producer.channel)
    (same : after.sent[number]? = producer.sent[number]?)
    (waits : after.ReturnWaits messageId number) : producer.ReturnWaits messageId number := by
  obtain ⟨sent, found, isMessage, returned⟩ := waits
  rw [waiting_eq_some, same, channel] at found
  exact ⟨sent, waiting_eq_some.mpr found, isMessage, returned⟩

theorem ProducerInv.of_same (inv : ProducerInv messageId producer)
    (channel : after.channel = producer.channel) (sent : after.sent = producer.sent)
    (returned : after.returned = producer.returned) : ProducerInv messageId after where
  channels number sent' found := by
    rw [sent] at found
    rw [channel]
    exact inv.channels number sent' found
  covered number waits := by
    rw [returned]
    refine (inv.covered number (waits.of_same channel (by rw [sent]))).imp_right ?_
    rintro ⟨number', sent', found, routed⟩
    exact ⟨number', sent', by rw [sent, found], routed⟩
  unique first second waits waits' :=
    inv.unique first second (waits.of_same channel (by rw [sent]))
      (waits'.of_same channel (by rw [sent]))

/-! ### An answer to one publish -/

section Answer

variable {answered : Sent} (waits : producer.waiting number = some sent)
  (changed : after.sent = producer.sent.set number answered)
  (channel : after.channel = producer.channel)

include waits changed

theorem sent_self_of_answer : after.sent[number]? = some answered := by
  have found := (waiting_eq_some.mp waits).1
  have inside : number < producer.sent.length := (List.getElem?_eq_some_iff.mp found).1
  rw [changed, List.getElem?_set_self inside]

omit waits in
theorem sent_other_of_answer {other : Nat} (ne : other ≠ number) :
    after.sent[other]? = producer.sent[other]? := by
  rw [changed, List.getElem?_set_ne ne.symm]

theorem Routed.of_answer (routed : producer.Routed messageId) : after.Routed messageId := by
  obtain ⟨number', sent', found, isMessage, acked, kept⟩ := routed
  have ne : number' ≠ number := by
    rintro rfl
    obtain ⟨found', _, unanswered⟩ := waiting_eq_some.mp waits
    cases found.symm.trans found'
    rw [unanswered] at acked
    cases acked
  exact ⟨number', sent', by rw [sent_other_of_answer changed ne, found], isMessage, acked, kept⟩

theorem ReturnWaits.message_of_answer (waits' : after.ReturnWaits messageId number) :
    answered.messageId = messageId := by
  obtain ⟨sent', found, isMessage, _⟩ := waits'
  rw [waiting_eq_some, sent_self_of_answer waits changed] at found
  rwa [Option.some.inj found.1]

include channel

theorem channels_of_answer (inv : ProducerInv messageId producer)
    (same : answered.channel = sent.channel) (number' : Nat) (sent' : Sent)
    (found : after.sent[number']? = some sent') : sent'.channel ≤ after.channel := by
  rw [channel]
  by_cases mine : number' = number
  · rw [mine, sent_self_of_answer waits changed] at found
    cases found
    rw [same, (waiting_eq_some.mp waits).2.1]
  · rw [sent_other_of_answer changed mine] at found
    exact inv.channels number' sent' found

end Answer

theorem ReturnWaits.ne_of_confirm {confirm : Confirm} (waits : producer.waiting number = some sent)
    (changed : after.sent = producer.sent.set number { sent with confirm := some confirm })
    {other : Nat} (waits' : after.ReturnWaits messageId other) : other ≠ number := by
  rintro rfl
  obtain ⟨sent', found, _⟩ := waits'
  obtain ⟨found, _, unanswered⟩ := waiting_eq_some.mp found
  rw [sent_self_of_answer waits changed] at found
  cases found
  cases unanswered

section

variable (inv : ProducerInv messageId producer)
include inv

theorem ProducerInv.recalled (waits : producer.waiting number = some sent)
    (alone : ∀ other, ¬ producer.ReturnWaits sent.messageId other)
    (changed : after.sent = producer.sent.set number { sent with returned := true })
    (channel : after.channel = producer.channel)
    (returned : after.returned = insert sent.messageId producer.returned) :
    ProducerInv messageId after where
  channels := channels_of_answer waits changed channel inv rfl
  covered other waits' := by
    rw [returned, Finset.mem_insert]
    by_cases mine : messageId = sent.messageId
    · exact .inl (.inl mine)
    have ne : other ≠ number := by
      rintro rfl
      exact mine (waits'.message_of_answer waits changed).symm
    have before := waits'.of_same channel (sent_other_of_answer changed ne)
    exact (inv.covered other before).imp .inr (.of_answer waits changed)
  unique first second waits₁ waits₂ := by
    have before : ∀ {other}, after.ReturnWaits messageId other → other ≠ number →
        producer.ReturnWaits messageId other :=
      fun waits' ne => waits'.of_same channel (sent_other_of_answer changed ne)
    by_cases isMessage : sent.messageId = messageId
    · -- another publish that was returned before would make this one not alone
      have mine : ∀ {other}, after.ReturnWaits messageId other → other = number := by
        intro other waits'
        by_contra ne
        rw [isMessage] at alone
        exact alone other (before waits' ne)
      rw [mine waits₁, mine waits₂]
    · have ne : ∀ {other}, after.ReturnWaits messageId other → other ≠ number := by
        rintro _ waits' rfl
        have same := waits'.message_of_answer waits changed
        exact isMessage same
      exact inv.unique _ _ (before waits₁ (ne waits₁)) (before waits₂ (ne waits₂))

theorem ProducerInv.confirmed {confirm : Confirm} (waits : producer.waiting number = some sent)
    (changed : after.sent = producer.sent.set number { sent with confirm := some confirm })
    (channel : after.channel = producer.channel)
    (returned : ∀ other, producer.ReturnWaits messageId other → other ≠ number →
      messageId ∈ producer.returned → messageId ∈ after.returned ∨ after.Routed messageId) :
    ProducerInv messageId after where
  channels := channels_of_answer waits changed channel inv rfl
  covered other waits' := by
    have ne := waits'.ne_of_confirm waits changed
    have before := waits'.of_same channel (sent_other_of_answer changed ne)
    rcases inv.covered other before with mem | routed
    · exact returned other before ne mem
    · exact .inr (routed.of_answer waits changed)
  unique first second waits₁ waits₂ :=
    inv.unique first second
      (waits₁.of_same channel (sent_other_of_answer changed (waits₁.ne_of_confirm waits changed)))
      (waits₂.of_same channel (sent_other_of_answer changed (waits₂.ne_of_confirm waits changed)))

theorem ProducerInv.routed_of_ack (waits : producer.waiting number = some sent)
    (isMessage : sent.messageId = messageId)
    (changed : after.sent = producer.sent.set number { sent with confirm := some .ack })
    (unknown : messageId ∉ producer.returned) : after.Routed messageId := by
  cases kept : sent.returned with
  | false => exact ⟨number, _, sent_self_of_answer waits changed, isMessage, rfl, kept⟩
  | true =>
    have covered := inv.covered number ⟨sent, waits, isMessage, kept⟩
    exact (covered.resolve_left unknown).of_answer waits changed

theorem ProducerInv.settle (confirm : Confirm) (waits : producer.waiting number = some sent) :
    ProducerInv messageId (producer.settle number sent confirm).1 ∧
      ((producer.settle number sent confirm).2.messageId = messageId →
        (producer.settle number sent confirm).2.success = true →
        (producer.settle number sent confirm).1.Routed messageId) := by
  cases confirm with
  | nack | error => exact ⟨inv.confirmed waits rfl rfl fun _ _ _ mem => .inl mem, nofun⟩
  | ack =>
    refine ⟨inv.confirmed waits rfl rfl fun other before ne mem => ?_, fun isMessage success => ?_⟩
    · by_cases isMessage : messageId = sent.messageId
      · -- the acknowledged publish was not returned, since the other one was
        right
        have kept : sent.returned = false := by
          by_contra returned
          rw [Bool.not_eq_false] at returned
          exact ne (inv.unique other number before ⟨sent, waits, isMessage.symm, returned⟩)
        exact ⟨number, _, sent_self_of_answer waits rfl, isMessage.symm, rfl, kept⟩
      · exact .inl (Finset.mem_erase.mpr ⟨isMessage, mem⟩)
    · refine inv.routed_of_ack waits isMessage rfl ?_
      rw [← isMessage]
      simpa [MQProducer.settle] using success

end

variable {fresh : Sent}

theorem Routed.of_append (sent : after.sent = producer.sent ++ [fresh])
    (routed : producer.Routed messageId) : after.Routed messageId := by
  obtain ⟨number, sent', found, holds⟩ := routed
  refine ⟨number, sent', ?_, holds⟩
  rw [sent, List.getElem?_append_left (List.getElem?_eq_some_iff.mp found).1, found]

theorem getElem?_of_append {sent' : Sent} (sent : after.sent = producer.sent ++ [fresh])
    (found : after.sent[number]? = some sent') :
    producer.sent[number]? = some sent' ∨ sent' = fresh := by
  rw [sent, List.getElem?_append] at found
  split at found
  · exact .inl found
  rw [List.getElem?_singleton] at found
  split at found
  · exact .inr (Option.some.inj found).symm
  · cases found

theorem ProducerInv.publish (inv : ProducerInv messageId producer)
    (isFresh : fresh.returned = false) (mine : fresh.channel = producer.channel)
    (channel : after.channel = producer.channel) (sent : after.sent = producer.sent ++ [fresh])
    (returned : after.returned = producer.returned) : ProducerInv messageId after := by
  have before : ∀ {number}, after.ReturnWaits messageId number →
      producer.ReturnWaits messageId number := by
    rintro number ⟨sent', found, isMessage, wasReturned⟩
    obtain ⟨found, isOpen, unanswered⟩ := waiting_eq_some.mp found
    rcases getElem?_of_append sent found with found | rfl
    · refine ⟨sent', waiting_eq_some.mpr ⟨found, ?_, unanswered⟩, isMessage, wasReturned⟩
      rw [isOpen, channel]
    · rw [isFresh] at wasReturned
      cases wasReturned
  constructor
  case channels =>
    intro number sent' found
    rw [channel]
    rcases getElem?_of_append sent found with found | rfl
    · exact inv.channels number sent' found
    · exact mine.le
  case covered =>
    intro number waits
    rw [returned]
    exact (inv.covered number (before waits)).imp_right (.of_append sent)
  case unique =>
    intro first second waits₁ waits₂
    exact inv.unique first second (before waits₁) (before waits₂)

theorem ProducerInv.reset (inv : ProducerInv messageId producer)
    (channel : after.channel = producer.channel + 1) (sent : after.sent = producer.sent) :
    ProducerInv messageId after := by
  have nothing : ∀ {number}, ¬ after.ReturnWaits messageId number := by
    rintro number ⟨sent', found, _⟩
    obtain ⟨found, isOpen, _⟩ := waiting_eq_some.mp found
    rw [sent] at found
    have bound := inv.channels number sent' found
    omega
  constructor
  case channels =>
    intro number sent' found
    rw [sent] at found
    have bound := inv.channels number sent' found
    omega
  case covered => exact fun number waits => (nothing waits).elim
  case unique => exact fun first second waits _ => (nothing waits).elim

/-- **One event.**  While messages are returned one at a time, the invariant is kept, what
was routed stays so, and a callback that reports a success speaks the truth. -/
theorem ProducerInv.step (inv : ProducerInv messageId producer) {event : Event}
    {completion : Option Completion} (alone : producer.ReturnsAlone event)
    (taken : producer.step event = some (after, completion)) :
    ProducerInv messageId after ∧ (producer.Routed messageId → after.Routed messageId) ∧
      ∀ told, completion = some told → told.messageId = messageId → told.success = true →
        after.Routed messageId := by
  have quiet : ∀ told : Completion, none = some told → told.messageId = messageId →
      told.success = true → after.Routed messageId := nofun
  cases event with rw [MQProducer.step] at taken
  | command =>
    split at taken
    · cases taken
    case h_2 id body rest _ =>
      split at taken
      · cases taken
        refine ⟨inv.of_same rfl rfl rfl, fun routed => routed, fun told same _ success => ?_⟩
        cases same
        cases success
      · cases taken
        exact ⟨inv.publish rfl rfl rfl rfl rfl, fun routed => routed.of_append rfl, quiet⟩
  | recalled number =>
    split at taken
    · cases taken
    case h_2 sent waits =>
      split at taken
      · cases taken
      cases taken
      exact ⟨inv.recalled waits (alone sent waits) rfl rfl rfl,
        fun routed => routed.of_answer waits rfl, quiet⟩
  | confirmed number confirm =>
    split at taken
    · cases taken
    case h_2 sent waits =>
      cases taken
      obtain ⟨kept, truth⟩ := inv.settle confirm waits
      refine ⟨kept, fun routed => ?_, fun told same => ?_⟩
      · cases confirm <;> exact routed.of_answer waits rfl
      · cases same
        exact truth
  | channelError | ready | close =>
    cases taken
    exact ⟨inv.of_same rfl rfl rfl, fun routed => routed, quiet⟩
  | reset =>
    split at taken <;> cases taken
    exact ⟨inv.reset rfl rfl, fun routed => routed, quiet⟩

end

end MQProducer

end OnlineJudge.Messaging
