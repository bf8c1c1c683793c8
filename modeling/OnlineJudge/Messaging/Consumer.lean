import OnlineJudge.Common.Decimal
import OnlineJudge.Library.TransitionSystem
import OnlineJudge.Messaging.Producer

/-!
# `MQConsumer` and its broker

`Ack`, `Retry` and `DeadLetter` (`mq_client.hpp`) are posted to the event thread; the last two
publish a copy and settle the delivery by the broker's answer to it.  Posted functions do nothing
when the generation of the delivery's channel is not the current one.

The broker puts the unacknowledged deliveries of a channel back when the channel closes, and closes
it when a tag is settled that is not outstanding.
-/

namespace OnlineJudge.Messaging

structure Message where
  task : Nat
  body : Bytes
  /-- `oj-retry-count`. -/
  retryCount : UInt32 := 0
  deriving DecidableEq

structure Delivery where
  deliveryTag : Nat
  channelGeneration : Nat
  message : Message
  deriving DecidableEq

inductive Command
  | ack (delivery : Delivery)
  | retry (delivery : Delivery) (retryAfterMs retryCount : UInt32)
  | deadLetter (delivery : Delivery) (retryCount : UInt32)
  deriving DecidableEq

def Command.delivery : Command → Delivery
  | .ack delivery | .retry delivery _ _ | .deadLetter delivery _ => delivery

/-- The deliveries for which `Ack` is called. -/
def Command.ackCalled : Command → List Delivery
  | .ack delivery => [delivery]
  | _ => []

structure Copy where
  messageId : Bytes
  delivery : Delivery
  /-- The copy goes to the dead-letter exchange, and otherwise to the retry exchange. -/
  dead : Bool
  message : Message
  expiration : Option UInt32 := none
  routed : Bool := false
  returned : Bool := false
  confirm : Option Confirm := none
  deriving DecidableEq

def dash : UInt8 := 45

def forwardId (dead : Bool) (delivery : Delivery) (retryCount : UInt32) : Bytes :=
  (if dead then text "dead" else text "retry") ++ dash ::
    (decimal delivery.channelGeneration ++ dash ::
      (decimal delivery.deliveryTag ++ dash :: decimal retryCount.toNat))

inductive Settlement
  | ack
  | requeue
  deriving DecidableEq

/-- `class MQConsumer` and the broker. -/
structure MQConsumer where
  closing : Bool := false
  connected : Bool := false
  reconnectPending : Bool := false
  generation : Nat := 0
  /-- The channel waits for `onReady`. -/
  opening : Bool := false
  commands : List Command := []
  returned : Finset Bytes := ∅
  isOpen : Bool := false
  lastTag : Nat := 0
  taskQueue : List Message := []
  retryQueue : List Message := []
  deadQueue : List Message := []
  unacked : List Delivery := []
  frames : List (Nat × Settlement) := []
  /-- What has happened: the tasks, the deliveries, those that `Ack` was called for, the
  copies, the settlements with the generation of the channel they were sent on, and the
  deliveries that the broker took for acknowledged. -/
  tasks : List Bytes := []
  delivered : List Delivery := []
  ackCalled : List Delivery := []
  copies : List Copy := []
  settlements : List (Nat × Delivery) := []
  acknowledged : List Delivery := []

namespace MQConsumer

variable (s : MQConsumer)

def isCurrent (delivery : Delivery) : Bool :=
  delivery.channelGeneration = s.generation ∧ s.generation ≠ 0 ∧ s.connected = true

/-- `_channel->ack` or `_channel->reject`, with the tag of the delivery. -/
def settle (delivery : Delivery) (settlement : Settlement) : MQConsumer :=
  { s with
    frames := if s.isOpen then s.frames ++ [(delivery.deliveryTag, settlement)] else s.frames
    settlements := s.settlements ++ [(s.generation, delivery)] }

def recoverForwardFailure (delivery : Delivery) : MQConsumer :=
  if s.isCurrent delivery then s.settle delivery .requeue else s

def forward (dead : Bool) (delivery : Delivery) (retryCount : UInt32) (expiration : Option UInt32) :
    MQConsumer :=
  if s.isCurrent delivery then
    { s with
      copies := s.copies ++
        [{ messageId := forwardId dead delivery retryCount
           delivery := delivery
           dead := dead
           message :=
            { task := delivery.message.task
              body := delivery.message.body
              retryCount := retryCount }
           expiration := expiration }] }
  else s

def runCommand : Command → MQConsumer
  | .ack delivery => if s.isCurrent delivery then s.settle delivery .ack else s
  | .retry delivery retryAfterMs retryCount =>
    s.forward false delivery retryCount (some (max 1 (min retryAfterMs 86400000)))
  | .deadLetter delivery retryCount => s.forward true delivery retryCount none

/-- `onAck` of a copy. -/
def onForwardAck (copy : Copy) : MQConsumer :=
  let s' := { s with returned := s.returned.erase copy.messageId }
  if copy.messageId ∉ s.returned then
    if s'.isCurrent copy.delivery then s'.settle copy.delivery .ack else s'
  else s'.recoverForwardFailure copy.delivery

/-- `onAck`, `onNack` or `onError` of a copy. -/
def onConfirm (copy : Copy) : Confirm → MQConsumer
  | .ack => s.onForwardAck copy
  | .nack | .error => s.recoverForwardFailure copy.delivery

def closeChannel : MQConsumer :=
  { s with
    isOpen := false
    frames := []
    unacked := []
    taskQueue := s.taskQueue ++ s.unacked.map (·.message) }

def receiveFrame (tag : Nat) (settlement : Settlement) : MQConsumer :=
  match s.unacked.find? (·.deliveryTag = tag) with
  | none => s.closeChannel
  | some delivery =>
    let s' := { s with unacked := s.unacked.erase delivery }
    match settlement with
    | .ack => { s' with acknowledged := s.acknowledged ++ [delivery] }
    | .requeue => { s' with taskQueue := s.taskQueue ++ [delivery.message] }

/-- `InitializeChannel`, on a fresh connection; an old one is gone. -/
def initializeChannel : MQConsumer :=
  { s.closeChannel with generation := s.generation + 1, opening := true, lastTag := 0 }

def waitingCopy (number : Nat) : Option Copy :=
  s.copies[number]?.filter fun copy =>
    copy.delivery.channelGeneration = s.generation ∧ copy.confirm = none

inductive Event
  | submit (body : Bytes)
  | deliver (index : Nat)
  | call (command : Command)
  | command
  | route (number : Nat)
  /-- The broker returns a copy; `onReceived` of the recall handler. -/
  | giveBack (number : Nat)
  | confirm (number : Nat) (confirm : Confirm)
  | receive
  | expire (index : Nat)
  | lose
  | channelError
  /-- `StartConsuming`. -/
  | start
  /-- The timer of `ScheduleReconnect`. -/
  | reconnect
  /-- `onReady` of the channel. -/
  | ready
  | close
  deriving DecidableEq

def step : Event → Option MQConsumer
  | .submit body =>
    some { s with
      tasks := s.tasks ++ [body]
      taskQueue := s.taskQueue ++ [{ task := s.tasks.length, body := body }] }
  | .deliver index =>
    match s.taskQueue[index]? with
    | none => none
    | some message =>
      if s.isOpen then
        let delivery := ⟨s.lastTag + 1, s.generation, message⟩
        some { s with
          lastTag := s.lastTag + 1
          taskQueue := s.taskQueue.eraseIdx index
          unacked := s.unacked ++ [delivery]
          delivered := s.delivered ++ [delivery] }
      else none
  | .call command =>
    if command.delivery ∈ s.delivered then
      some { s with
        ackCalled := s.ackCalled ++ command.ackCalled
        commands := if s.closing then s.commands else s.commands ++ [command] }
    else none
  | .command =>
    match s.commands with
    | [] => none
    | command :: rest => some ({ s with commands := rest }.runCommand command)
  | .route number =>
    match s.waitingCopy number with
    | none => none
    | some copy =>
      if s.isOpen = true ∧ copy.routed = false ∧ copy.returned = false then
        some { s with
          copies := s.copies.set number { copy with routed := true }
          retryQueue := if copy.dead then s.retryQueue else s.retryQueue ++ [copy.message]
          deadQueue := if copy.dead then s.deadQueue ++ [copy.message] else s.deadQueue }
      else none
  | .giveBack number =>
    match s.waitingCopy number with
    | none => none
    | some copy =>
      if copy.routed = false ∧ copy.returned = false then
        some { s with
          copies := s.copies.set number { copy with returned := true }
          returned := insert copy.messageId s.returned }
      else none
  | .confirm number confirm =>
    match s.waitingCopy number with
    | none => none
    | some copy =>
      if confirm = .ack ∧ copy.routed = false ∧ copy.returned = false then none
      else
        some ({ s with
          copies := s.copies.set number { copy with confirm := some confirm } }.onConfirm
            copy confirm)
  | .receive =>
    match s.frames with
    | [] => none
    | (tag, settlement) :: rest => some ({ s with frames := rest }.receiveFrame tag settlement)
  | .expire index =>
    match s.retryQueue[index]? with
    | none => none
    | some message =>
      some { s with
        retryQueue := s.retryQueue.eraseIdx index
        taskQueue := s.taskQueue ++ [message] }
  | .lose => some s.closeChannel
  | .channelError =>
    some { s with
      connected := false
      opening := false
      reconnectPending := s.reconnectPending || !s.closing }
  | .start => if s.generation = 0 then some s.initializeChannel else none
  | .reconnect =>
    if s.reconnectPending then
      if s.closing then some { s with reconnectPending := false }
      else some { s.initializeChannel with reconnectPending := false }
    else none
  | .ready =>
    if s.opening then some { s with opening := false, connected := true, isOpen := true }
    else none
  | .close => some { s with closing := true, connected := false }

def consumerSystem : TransitionSystem MQConsumer Event where
  initial := {}
  step := step

end MQConsumer

end OnlineJudge.Messaging
