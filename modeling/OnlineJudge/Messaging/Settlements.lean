import OnlineJudge.Messaging.Consumer

/-!
# Which deliveries are acknowledged

The first settlement on its way decides about a delivery, and where it is an acknowledgement it is
justified.  A copy that was returned is in the set of returned messages until it is acknowledged,
or else the delivery has been sent back (`ConsumerInv`).
-/

namespace OnlineJudge.Messaging.MQConsumer

open List

/-! ## The invariant -/

def Forwarded (s : MQConsumer) (delivery : Delivery) : Prop :=
  ∃ copy ∈ s.copies, copy.delivery = delivery ∧ copy.confirm = some .ack ∧ copy.returned = false

def Justified (s : MQConsumer) (delivery : Delivery) : Prop :=
  delivery ∈ s.ackCalled ∨ s.Forwarded delivery

def firstFrame (s : MQConsumer) (tag : Nat) : Option (Nat × Settlement) :=
  s.frames.find? (·.1 = tag)

def Settling (s : MQConsumer) (delivery : Delivery) : Prop :=
  delivery ∈ s.unacked → (s.firstFrame delivery.deliveryTag).isSome = true

structure CopyInv (delivered : List Delivery) (copy : Copy) : Prop where
  delivered : copy.delivery ∈ delivered
  messageId : copy.messageId = forwardId copy.dead copy.delivery copy.message.retryCount
  task : copy.message.task = copy.delivery.message.task
  body : copy.message.body = copy.delivery.message.body
  answered : copy.confirm = some .ack → copy.routed = true ∨ copy.returned = true

structure ConsumerInv (s : MQConsumer) : Prop where
  tags : ∀ delivery ∈ s.delivered, delivery.channelGeneration < s.generation ∨
    delivery.channelGeneration = s.generation ∧ delivery.deliveryTag ≤ s.lastTag
  unique : ∀ first ∈ s.delivered, ∀ second ∈ s.delivered,
    first.channelGeneration = second.channelGeneration →
    first.deliveryTag = second.deliveryTag → first = second
  unacked : ∀ delivery ∈ s.unacked, delivery ∈ s.delivered ∧
    delivery.channelGeneration = s.generation ∧ delivery ∉ s.acknowledged
  nodup : s.unacked.Nodup
  acknowledged : ∀ delivery ∈ s.acknowledged, delivery ∈ s.delivered ∧ s.Justified delivery
  acknowledgedNodup : s.acknowledged.Nodup
  closed : s.isOpen = false → s.unacked = [] ∧ s.frames = []
  frames : ∀ frame ∈ s.frames, frame.1 ≤ s.lastTag
  opening : s.opening = true → s.isOpen = false ∧
    ∀ delivery ∈ s.delivered, delivery.channelGeneration < s.generation
  channel : s.connected = true ∨ s.opening = true → s.generation ≠ 0
  commands : ∀ command ∈ s.commands, command.delivery ∈ s.delivered ∧
    ∀ delivery, command = .ack delivery → delivery ∈ s.ackCalled
  copies : ∀ copy ∈ s.copies, CopyInv s.delivered copy
  settlements : ∀ sent ∈ s.settlements, sent.2 ∈ s.delivered ∧ sent.2.channelGeneration = sent.1
  justified : ∀ delivery ∈ s.unacked,
    s.firstFrame delivery.deliveryTag = some (delivery.deliveryTag, .ack) → s.Justified delivery
  covered : ∀ copy ∈ s.copies, copy.delivery.channelGeneration = s.generation →
    copy.returned = true → copy.confirm = none → s.connected = true →
    copy.messageId ∈ s.returned ∨ s.Settling copy.delivery

section

variable {s t : MQConsumer}

/-! ## Message ids -/

theorem dash_notMem_decimal (n : Nat) : dash ∉ decimal n := by
  intro mem
  have bounds := bounds_of_mem_decimal mem
  revert bounds
  decide

variable {delivery : Delivery} {number : Nat} {copy : Copy}

theorem tag_eq_of_forwardId_eq {dead dead' : Bool} {delivery' : Delivery}
    {retryCount retryCount' : UInt32}
    (same : forwardId dead delivery retryCount = forwardId dead' delivery' retryCount') :
    delivery.channelGeneration = delivery'.channelGeneration ∧
      delivery.deliveryTag = delivery'.deliveryTag := by
  have words : dash ∉ text "dead" ∧ dash ∉ text "retry" := by decide +kernel
  have plain : ∀ {dead : Bool}, dash ∉ (if dead then text "dead" else text "retry") := by
    intro dead
    cases dead
    · exact words.2
    · exact words.1
  obtain ⟨_, rest⟩ := eq_of_append_separator_eq plain plain same
  obtain ⟨generation, rest⟩ :=
    eq_of_append_separator_eq (dash_notMem_decimal _) (dash_notMem_decimal _) rest
  obtain ⟨tag, _⟩ :=
    eq_of_append_separator_eq (dash_notMem_decimal _) (dash_notMem_decimal _) rest
  exact ⟨decimal_injective generation, decimal_injective tag⟩

theorem ConsumerInv.delivery_eq (inv : s.ConsumerInv) {first second : Copy}
    (known : CopyInv s.delivered first) (known' : CopyInv s.delivered second)
    (same : first.messageId = second.messageId) : first.delivery = second.delivery := by
  rw [known.messageId, known'.messageId] at same
  obtain ⟨generation, tag⟩ := tag_eq_of_forwardId_eq same
  exact inv.unique _ known.delivered _ known'.delivered generation tag

/-! ## Settlements -/

theorem firstFrame_settle (s : MQConsumer) (delivery : Delivery) (settlement : Settlement)
    (tag : Nat) :
    (s.settle delivery settlement).firstFrame tag =
      (s.firstFrame tag).or
        (if s.isOpen = true ∧ delivery.deliveryTag = tag then some (tag, settlement)
          else none) := by
  unfold firstFrame MQConsumer.settle
  cases s.isOpen with
  | false => simp
  | true =>
    by_cases same : delivery.deliveryTag = tag
    · simp [List.find?_append, same]
    · simp [List.find?_append, same]

variable {α : Type} {copy' : Copy} {rest : List (Nat × Settlement)} {tag : Nat}
    {settlement : Settlement} {new : α} {list : List α}

theorem mem_append_singleton {P : α → Prop} (before : ∀ a ∈ list, P a) (holds : P new) :
    ∀ a ∈ list ++ [new], P a := by
  intro a mem
  rcases List.mem_append.mp mem with old | isNew
  · exact before a old
  · rwa [List.mem_singleton.mp isNew]

theorem ConsumerInv.settle (inv : s.ConsumerInv) (settlement : Settlement)
    (delivered : delivery ∈ s.delivered) (current : delivery.channelGeneration = s.generation)
    (justified : settlement = .ack → delivery ∈ s.unacked →
      s.firstFrame delivery.deliveryTag = none → s.Justified delivery) :
    (s.settle delivery settlement).ConsumerInv :=
  { inv with
    closed := fun isClosed => by
      have isClosed : s.isOpen = false := isClosed
      simpa [MQConsumer.settle, isClosed] using inv.closed isClosed
    frames := by
      have bound : delivery.deliveryTag ≤ s.lastTag := by
        rcases inv.tags delivery delivered with older | ⟨_, bound⟩
        · exact absurd current older.ne
        · exact bound
      unfold MQConsumer.settle
      split
      · exact mem_append_singleton inv.frames bound
      · exact inv.frames
    settlements := mem_append_singleton inv.settlements ⟨delivered, current⟩
    justified := fun other mem first => by
      rw [firstFrame_settle] at first
      cases known : s.firstFrame other.deliveryTag with
      | some =>
        rw [known, Option.some_or] at first
        exact inv.justified other mem (known.trans first)
      | none =>
        rw [known, Option.none_or] at first
        obtain ⟨mine, first⟩ := Option.ite_none_right_eq_some.mp first
        have same : delivery = other := by
          obtain ⟨delivered', current', _⟩ := inv.unacked other mem
          exact inv.unique _ delivered _ delivered' (current.trans current'.symm) mine.2
        subst same
        cases first
        exact justified rfl mem known
    covered := fun copy mem generation returned waits connected => by
      refine (inv.covered copy mem generation returned waits connected).imp_right ?_
      intro settling mem'
      rw [firstFrame_settle, Option.isSome_or, settling mem', Bool.true_or] }

theorem settling_settle (inv : s.ConsumerInv) (delivery : Delivery) (settlement : Settlement) :
    (s.settle delivery settlement).Settling delivery := by
  intro mem
  have mem : delivery ∈ s.unacked := mem
  rw [firstFrame_settle]
  cases isOpen : s.isOpen with
  | true => simp
  | false =>
    rw [(inv.closed isOpen).1] at mem
    cases mem

/-! ## Copies -/

theorem waitingCopy_eq_some :
    s.waitingCopy number = some copy ↔ s.copies[number]? = some copy ∧
      copy.delivery.channelGeneration = s.generation ∧ copy.confirm = none := by
  simp [waitingCopy, Option.filter_eq_some_iff]

theorem mem_set_of_ne {old other : α}
    (found : list[number]? = some old) (mem : other ∈ list) (ne : other ≠ old) :
    other ∈ list.set number new := by
  obtain ⟨index, found'⟩ := List.getElem?_of_mem mem
  have apart : number ≠ index := by
    rintro rfl
    exact ne (Option.some.inj (found'.symm.trans found))
  rw [← List.getElem?_set_ne apart] at found'
  exact mem_of_getElem? found'

theorem Justified.setCopy (waits : s.waitingCopy number = some copy)
    (justified : s.Justified delivery) (copies : t.copies = s.copies.set number copy')
    (called : t.ackCalled = s.ackCalled) : t.Justified delivery := by
  obtain ⟨found, _, unanswered⟩ := waitingCopy_eq_some.mp waits
  rcases justified with mem | ⟨other, mem, isFor, acked, kept⟩
  · exact .inl (called ▸ mem)
  refine .inr ⟨other, ?_, isFor, acked, kept⟩
  rw [copies]
  refine mem_set_of_ne found mem fun same => ?_
  rw [same, unanswered] at acked
  cases acked

theorem ConsumerInv.setCopy (inv : s.ConsumerInv) (returned : Finset Bytes)
    (waits : s.waitingCopy number = some copy)
    (known : CopyInv s.delivered copy')
    (new : copy'.returned = true → copy'.confirm = none → copy'.messageId ∈ returned)
    (kept : ∀ other ∈ s.copies, s.connected = true → other.messageId ∈ s.returned →
      other.messageId ∈ returned ∨ s.Settling other.delivery) :
    { s with copies := s.copies.set number copy', returned := returned }.ConsumerInv := by
  have cases' : ∀ {other}, other ∈ s.copies.set number copy' → other ∈ s.copies ∨ other = copy' :=
    mem_or_eq_of_mem_set
  exact
    { inv with
      acknowledged := fun delivery mem =>
        ⟨(inv.acknowledged delivery mem).1,
          (inv.acknowledged delivery mem).2.setCopy waits rfl rfl⟩
      copies := fun other mem => by
        rcases cases' mem with before | rfl
        · exact inv.copies other before
        · exact known
      justified := fun delivery mem first =>
        (inv.justified delivery mem first).setCopy waits rfl rfl
      covered := fun other mem generation wasReturned waits' connected => by
        rcases cases' mem with before | rfl
        · rcases inv.covered other before generation wasReturned waits' connected with
            mem' | settling
          · exact kept other before connected mem'
          · exact .inr settling
        · exact .inl (new wasReturned waits') }

theorem ConsumerInv.copyInv (inv : s.ConsumerInv) (waits : s.waitingCopy number = some copy) :
    copy ∈ s.copies ∧ CopyInv s.delivered copy := by
  have mem := mem_of_getElem? (waitingCopy_eq_some.mp waits).1
  exact ⟨mem, inv.copies copy mem⟩

theorem ConsumerInv.forward (inv : s.ConsumerInv) (dead : Bool) (retryCount : UInt32)
    (expiration : Option UInt32) (delivered : delivery ∈ s.delivered) :
    (s.forward dead delivery retryCount expiration).ConsumerInv := by
  unfold MQConsumer.forward
  split
  case isFalse => exact inv
  case isTrue =>
    have mono : ∀ {other new}, s.Justified other →
        { s with copies := s.copies ++ [new] }.Justified other := by
      rintro other new (mem | ⟨copy, mem, holds⟩)
      · exact .inl mem
      · exact .inr ⟨copy, mem_append_left _ mem, holds⟩
    exact
      { inv with
        acknowledged := fun other mem => ⟨(inv.acknowledged other mem).1,
          mono (inv.acknowledged other mem).2⟩
        copies := mem_append_singleton inv.copies ⟨delivered, rfl, rfl, rfl, nofun⟩
        justified := fun other mem first => mono (inv.justified other mem first)
        covered := mem_append_singleton inv.covered fun _ => nofun }

theorem isCurrent_iff : s.isCurrent delivery = true ↔
    delivery.channelGeneration = s.generation ∧ s.generation ≠ 0 ∧ s.connected = true := by
  simp [isCurrent]

/-! ## The event thread -/

section

variable (inv : s.ConsumerInv)
include inv

theorem ConsumerInv.recoverForwardFailure (delivered : delivery ∈ s.delivered) :
    (s.recoverForwardFailure delivery).ConsumerInv := by
  unfold MQConsumer.recoverForwardFailure
  split
  case isFalse => exact inv
  case isTrue current => exact inv.settle _ delivered (isCurrent_iff.mp current).1 nofun

theorem ConsumerInv.runCommand {command : Command} (delivered : command.delivery ∈ s.delivered)
    (called : ∀ delivery, command = .ack delivery → delivery ∈ s.ackCalled) :
    (s.runCommand command).ConsumerInv := by
  cases command with
  | ack delivery =>
    rw [MQConsumer.runCommand]
    split
    case isFalse => exact inv
    case isTrue current =>
      exact inv.settle _ delivered (isCurrent_iff.mp current).1 fun _ _ _ => .inl (called _ rfl)
  | retry | deadLetter => exact inv.forward _ _ _ delivered

section

variable (waits : s.waitingCopy number = some copy)
include waits

theorem ConsumerInv.ack_unreturned (answered : copy.routed = true ∨ copy.returned = true)
    (unknown : copy.messageId ∉ s.returned) :
    ({ s with copies := s.copies.set number { copy with confirm := some .ack } }.onForwardAck
      copy).ConsumerInv := by
  obtain ⟨mem, known⟩ := inv.copyInv waits
  obtain ⟨found, generation, unanswered⟩ := waitingCopy_eq_some.mp waits
  have acked : CopyInv s.delivered { copy with confirm := some .ack } :=
    { known with answered := fun _ => answered }
  have inv' := inv.setCopy (s.returned.erase copy.messageId) waits acked nofun
    fun other _ _ mem' => .inl (by rwa [Finset.erase_eq_of_notMem unknown])
  unfold MQConsumer.onForwardAck
  rw [if_pos unknown]
  dsimp only
  split
  case isFalse => exact inv'
  case isTrue current =>
    refine inv'.settle _ known.delivered generation fun _ outstanding first => ?_
    by_cases returned : copy.returned = true
    case neg =>
      refine .inr ⟨{ copy with confirm := some .ack }, ?_, rfl, rfl, Bool.not_eq_true _ ▸ returned⟩
      exact mem_set (List.getElem?_eq_some_iff.mp found).1 _
    case pos =>
      -- the entry was taken away with a settlement, so this one is not the first
      have connected := (isCurrent_iff.mp current).2.2
      have settling :=
        (inv.covered copy mem generation returned unanswered connected).resolve_left unknown
      have sent := settling outstanding
      rw [show s.firstFrame copy.delivery.deliveryTag = none from first] at sent
      cases sent

theorem ConsumerInv.ack_returned (answered : copy.routed = true ∨ copy.returned = true)
    (isReturned : copy.messageId ∈ s.returned) :
    ({ s with copies := s.copies.set number { copy with confirm := some .ack } }.onForwardAck
      copy).ConsumerInv := by
  obtain ⟨_, known⟩ := inv.copyInv waits
  obtain ⟨_, generation, _⟩ := waitingCopy_eq_some.mp waits
  have acked : CopyInv s.delivered { copy with confirm := some .ack } :=
    { known with answered := fun _ => answered }
  unfold MQConsumer.onForwardAck MQConsumer.recoverForwardFailure
  rw [if_neg (not_not_intro isReturned)]
  dsimp only
  split
  case isTrue =>
    -- the delivery is sent back first, so that the set may forget its copies
    have sent := inv.settle .requeue known.delivered generation nofun
    refine sent.setCopy (s.returned.erase copy.messageId) waits acked nofun ?_
    intro other mem _ mem'
    by_cases same : other.messageId = copy.messageId
    · right
      rw [inv.delivery_eq (inv.copies other mem) known same]
      exact settling_settle inv _ _
    · exact .inl (Finset.mem_erase.mpr ⟨same, mem'⟩)
  case isFalse away =>
    refine inv.setCopy _ waits acked nofun fun other _ connected _ => (away ?_).elim
    exact isCurrent_iff.mpr ⟨generation, inv.channel (.inl connected), connected⟩

theorem ConsumerInv.onConfirm {confirm : Confirm}
    (answered : confirm = .ack → copy.routed = true ∨ copy.returned = true) :
    ({ s with copies := s.copies.set number { copy with confirm := some confirm } }.onConfirm
      copy confirm).ConsumerInv := by
  obtain ⟨_, known⟩ := inv.copyInv waits
  have failed : ∀ {confirm : Confirm}, confirm ≠ .ack →
      ({ s with copies := s.copies.set number { copy with confirm := some confirm }
        }.recoverForwardFailure copy.delivery).ConsumerInv := by
    intro confirm notAck
    have known' : CopyInv s.delivered { copy with confirm := some confirm } :=
      { known with answered := fun isAck => absurd (Option.some.inj isAck) notAck }
    have inv' := inv.setCopy s.returned waits known' nofun fun _ _ _ mem => .inl mem
    exact inv'.recoverForwardFailure known.delivered
  cases confirm with
  | ack =>
    by_cases isReturned : copy.messageId ∈ s.returned
    · exact inv.ack_returned waits (answered rfl) isReturned
    · exact inv.ack_unreturned waits (answered rfl) isReturned
  | nack | error => exact failed (by decide)

end

/-! ## The broker -/

theorem ConsumerInv.closeChannel : s.closeChannel.ConsumerInv :=
  { inv with
    unacked := fun _ mem => absurd mem not_mem_nil
    nodup := nodup_nil
    closed := fun _ => ⟨rfl, rfl⟩
    frames := fun _ mem => absurd mem not_mem_nil
    opening := fun isOpening => ⟨rfl, (inv.opening isOpening).2⟩
    justified := fun _ mem => absurd mem not_mem_nil
    covered := fun _ _ _ _ _ _ => .inr fun mem => absurd mem not_mem_nil }

theorem ConsumerInv.initializeChannel : s.initializeChannel.ConsumerInv := by
  have older : ∀ delivery ∈ s.delivered, delivery.channelGeneration < s.generation + 1 := by
    intro delivery mem
    have bound := inv.tags delivery mem
    omega
  exact
    { inv.closeChannel with
      tags := fun delivery mem => .inl (older delivery mem)
      unacked := fun _ mem => absurd mem not_mem_nil
      frames := fun _ mem => absurd mem not_mem_nil
      opening := fun _ => ⟨rfl, older⟩
      channel := fun _ => Nat.succ_ne_zero _
      covered := fun copy mem generation => by
        have bound := older copy.delivery (inv.copies copy mem).delivered
        exact absurd generation bound.ne }

end

theorem firstFrame_cons {tag' : Nat} (queued : s.frames = (tag, settlement) :: rest) :
    s.firstFrame tag' =
      if tag = tag' then some (tag, settlement) else { s with frames := rest }.firstFrame tag' := by
  unfold firstFrame
  rw [queued, List.find?_cons]
  by_cases same : tag = tag' <;> simp [same]

theorem ConsumerInv.receiveFrame (inv : s.ConsumerInv)
    (queued : s.frames = (tag, settlement) :: rest) :
    ({ s with frames := rest }.receiveFrame tag settlement).ConsumerInv := by
  unfold MQConsumer.receiveFrame
  split
  case h_1 => exact inv.closeChannel
  case h_2 delivery found =>
    have mem : delivery ∈ s.unacked := mem_of_find?_eq_some found
    have isTag : delivery.deliveryTag = tag := by simpa using List.find?_some found
    obtain ⟨delivered, current, fresh⟩ := inv.unacked delivery mem
    -- what is left has other tags
    have others : ∀ other ∈ s.unacked.erase delivery,
        other ∈ s.unacked ∧ other ≠ delivery ∧ tag ≠ other.deliveryTag := by
      intro other mem'
      obtain ⟨ne, mem'⟩ := inv.nodup.mem_erase_iff.mp mem'
      obtain ⟨delivered', current', _⟩ := inv.unacked other mem'
      refine ⟨mem', ne, fun same => ne ?_⟩
      exact inv.unique _ delivered' _ delivered (current'.trans current.symm)
        (same.symm.trans isTag.symm)
    have left : { s with frames := rest, unacked := s.unacked.erase delivery }.ConsumerInv :=
      { inv with
        unacked := fun other mem' => inv.unacked other (others other mem').1
        nodup := inv.nodup.erase _
        closed := fun isClosed => by
          have none' := (inv.closed isClosed).2
          rw [queued] at none'
          cases none'
        frames := fun frame mem' => inv.frames frame (queued ▸ mem_cons_of_mem _ mem')
        justified := fun other mem' first => by
          obtain ⟨mem', _, apart⟩ := others other mem'
          refine inv.justified other mem' ?_
          rw [firstFrame_cons queued, if_neg apart]
          exact first
        covered := fun copy known generation returned waits connected => by
          refine (inv.covered copy known generation returned waits connected).imp_right ?_
          intro settling mem'
          obtain ⟨mem', _, apart⟩ := others copy.delivery mem'
          have sent := settling mem'
          rw [firstFrame_cons queued, if_neg apart] at sent
          exact sent }
    cases settlement with
    | requeue => exact { left with }
    | ack =>
      have justified : s.Justified delivery := by
        refine inv.justified delivery mem ?_
        rw [firstFrame_cons queued, if_pos isTag.symm, isTag]
      exact
        { left with
          unacked := fun other mem' => by
            obtain ⟨mem', ne, _⟩ := others other mem'
            obtain ⟨delivered', current', fresh'⟩ := inv.unacked other mem'
            refine ⟨delivered', current', fun mem'' => ?_⟩
            rcases List.mem_append.mp mem'' with before | new
            · exact fresh' before
            · exact ne (List.mem_singleton.mp new)
          acknowledged := mem_append_singleton inv.acknowledged ⟨delivered, justified⟩
          acknowledgedNodup := by
            refine List.Nodup.append inv.acknowledgedNodup (nodup_singleton _) ?_
            rw [disjoint_singleton]
            exact fresh }

theorem ConsumerInv.deliver (inv : s.ConsumerInv) (isOpen : s.isOpen = true) (new : Delivery)
    (tag : new.deliveryTag = s.lastTag + 1) (current : new.channelGeneration = s.generation)
    (taskQueue : List Message) :
    { s with
      lastTag := s.lastTag + 1
      taskQueue := taskQueue
      unacked := s.unacked ++ [new]
      delivered := s.delivered ++ [new] }.ConsumerInv := by
  have apart : ∀ delivery ∈ s.delivered, ¬ (delivery.channelGeneration = new.channelGeneration ∧
      delivery.deliveryTag = new.deliveryTag) := by
    intro delivery mem
    have bound := inv.tags delivery mem
    omega
  have fresh : new ∉ s.delivered := fun mem => apart new mem ⟨rfl, rfl⟩
  have grown : ∀ {delivery}, delivery ∈ s.delivered → delivery ∈ s.delivered ++ [new] :=
    fun mem => mem_append_left _ mem
  exact
    { inv with
      tags := by
        refine mem_append_singleton (fun delivery mem => ?_) (.inr ⟨current, tag.le⟩)
        exact (inv.tags delivery mem).imp_right
          fun bound => ⟨bound.1, bound.2.trans (Nat.le_succ _)⟩
      unique := by
        refine mem_append_singleton (fun first mem => ?_) ?_
        · exact mem_append_singleton (inv.unique first mem) fun generation same =>
          absurd ⟨generation, same⟩ (apart first mem)
        · refine mem_append_singleton (fun second mem generation same => ?_) fun _ _ => rfl
          exact absurd ⟨generation.symm, same.symm⟩ (apart second mem)
      unacked := by
        refine mem_append_singleton (fun delivery mem => ?_) ⟨?_, current, fun mem => ?_⟩
        · obtain ⟨delivered, rest⟩ := inv.unacked delivery mem
          exact ⟨grown delivered, rest⟩
        · exact mem_append_right _ (List.mem_singleton.mpr rfl)
        · exact fresh (inv.acknowledged _ mem).1
      nodup := by
        refine List.Nodup.append inv.nodup (nodup_singleton _) ?_
        rw [disjoint_singleton]
        exact fun mem => fresh (inv.unacked _ mem).1
      acknowledged := fun delivery mem => by
        obtain ⟨delivered, justified⟩ := inv.acknowledged delivery mem
        exact ⟨grown delivered, justified⟩
      closed := fun isClosed => absurd isClosed (by rw [isOpen]; decide)
      frames := fun frame mem => (inv.frames frame mem).trans (Nat.le_succ _)
      opening := fun isOpening => absurd (inv.opening isOpening).1 (by rw [isOpen]; decide)
      commands := fun command mem =>
        ⟨grown (inv.commands command mem).1, (inv.commands command mem).2⟩
      copies := fun copy mem =>
        { inv.copies copy mem with delivered := grown (inv.copies copy mem).delivered }
      settlements := fun sent mem =>
        ⟨grown (inv.settlements sent mem).1, (inv.settlements sent mem).2⟩
      justified := by
        refine mem_append_singleton inv.justified fun first => ?_
        have bound := inv.frames _ (mem_of_find?_eq_some first)
        simp only at bound
        omega
      covered := fun copy mem generation returned waits connected => by
        refine (inv.covered copy mem generation returned waits connected).imp_right ?_
        intro settling mem'
        rcases List.mem_append.mp mem' with before | isNew
        · exact settling before
        · rw [mem_singleton] at isNew
          exact absurd (isNew ▸ (inv.copies copy mem).delivered) fresh }

theorem ConsumerInv.step (inv : s.ConsumerInv) {event : Event} (taken : s.step event = some t) :
    t.ConsumerInv := by
  cases event with rw [MQConsumer.step] at taken
  | submit =>
    cases taken
    exact { inv with }
  | deliver index =>
    split at taken
    · cases taken
    case h_2 message found =>
      obtain ⟨isOpen, taken⟩ := Option.ite_none_right_eq_some.mp taken
      cases taken
      exact inv.deliver isOpen _ rfl rfl _
  | call command =>
    obtain ⟨delivered, taken⟩ := Option.ite_none_right_eq_some.mp taken
    cases taken
    have mono : ∀ {delivery}, s.Justified delivery →
        { s with ackCalled := s.ackCalled ++ command.ackCalled }.Justified delivery :=
      fun justified => justified.imp_left (mem_append_left _)
    have known : ∀ other, other ∈ s.commands ∨ other = command →
        other.delivery ∈ s.delivered ∧ ∀ delivery, other = .ack delivery →
          delivery ∈ s.ackCalled ++ command.ackCalled := by
      rintro other (before | rfl)
      · obtain ⟨delivered', called⟩ := inv.commands other before
        exact ⟨delivered', fun delivery isAck => mem_append_left _ (called _ isAck)⟩
      refine ⟨delivered, fun delivery isAck => mem_append_right _ ?_⟩
      rw [isAck]
      exact List.mem_singleton.mpr rfl
    exact
      { inv with
        acknowledged := fun delivery mem =>
          ⟨(inv.acknowledged delivery mem).1, mono (inv.acknowledged delivery mem).2⟩
        commands := fun other mem => by
          dsimp only at mem
          split at mem
          · exact known other (.inl mem)
          · exact known other ((List.mem_append.mp mem).imp_right List.mem_singleton.mp)
        justified := fun delivery mem first => mono (inv.justified delivery mem first) }
  | command =>
    split at taken
    · cases taken
    case h_2 command rest queued =>
      cases taken
      have popped : { s with commands := rest }.ConsumerInv :=
        { inv with
          commands := fun other mem => inv.commands other (queued ▸ mem_cons_of_mem _ mem) }
      obtain ⟨delivered, called⟩ := inv.commands command (queued ▸ mem_cons_self)
      exact popped.runCommand delivered called
  | route number =>
    split at taken
    · cases taken
    case h_2 copy waits =>
      obtain ⟨possible, taken⟩ := Option.ite_none_right_eq_some.mp taken
      cases taken
      have known : CopyInv s.delivered { copy with routed := true } :=
        { (inv.copyInv waits).2 with answered := fun _ => .inl rfl }
      have inv' := inv.setCopy s.returned waits known
        (fun returned => absurd (possible.2.2.symm.trans returned) (by decide))
        fun _ _ _ mem => .inl mem
      exact { inv' with }
  | giveBack number =>
    split at taken
    · cases taken
    case h_2 copy waits =>
      obtain ⟨-, taken⟩ := Option.ite_none_right_eq_some.mp taken
      cases taken
      have known : CopyInv s.delivered { copy with returned := true } :=
        { (inv.copyInv waits).2 with answered := fun _ => .inr rfl }
      exact inv.setCopy _ waits known (fun _ _ => Finset.mem_insert_self _ _)
        fun _ _ _ mem => .inl (Finset.mem_insert_of_mem mem)
  | confirm number confirm =>
    split at taken
    · cases taken
    case h_2 copy waits =>
      obtain ⟨possible, taken⟩ := Option.ite_none_left_eq_some.mp taken
      cases taken
      refine inv.onConfirm waits fun isAck => ?_
      by_contra neither
      rw [not_or, Bool.not_eq_true, Bool.not_eq_true] at neither
      exact possible ⟨isAck, neither⟩
  | receive =>
    split at taken
    · cases taken
    case h_2 tag settlement rest queued =>
      cases taken
      exact inv.receiveFrame queued
  | expire =>
    split at taken <;> cases taken
    exact { inv with }
  | lose =>
    cases taken
    exact inv.closeChannel
  | channelError =>
    cases taken
    exact
      { inv with
        opening := nofun
        channel := fun isOpen => by rcases isOpen with isOpen | isOpen <;> cases isOpen
        covered := nofun }
  | start =>
    split at taken <;> cases taken
    exact inv.initializeChannel
  | reconnect =>
    obtain ⟨-, taken⟩ := Option.ite_none_right_eq_some.mp taken
    split at taken <;> cases taken
    · exact { inv with }
    · exact { inv.initializeChannel with }
  | ready =>
    obtain ⟨isOpening, taken⟩ := Option.ite_none_right_eq_some.mp taken
    cases taken
    obtain ⟨_, older⟩ := inv.opening isOpening
    exact
      { inv with
        closed := nofun
        opening := nofun
        channel := fun _ => inv.channel (.inr isOpening)
        covered := fun copy mem generation => by
          have bound := older copy.delivery (inv.copies copy mem).delivered
          exact absurd generation bound.ne }
  | close =>
    cases taken
    exact
      { inv with
        channel := fun isOpen => inv.channel (isOpen.imp_left nofun)
        covered := nofun }

end

end OnlineJudge.Messaging.MQConsumer
