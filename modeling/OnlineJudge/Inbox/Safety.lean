import OnlineJudge.Library.TransitionSystem
import OnlineJudge.Inbox.Scripts

/-!
# The inbox is safe

Any number of judges run `Claim` and `Complete` on one message id.
-/

namespace OnlineJudge.Inbox

/-! ## The system -/

structure GivenLease where
  lease : Lease
  released : Bool := false
  deriving DecidableEq

def GivenLease.running (given : GivenLease) (now : Nat) : Bool :=
  !given.released && now < given.lease.leaseUntil

structure InboxState where
  clock : Nat := 0
  hash : InboxHash := {}
  leases : List GivenLease := []

variable (s : InboxState)

def InboxState.now : Nat := nowMs s.clock

inductive InboxAction
  | advance (microseconds : Nat)
  | claim (fingerprint owner : String) (leaseMs : UInt32)
  | complete (fingerprint owner : String) (result : Bytes)
  | expire

def releaseNewest : List GivenLease → List GivenLease
  | [] => []
  | given :: rest => { given with released := true } :: rest

def InboxState.claim (fingerprint owner : String) (leaseMs : UInt32) : ClaimReply × InboxState :=
  let (reply, hash) :=
    claimScript s.hash s.now fingerprint owner leaseMs.toNat (retentionMs leaseMs)
  (reply,
    { s with
      hash := hash
      leases :=
        if reply = .started then ⟨⟨owner, fingerprint, s.now + leaseMs.toNat⟩, false⟩ :: s.leases
        else s.leases })

variable (completedTtlMs : Nat)

def InboxState.complete (fingerprint owner : String) (result : Bytes) :
    CompleteReply × InboxState :=
  let (reply, hash) := completeScript s.hash s.now fingerprint owner result completedTtlMs
  (reply,
    { s with
      hash := hash
      leases := if hash = s.hash then s.leases else releaseNewest s.leases })

def inboxStep (s : InboxState) : InboxAction → Option InboxState
  | .advance microseconds => some { s with clock := s.clock + microseconds }
  | .claim fingerprint owner leaseMs => some (s.claim fingerprint owner leaseMs).2
  | .complete fingerprint owner result =>
    some (s.complete completedTtlMs fingerprint owner result).2
  | .expire =>
    match s.hash.expiresAt with
    | some expiresAt => if expiresAt ≤ s.now then some { s with hash := {} } else none
    | none => none

def inboxSystem : TransitionSystem InboxState InboxAction where
  initial := {}
  step := inboxStep completedTtlMs

/-! ## The operations on a phase -/

theorem Phase.claim_cases (phase : Phase) (now : Nat) (fingerprint owner : String)
    (leaseMs retentionMs : Nat) :
    (phase.claim now fingerprint owner leaseMs retentionMs =
        start now fingerprint owner leaseMs retentionMs ∧
      (phase = free ∨ ∃ lease expiresAt, phase = leased lease expiresAt ∧
        lease.leaseUntil ≤ now)) ∨
    ((phase.claim now fingerprint owner leaseMs retentionMs).1 ≠ .started ∧
      (phase.claim now fingerprint owner leaseMs retentionMs).2 = phase) := by
  cases phase with
  | free => exact .inl ⟨rfl, .inl rfl⟩
  | leased lease expiresAt =>
    simp only [claim]
    split
    · exact .inr ⟨by simp, rfl⟩
    split
    · exact .inr ⟨by simp, rfl⟩
    case isFalse finished =>
      exact .inl ⟨rfl, .inr ⟨lease, expiresAt, rfl, Nat.le_of_not_lt finished⟩⟩
  | completed =>
    simp only [claim]
    split <;> exact .inr ⟨by simp, rfl⟩

theorem Phase.complete_cases (phase : Phase) (now : Nat) (fingerprint owner : String)
    (result : Bytes) (completedTtlMs : Nat) :
    (∃ lease expiresAt, phase = leased lease expiresAt ∧ lease.fingerprint = fingerprint ∧
      lease.token = owner ∧ now < lease.leaseUntil ∧
      phase.complete now fingerprint owner result completedTtlMs =
        (.completed, completed fingerprint result (now + completedTtlMs))) ∨
    ((phase.complete now fingerprint owner result completedTtlMs).2 = phase ∧
      ((phase.complete now fingerprint owner result completedTtlMs).1 = .completed →
        ∃ expiresAt, phase = completed fingerprint result expiresAt)) := by
  cases phase with
  | free => exact .inr ⟨rfl, by simp [complete]⟩
  | leased lease expiresAt =>
    simp only [complete]
    split
    · exact .inr ⟨rfl, by simp⟩
    split
    · exact .inr ⟨rfl, by simp⟩
    case isFalse known refused =>
      simp only [not_or, Decidable.not_not, Nat.not_le] at known refused
      exact .inl ⟨lease, expiresAt, rfl, known, refused.1, refused.2, rfl⟩
  | completed stored kept expiresAt =>
    simp only [complete]
    split
    · exact .inr ⟨rfl, by simp⟩
    split
    case isTrue known same =>
      simp only [Decidable.not_not] at known
      exact .inr ⟨rfl, fun _ => ⟨expiresAt, by rw [known, same]⟩⟩
    · exact .inr ⟨rfl, by simp⟩

/-! ## The invariant -/

def LeasesAgree (now : Nat) (leases : List GivenLease) : Phase → Prop
  | .free | .completed .. => ∀ given ∈ leases, given.running now = false
  | .leased lease expiresAt =>
    lease.leaseUntil ≤ expiresAt ∧
      ∃ rest, leases = ⟨lease, false⟩ :: rest ∧ ∀ given ∈ rest, given.running now = false

def InboxInv : Prop :=
  ∃ phase : Phase, s.hash = phase.hash ∧ LeasesAgree s.now s.leases phase

variable {earlier later : Nat} {leases : List GivenLease} {phase : Phase} {leaseMs : UInt32}
    {stored : String}

theorem GivenLease.finished_mono {given : GivenLease} (le : earlier ≤ later)
    (finished : given.running earlier = false) : given.running later = false := by
  simp only [running, Bool.and_eq_false_iff, decide_eq_false_iff_not] at finished ⊢
  exact finished.imp id fun ended => by omega

theorem LeasesAgree.mono (agree : LeasesAgree earlier leases phase) (le : earlier ≤ later) :
    LeasesAgree later leases phase := by
  cases phase with
  | free | completed => exact fun given member => GivenLease.finished_mono le (agree given member)
  | leased =>
    obtain ⟨outlives, rest, same, finished⟩ := agree
    exact ⟨outlives, rest, same,
      fun given member => GivenLease.finished_mono le (finished given member)⟩

theorem LeasesAgree.finished_of_startable {now : Nat} (agree : LeasesAgree now leases phase)
    (startable : phase = .free ∨ ∃ lease expiresAt, phase = .leased lease expiresAt ∧
      lease.leaseUntil ≤ now) : ∀ given ∈ leases, given.running now = false := by
  rcases startable with rfl | ⟨lease, expiresAt, rfl, ended⟩
  · exact agree
  obtain ⟨_, rest, rfl, finished⟩ := agree
  intro given member
  rcases List.mem_cons.mp member with rfl | older
  · simp [GivenLease.running, ended]
  · exact finished given older

variable {s t : InboxState} {expiresAt completedTtlMs : Nat} {action : InboxAction}
    {fingerprint owner : String} {result payload : Bytes}

theorem InboxInv.claim (inv : InboxInv s) (fingerprint owner : String) (leaseMs : UInt32) :
    InboxInv (s.claim fingerprint owner leaseMs).2 := by
  obtain ⟨phase, stored, agree⟩ := inv
  simp only [InboxState.claim, stored, claimScript_hash]
  rcases phase.claim_cases s.now fingerprint owner leaseMs.toNat (retentionMs leaseMs) with
    ⟨started, startable⟩ | ⟨notStarted, same⟩
  · rw [started]
    refine ⟨.leased ⟨owner, fingerprint, s.now + leaseMs.toNat⟩ (s.now + retentionMs leaseMs), rfl,
      Nat.add_le_add_left (leaseMs_le_retentionMs leaseMs) _, s.leases, ?_,
      agree.finished_of_startable startable⟩
    simp [Phase.start]
  · rw [same, if_neg notStarted]
    exact ⟨phase, rfl, agree⟩

theorem InboxInv.complete (inv : InboxInv s) (completedTtlMs : Nat) (fingerprint owner : String)
    (result : Bytes) :
    InboxInv (s.complete completedTtlMs fingerprint owner result).2 := by
  obtain ⟨phase, stored, agree⟩ := inv
  simp only [InboxState.complete, stored, completeScript_hash]
  rcases phase.complete_cases s.now fingerprint owner result completedTtlMs with
    ⟨lease, expiresAt, rfl, _, _, _, done⟩ | ⟨same, _⟩
  · rw [done]
    obtain ⟨_, rest, leases, finished⟩ := agree
    refine ⟨.completed fingerprint result (s.now + completedTtlMs), rfl, ?_⟩
    rw [if_neg (by simp [Phase.hash]), leases]
    intro given member
    rcases List.mem_cons.mp member with rfl | older
    · rfl
    · exact finished given older
  · rw [same, if_pos rfl]
    exact ⟨phase, rfl, agree⟩

theorem InboxInv.expire (inv : InboxInv s) (expires : s.hash.expiresAt = some expiresAt)
    (elapsed : expiresAt ≤ s.now) :
    InboxInv { s with hash := {} } := by
  obtain ⟨phase, stored, agree⟩ := inv
  refine ⟨.free, rfl, ?_⟩
  cases phase with
  | free | completed => exact agree
  | leased lease keyExpiresAt =>
    rw [stored] at expires
    have same : keyExpiresAt = expiresAt := by simpa [Phase.hash] using expires
    exact agree.finished_of_startable (.inr ⟨lease, keyExpiresAt, rfl, by have := agree.1; omega⟩)

theorem InboxInv.step (inv : InboxInv s) (taken : inboxStep completedTtlMs s action = some t) :
    InboxInv t := by
  cases action with
  | advance =>
    cases taken
    obtain ⟨phase, stored, agree⟩ := inv
    exact ⟨phase, stored, agree.mono (nowMs_mono (Nat.le_add_right _ _))⟩
  | claim fingerprint owner leaseMs =>
    cases taken
    exact inv.claim fingerprint owner leaseMs
  | complete fingerprint owner result =>
    cases taken
    exact inv.complete completedTtlMs fingerprint owner result
  | expire =>
    simp only [inboxStep] at taken
    split at taken
    case h_2 => cases taken
    case h_1 expiresAt expires =>
      split at taken
      case isFalse => cases taken
      case isTrue elapsed =>
        cases taken
        exact inv.expire expires elapsed

theorem InboxInv.initial : InboxInv {} := ⟨.free, rfl, by simp [LeasesAgree]⟩

theorem InboxInv.of_reachable (reachable : (inboxSystem completedTtlMs).Reachable s) : InboxInv s :=
  TransitionSystem.Reachable.induct (P := InboxInv) reachable InboxInv.initial
    fun _ taken inv => inv.step taken

/-! ## The theorem -/

def StoresResult (s : InboxState) (fingerprint : String) (result : Bytes) (expiresAt : Nat) :
    Prop :=
  s.hash = (Phase.completed fingerprint result expiresAt).hash

theorem completed_transition (inv : InboxInv s) (taken : inboxStep completedTtlMs s action = some t)
    (before : s.hash.state ≠ some .completed) (after : t.hash.state = some .completed) :
    ∃ fingerprint owner result lease rest,
      action = .complete fingerprint owner result ∧ s.leases = ⟨lease, false⟩ :: rest ∧
      lease.token = owner ∧ lease.fingerprint = fingerprint ∧ s.now < lease.leaseUntil ∧
      StoresResult t fingerprint result (s.now + completedTtlMs) := by
  obtain ⟨phase, stored, agree⟩ := inv
  cases action with
  | advance =>
    cases taken
    exact absurd after before
  | claim fingerprint owner leaseMs =>
    cases taken
    simp only [InboxState.claim, stored, claimScript_hash] at after
    rcases phase.claim_cases s.now fingerprint owner leaseMs.toNat (retentionMs leaseMs) with
      ⟨started, _⟩ | ⟨_, same⟩
    · rw [started] at after
      cases after
    · rw [same, ← stored] at after
      exact absurd after before
  | complete fingerprint owner result =>
    cases taken
    simp only [InboxState.complete, stored, completeScript_hash, StoresResult] at after ⊢
    rcases phase.complete_cases s.now fingerprint owner result completedTtlMs with
      ⟨lease, expiresAt, rfl, known, holder, running, done⟩ | ⟨same, _⟩
    · obtain ⟨_, rest, leases, _⟩ := agree
      exact ⟨fingerprint, owner, result, lease, rest, rfl, leases, holder, known, running,
        by rw [done]⟩
    · rw [same, ← stored] at after
      exact absurd after before
  | expire =>
    simp only [inboxStep] at taken
    split at taken
    case h_2 => cases taken
    case h_1 =>
      split at taken
      case isFalse => cases taken
      case isTrue =>
        cases taken
        cases after

theorem StoresResult.claim (stores : StoresResult s fingerprint result expiresAt)
    (fingerprint' owner : String) (leaseMs : UInt32) :
    StoresResult (s.claim fingerprint' owner leaseMs).2 fingerprint result expiresAt := by
  rw [StoresResult] at stores
  simp only [InboxState.claim, stores, claimScript_hash, StoresResult]
  rcases Phase.claim_cases (.completed fingerprint result expiresAt) s.now fingerprint' owner
    leaseMs.toNat (retentionMs leaseMs) with ⟨_, impossible | ⟨_, _, impossible, _⟩⟩ | ⟨_, same⟩
  · cases impossible
  · cases impossible
  · rw [same]

theorem StoresResult.complete (stores : StoresResult s fingerprint result expiresAt)
    (completedTtlMs : Nat) (fingerprint' owner : String) (payload : Bytes) :
    StoresResult (s.complete completedTtlMs fingerprint' owner payload).2 fingerprint result
      expiresAt := by
  rw [StoresResult] at stores
  simp only [InboxState.complete, stores, completeScript_hash, StoresResult]
  rcases Phase.complete_cases (.completed fingerprint result expiresAt) s.now fingerprint' owner
    payload completedTtlMs with ⟨_, _, impossible, _⟩ | ⟨same, _⟩
  · cases impossible
  · rw [same]

theorem storesResult_step (stores : StoresResult s fingerprint result expiresAt ∨ expiresAt ≤ s.now)
    (taken : inboxStep completedTtlMs s action = some t) :
    StoresResult t fingerprint result expiresAt ∨ expiresAt ≤ t.now := by
  cases action with
  | advance =>
    cases taken
    exact stores.imp id fun finished => Nat.le_trans finished (nowMs_mono (Nat.le_add_right _ _))
  | claim fingerprint' owner leaseMs =>
    cases taken
    exact stores.imp (fun stored => stored.claim fingerprint' owner leaseMs) id
  | complete fingerprint' owner payload =>
    cases taken
    exact stores.imp (fun stored => stored.complete completedTtlMs fingerprint' owner payload) id
  | expire =>
    simp only [inboxStep] at taken
    split at taken
    case h_2 => cases taken
    case h_1 keyExpiresAt expires =>
      split at taken
      case isFalse => cases taken
      case isTrue elapsed =>
        cases taken
        refine .inr ?_
        rcases stores with stored | finished
        · rw [stored] at expires
          cases expires
          exact elapsed
        · exact finished

theorem StoresResult.unique {fingerprint' : String} {result' : Bytes} {expiresAt' : Nat}
    (first : StoresResult s fingerprint result expiresAt)
    (second : StoresResult s fingerprint' result' expiresAt') :
    fingerprint = fingerprint' ∧ result = result' := by
  rw [StoresResult] at first second
  rw [first] at second
  simp only [Phase.hash, InboxHash.mk.injEq, Option.some.injEq] at second
  exact ⟨second.2.1, second.2.2.2.2.1⟩

theorem InboxInv.stores_of_claim (inv : InboxInv s)
    (stores : StoresResult (s.claim fingerprint owner leaseMs).2 stored result expiresAt) :
    StoresResult s stored result expiresAt := by
  obtain ⟨phase, hash, _⟩ := inv
  simp only [StoresResult, InboxState.claim, hash, claimScript_hash] at stores ⊢
  rcases phase.claim_cases s.now fingerprint owner leaseMs.toNat (retentionMs leaseMs) with
    ⟨started, _⟩ | ⟨_, same⟩
  · rw [started] at stores
    cases stores
  · rwa [same] at stores

theorem InboxInv.stores_of_complete (inv : InboxInv s)

    (stores : StoresResult (s.complete completedTtlMs fingerprint owner payload).2 stored result
      expiresAt) : StoresResult s stored result expiresAt ∨ result = payload := by
  obtain ⟨phase, hash, _⟩ := inv
  simp only [StoresResult, InboxState.complete, hash, completeScript_hash] at stores ⊢
  rcases phase.complete_cases s.now fingerprint owner payload completedTtlMs with
    ⟨_, _, _, _, _, _, done⟩ | ⟨same, _⟩
  · rw [done] at stores
    simp only [Phase.hash, InboxHash.mk.injEq, Option.some.injEq] at stores
    exact .inr stores.2.2.2.2.1.symm
  · rw [same] at stores
    exact .inl stores

theorem InboxInv.stores_of_completed (inv : InboxInv s)
    (replied : (s.claim fingerprint owner leaseMs).1 = .completed (some payload)) :
    ∃ expiresAt, StoresResult s fingerprint payload expiresAt := by
  obtain ⟨phase, hash, _⟩ := inv
  simp only [InboxState.claim, hash, claimScript_hash] at replied
  cases phase with
  | free => cases replied
  | leased =>
    simp only [Phase.claim, Phase.start] at replied
    split at replied
    · cases replied
    split at replied <;> cases replied
  | completed stored result expiresAt =>
    simp only [Phase.claim] at replied
    split at replied
    case isTrue => cases replied
    case isFalse known =>
      cases replied
      rw [Decidable.not_not.mp known] at hash
      exact ⟨expiresAt, hash⟩

theorem InboxInv.stores_completed (inv : InboxInv s)
    (replied : (s.complete completedTtlMs fingerprint owner payload).1 = .completed) :
    ∃ expiresAt, StoresResult (s.complete completedTtlMs fingerprint owner payload).2 fingerprint
      payload expiresAt := by
  obtain ⟨phase, hash, _⟩ := inv
  simp only [StoresResult, InboxState.complete, hash, completeScript_hash] at replied ⊢
  rcases phase.complete_cases s.now fingerprint owner payload completedTtlMs with
    ⟨_, _, _, _, _, _, done⟩ | ⟨same, finds⟩
  · exact ⟨s.now + completedTtlMs, by rw [done]⟩
  · obtain ⟨expiresAt, completed⟩ := finds replied
    exact ⟨expiresAt, by rw [same, completed]⟩

theorem StoresResult.replies (stores : StoresResult s fingerprint result expiresAt)
    (completedTtlMs : Nat) :
    (∀ fingerprint' owner leaseMs answer,
      (s.claim fingerprint' owner leaseMs).1 = .completed answer → answer = some result) ∧
    (∀ fingerprint' owner payload,
      (s.complete completedTtlMs fingerprint' owner payload).1 = .completed →
        payload = result) := by
  rw [StoresResult] at stores
  constructor
  · intro fingerprint' owner leaseMs answer replied
    simp only [InboxState.claim, stores, claimScript_hash, Phase.claim] at replied
    split at replied
    · cases replied
    · cases replied; rfl
  · intro fingerprint' owner payload replied
    simp only [InboxState.complete, stores, completeScript_hash, Phase.complete] at replied
    split at replied
    · cases replied
    split at replied
    case isTrue same => exact same.symm
    case isFalse => cases replied

/-- **The inbox is safe**: leases exclude each other, only the newest one completes the message, and
the result then stays until the key expires. -/
theorem inbox_safety {completedTtlMs : Nat} {s : InboxState}
    (reachable : (inboxSystem completedTtlMs).Reachable s) :
    (∀ fingerprint owner leaseMs, (s.claim fingerprint owner leaseMs).1 = .started →
      (∀ given ∈ s.leases, given.running s.now = false) ∧
        s.hash.state ≠ some .completed) ∧
    (∀ action t, (inboxSystem completedTtlMs).step s action = some t →
      s.hash.state ≠ some .completed → t.hash.state = some .completed →
      ∃ fingerprint owner result lease rest,
        action = .complete fingerprint owner result ∧ s.leases = ⟨lease, false⟩ :: rest ∧
        lease.token = owner ∧ lease.fingerprint = fingerprint ∧ s.now < lease.leaseUntil ∧
        ∀ u, (inboxSystem completedTtlMs).Reaches t u → u.now < s.now + completedTtlMs →
          u.hash.state = some .completed ∧ u.hash.result = some result ∧
          (∀ fingerprint' owner' leaseMs answer,
            (u.claim fingerprint' owner' leaseMs).1 = .completed answer → answer = some result) ∧
          (∀ fingerprint' owner' payload,
            (u.complete completedTtlMs fingerprint' owner' payload).1 = .completed →
              payload = result)) := by
  have inv := InboxInv.of_reachable reachable
  constructor
  · intro fingerprint owner leaseMs started
    obtain ⟨phase, stored, agree⟩ := inv
    simp only [InboxState.claim, stored, claimScript_hash] at started
    rcases phase.claim_cases s.now fingerprint owner leaseMs.toNat (retentionMs leaseMs) with
      ⟨_, startable⟩ | ⟨notStarted, _⟩
    · refine ⟨agree.finished_of_startable startable, ?_⟩
      rcases startable with rfl | ⟨lease, expiresAt, rfl, _⟩ <;> simp [stored, Phase.hash]
    · exact absurd started notStarted
  · intro action t taken before after
    obtain ⟨fingerprint, owner, result, lease, rest, complete, leases, holder, known, running,
      stores⟩ := completed_transition inv taken before after
    refine ⟨fingerprint, owner, result, lease, rest, complete, leases, holder, known, running, ?_⟩
    intro u later early
    have kept : StoresResult u fingerprint result (s.now + completedTtlMs) ∨
        s.now + completedTtlMs ≤ u.now :=
      TransitionSystem.ReachesUnder.induct
        (P := fun u => StoresResult u fingerprint result (s.now + completedTtlMs) ∨
          s.now + completedTtlMs ≤ u.now) later (.inl stores)
        fun _ _ taken kept => storesResult_step kept taken
    rcases kept with stored | finished
    · obtain ⟨claims, completions⟩ := stored.replies completedTtlMs
      rw [StoresResult] at stored
      exact ⟨by rw [stored]; rfl, by rw [stored]; rfl, claims, completions⟩
    · omega

/-- A claim, its completion, and what a second judge then learns. -/
theorem inbox_safety_first_completion :
    ∃ s t : InboxState, (inboxSystem 1000).Reachable s ∧
      (inboxSystem 1000).step s (.complete "f" "token" [1]) = some t ∧
      s.hash.state ≠ some .completed ∧ t.hash.state = some .completed ∧ t.now < s.now + 1000 ∧
      t.hash.result = some [1] := by
  obtain ⟨s, reachable, check⟩ := (inboxSystem 1000).exists_of_run
    [.advance 5000, .claim "f" "token" 100]
    (fun s => decide (s.hash.state ≠ some .completed) &&
      ((inboxSystem 1000).step s (.complete "f" "token" [1])).any fun t : InboxState =>
        decide (t.hash.state = some .completed) && decide (t.now < s.now + 1000)) (by decide)
  simp only [Bool.and_eq_true, decide_eq_true_eq, Option.any_eq_true] at check
  obtain ⟨before, t, taken, after, early⟩ := check
  obtain ⟨_, _, result, _, _, complete, _, _, _, _, kept⟩ :=
    (inbox_safety reachable).2 _ t taken before after
  cases complete
  exact ⟨s, t, reachable, taken, before, after, early, (kept t (.refl t) early).2.1⟩

end OnlineJudge.Inbox
