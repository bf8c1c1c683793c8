import OnlineJudge.Common.Messages

/-!
# The judge inbox: two Redis scripts

`JudgeInbox` (`judge_inbox.hpp`) keeps one Redis hash per message id; `Claim` and `Complete` each
run one Lua script.  `Phase` is what the inbox is for: a message is free, leased, or completed.
-/

namespace OnlineJudge.Inbox

def timeParts (clock : Nat) : Nat × Nat := (clock / 1000000, clock % 1000000)

/-- `now_parts[1] * 1000 + math.floor(now_parts[2] / 1000)`. -/
def nowMs (clock : Nat) : Nat := (timeParts clock).1 * 1000 + (timeParts clock).2 / 1000

theorem nowMs_eq (clock : Nat) : nowMs clock = clock / 1000 := by
  simp only [nowMs, timeParts]
  omega

theorem nowMs_mono {earlier later : Nat} (le : earlier ≤ later) : nowMs earlier ≤ nowMs later := by
  rw [nowMs_eq, nowMs_eq]
  exact Nat.div_le_div_right le

/-- The text in the field `state`. -/
inductive HashState
  | processing
  | completed
  | unknown
  deriving DecidableEq

/-- The hash of one message id.  `expiresAt` is what the last `PEXPIRE` set. -/
structure InboxHash where
  state : Option HashState := none
  fingerprint : Option String := none
  owner : Option String := none
  leaseUntil : Option Nat := none
  result : Option Bytes := none
  expiresAt : Option Nat := none
  deriving DecidableEq

/-- The reply of `ClaimScript`. -/
inductive ClaimReply
  | conflict
  | completed (result : Option Bytes)
  | error
  | processing (remaining : Nat)
  | started
  deriving DecidableEq

/-- The reply of `CompleteScript`. -/
inductive CompleteReply
  | completed
  | conflict
  | notOwner
  deriving DecidableEq

def startClaim (hash : InboxHash) (now : Nat) (fingerprint owner : String)
    (leaseMs retentionMs : Nat) : ClaimReply × InboxHash :=
  (.started,
    { hash with
      state := some .processing
      fingerprint := some fingerprint
      owner := some owner
      leaseUntil := some (now + leaseMs)
      result := none
      expiresAt := some (now + retentionMs) })

def claimScript (hash : InboxHash) (now : Nat) (fingerprint owner : String)
    (leaseMs retentionMs : Nat) : ClaimReply × InboxHash :=
  match hash.state with
  | none => startClaim hash now fingerprint owner leaseMs retentionMs
  | some state =>
    if hash.fingerprint ≠ some fingerprint then (.conflict, hash)
    else if state = .completed then (.completed hash.result, hash)
    else if state ≠ .processing then (.error, hash)
    else
      let leaseUntil := hash.leaseUntil.getD 0
      if leaseUntil > now then (.processing (leaseUntil - now), hash)
      else startClaim hash now fingerprint owner leaseMs retentionMs

def completeScript (hash : InboxHash) (now : Nat) (fingerprint owner : String) (result : Bytes)
    (completedTtlMs : Nat) : CompleteReply × InboxHash :=
  match hash.state with
  | none => (.notOwner, hash)
  | some state =>
    if hash.fingerprint ≠ some fingerprint then (.conflict, hash)
    else if state = .completed then
      if hash.result = some result then (.completed, hash) else (.notOwner, hash)
    else if state ≠ .processing ∨ hash.owner ≠ some owner ∨ hash.leaseUntil.getD 0 ≤ now then
      (.notOwner, hash)
    else
      (.completed,
        { hash with
          state := some .completed
          result := some result
          owner := none
          leaseUntil := none
          expiresAt := some (now + completedTtlMs) })

/-- `_processing_retention_ms`: `Init` leaves the default of `Open`. -/
def processingRetentionMs : Nat := 60000

/-- The retention that `Claim` passes: a `uint32_t` lease plus the retention, as
`uint64_t`. -/
def retentionMs (leaseMs : UInt32) : Nat :=
  (leaseMs.toNat + processingRetentionMs) % UInt64.size

theorem leaseMs_le_retentionMs (leaseMs : UInt32) : leaseMs.toNat ≤ retentionMs leaseMs := by
  have bound := leaseMs.toNat_lt
  rw [retentionMs, Nat.mod_eq_of_lt]
  · exact Nat.le_add_right _ _
  · simp only [processingRetentionMs, UInt64.size]
    omega

/-- `enum class ClaimResult`, with what the call leaves in its out-parameters. -/
inductive ClaimResult
  | started
  | processing (retryAfterMs : Nat)
  | completed (result : JudgeResult)
  | conflict
  | error
  deriving DecidableEq

inductive CompleteResult
  | completed
  | notOwner
  | conflict
  | error
  deriving DecidableEq

/-- What `Claim` returns for a reply; `none` is an exception of the Redis client,
also one after the script has run. -/
def readClaimReply (parse : Bytes → Option JudgeResult) : Option ClaimReply → ClaimResult
  | none => .error
  | some .started => .started
  | some (.processing remaining) => .processing (min (max remaining 500) 5000)
  | some (.completed (some payload)) =>
    match parse payload with
    | some result => .completed result
    | none => .error
  | some (.completed none) => .error
  | some .conflict => .conflict
  | some .error => .error

/-- What `Complete` returns for a reply. -/
def readCompleteReply : Option CompleteReply → CompleteResult
  | none => .error
  | some .completed => .completed
  | some .conflict => .conflict
  | some .notOwner => .notOwner

/-- A claim that was answered `STARTED`. -/
structure Lease where
  token : String
  fingerprint : String
  leaseUntil : Nat
  deriving DecidableEq

inductive Phase
  | free
  | leased (lease : Lease) (expiresAt : Nat)
  | completed (fingerprint : String) (result : Bytes) (expiresAt : Nat)
  deriving DecidableEq

namespace Phase

def hash : Phase → InboxHash
  | free => {}
  | leased lease expiresAt =>
    { state := some .processing
      fingerprint := some lease.fingerprint
      owner := some lease.token
      leaseUntil := some lease.leaseUntil
      expiresAt := some expiresAt }
  | completed fingerprint result expiresAt =>
    { state := some .completed
      fingerprint := some fingerprint
      result := some result
      expiresAt := some expiresAt }

def start (now : Nat) (fingerprint owner : String) (leaseMs retentionMs : Nat) :
    ClaimReply × Phase :=
  (.started, leased ⟨owner, fingerprint, now + leaseMs⟩ (now + retentionMs))

def claim (now : Nat) (fingerprint owner : String) (leaseMs retentionMs : Nat) :
    Phase → ClaimReply × Phase
  | free => start now fingerprint owner leaseMs retentionMs
  | leased lease expiresAt =>
    if lease.fingerprint ≠ fingerprint then (.conflict, leased lease expiresAt)
    else if lease.leaseUntil > now then
      (.processing (lease.leaseUntil - now), leased lease expiresAt)
    else start now fingerprint owner leaseMs retentionMs
  | completed stored result expiresAt =>
    if stored ≠ fingerprint then (.conflict, completed stored result expiresAt)
    else (.completed (some result), completed stored result expiresAt)

def complete (now : Nat) (fingerprint owner : String) (result : Bytes) (completedTtlMs : Nat) :
    Phase → CompleteReply × Phase
  | free => (.notOwner, free)
  | leased lease expiresAt =>
    if lease.fingerprint ≠ fingerprint then (.conflict, leased lease expiresAt)
    else if lease.token ≠ owner ∨ lease.leaseUntil ≤ now then
      (.notOwner, leased lease expiresAt)
    else (.completed, completed fingerprint result (now + completedTtlMs))
  | completed stored kept expiresAt =>
    if stored ≠ fingerprint then (.conflict, completed stored kept expiresAt)
    else if kept = result then (.completed, completed stored kept expiresAt)
    else (.notOwner, completed stored kept expiresAt)

end Phase

/-- **`ClaimScript` refines the claim of a phase.** -/
theorem claimScript_hash (phase : Phase) (now : Nat) (fingerprint owner : String)
    (leaseMs retentionMs : Nat) :
    claimScript phase.hash now fingerprint owner leaseMs retentionMs =
      ((phase.claim now fingerprint owner leaseMs retentionMs).1,
        (phase.claim now fingerprint owner leaseMs retentionMs).2.hash) := by
  cases phase with
  | free => rfl
  | leased lease =>
    by_cases known : lease.fingerprint = fingerprint
    · by_cases running : lease.leaseUntil > now <;>
        simp [claimScript, Phase.claim, Phase.hash, startClaim, Phase.start, known, running]
    · simp [claimScript, Phase.claim, Phase.hash, known]
  | completed stored =>
    by_cases known : stored = fingerprint <;> simp [claimScript, Phase.claim, Phase.hash, known]

/-- **`CompleteScript` refines the completion of a phase.** -/
theorem completeScript_hash (phase : Phase) (now : Nat) (fingerprint owner : String)
    (result : Bytes) (completedTtlMs : Nat) :
    completeScript phase.hash now fingerprint owner result completedTtlMs =
      ((phase.complete now fingerprint owner result completedTtlMs).1,
        (phase.complete now fingerprint owner result completedTtlMs).2.hash) := by
  cases phase with
  | free => rfl
  | leased lease =>
    by_cases known : lease.fingerprint = fingerprint
    · by_cases refused : lease.token ≠ owner ∨ lease.leaseUntil ≤ now
      · simp [completeScript, Phase.complete, Phase.hash, known, refused]
      · simp [completeScript, Phase.complete, Phase.hash, known, refused]
    · simp [completeScript, Phase.complete, Phase.hash, known]
  | completed stored kept =>
    by_cases known : stored = fingerprint
    · by_cases same : kept = result <;>
        simp [completeScript, Phase.complete, Phase.hash, known, same]
    · simp [completeScript, Phase.complete, Phase.hash, known]

def InboxHash.About (hash : InboxHash) (fingerprint : String) : Prop :=
  hash.state ≠ none → hash.fingerprint = some fingerprint

variable {fingerprint : String} {hash : InboxHash}

theorem InboxHash.About.claim (about : hash.About fingerprint) (now : Nat) (owner : String)
    (leaseMs retentionMs : Nat) :
    (claimScript hash now fingerprint owner leaseMs retentionMs).1 ≠ .conflict ∧
      (claimScript hash now fingerprint owner leaseMs retentionMs).2.About fingerprint := by
  unfold claimScript
  split
  · exact ⟨by simp [startClaim], fun _ => rfl⟩
  case h_2 state known =>
    have same := about (by simp [known])
    rw [if_neg (by simp [same])]
    split_ifs
    · exact ⟨by simp, about⟩
    · exact ⟨by simp, about⟩
    · dsimp only
      split_ifs
      · exact ⟨by simp, about⟩
      · exact ⟨by simp [startClaim], fun _ => rfl⟩

theorem InboxHash.About.complete (about : hash.About fingerprint) (now : Nat) (owner : String)
    (result : Bytes) (completedTtlMs : Nat) :
    (completeScript hash now fingerprint owner result completedTtlMs).1 ≠ .conflict ∧
      (completeScript hash now fingerprint owner result completedTtlMs).2.About fingerprint := by
  unfold completeScript
  split
  · exact ⟨by simp, about⟩
  case h_2 state known =>
    have same := about (by simp [known])
    rw [if_neg (by simp [same])]
    split_ifs
    · exact ⟨by simp, about⟩
    · exact ⟨by simp, about⟩
    · exact ⟨by simp, about⟩
    · exact ⟨by simp, fun _ => same⟩

end OnlineJudge.Inbox
