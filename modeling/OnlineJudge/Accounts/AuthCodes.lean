import OnlineJudge.Common.Messages
import OnlineJudge.Library.ExpiringStore
import OnlineJudge.Library.TransitionSystem

/-!
# Verification codes

`VerifyEmailAuthCode` and `VerifyEmailAuthCodeAndLogin` (`control_auth.hpp`): `GET`, then `DEL` if
the code is right, else `INCR` and perhaps `EXPIRE` or `DEL`.  Two calls may both read the code
before one deletes it (`code_used_twice`).
-/

namespace OnlineJudge.Accounts

open Function ExpiringStore

def buildAuthCodeKey (email : Bytes) : Bytes := text "oj:auth:code:" ++ email

def buildAuthAttemptsKey (email : Bytes) : Bytes := text "oj:auth:attempts:" ++ email

/-- `kCodeTtlSeconds`, in milliseconds. -/
def codeTtl : Int := 300000

def maxAttempts : Nat := 5

inductive CommandFate
  | answered
  | replyLost
  | notExecuted
  deriving DecidableEq

namespace CommandFate

def throws : CommandFate → Bool
  | .answered => false
  | .replyLost | .notExecuted => true

def select {α : Type} (fate : CommandFate) (before after : α) : α :=
  match fate with
  | .answered | .replyLost => after
  | .notExecuted => before

end CommandFate

/-! ## The calls -/

inductive VerifyResult
  | ok
  | codeExpired
  | codeMismatch
  | attemptsExceeded
  | redisError
  deriving DecidableEq

def VerifyResult.errCode : VerifyResult → Option String
  | .ok => none
  | .codeExpired => some "CODE_EXPIRED"
  | .codeMismatch => some "CODE_MISMATCH"
  | .attemptsExceeded => some "ATTEMPTS_EXCEEDED"
  | .redisError => some "REDIS_ERROR"

inductive Pc
  | idle
  | getting (input : Bytes)
  | incrementing
  | expiring
  | deletingCode (matched : Bool)
  | deletingAttempts (matched : Bool)
  | finished (result : VerifyResult)
  deriving DecidableEq

def Pc.inside : Pc → Bool
  | .incrementing | .expiring | .deletingCode _ | .deletingAttempts _ => true
  | .idle | .getting _ | .finished _ => false

structure AuthState (n : Nat) where
  now : Int
  codes : ExpiringStore Bytes Bytes Int
  attempts : ExpiringStore Bytes Nat Int
  calls : Fin n → Pc
  matched : Nat := 0
  mismatched : Nat := 0

variable {n : Nat}

namespace AuthState

def setCall (s : AuthState n) (id : Fin n) (pc : Pc) : AuthState n :=
  { s with calls := update s.calls id pc }

def command (s : AuthState n) (email : Bytes) (id : Fin n) : Option (AuthState n) :=
  match s.calls id with
  | .getting input =>
    match s.codes.get s.now (buildAuthCodeKey email) with
    | none => some (s.setCall id (.finished .codeExpired))
    | some code =>
      if code ≠ input then
        some { s.setCall id .incrementing with mismatched := s.mismatched + 1 }
      else some { s.setCall id (.deletingCode true) with matched := s.matched + 1 }
  | .incrementing =>
    let (attempts, count) := s.attempts.incr s.now (buildAuthAttemptsKey email)
    let next :=
      if count = 1 then Pc.expiring
      else if count ≥ maxAttempts then .deletingCode false
      else .finished .codeMismatch
    some { s.setCall id next with attempts }
  | .expiring =>
    let attempts := s.attempts.expire s.now (buildAuthAttemptsKey email) (s.now + codeTtl)
    some { s.setCall id (.finished .codeMismatch) with attempts }
  | .deletingCode matched =>
    some { s.setCall id (.deletingAttempts matched) with
      codes := s.codes.del (buildAuthCodeKey email) }
  | .deletingAttempts matched =>
    some { s.setCall id (.finished (if matched then .ok else .attemptsExceeded)) with
      attempts := s.attempts.del (buildAuthAttemptsKey email) }
  | .idle | .finished _ => none

end AuthState

inductive AuthAction (n : Nat)
  | call (id : Fin n) (input : Bytes)
  | command (id : Fin n)
  | fail (id : Fin n) (executed : Bool)
  | tick (now : Int)

def authStep (email : Bytes) (s : AuthState n) : AuthAction n → Option (AuthState n)
  | .call id input =>
    match s.calls id with
    | .idle | .finished _ => some (s.setCall id (.getting input))
    | _ => none
  | .command id => s.command email id
  | .fail id executed =>
    (s.command email id).map fun t =>
      { s.setCall id (.finished .redisError) with
        codes := if executed then t.codes else s.codes
        attempts := if executed then t.attempts else s.attempts }
  | .tick now => if s.now ≤ now then some { s with now } else none

def authSystem (email : Bytes) (sent : AuthState n) :
    TransitionSystem (AuthState n) (AuthAction n) where
  initial := sent
  step := authStep email

/-- `SendEmailAuthCode` has just sent a code. -/
structure Sent (email : Bytes) (s : AuthState n) : Prop where
  code : ∃ code, s.codes (buildAuthCodeKey email) = some ⟨code, some (s.now + codeTtl)⟩
  attempts : s.attempts (buildAuthAttemptsKey email) = none
  matched : s.matched = 0
  mismatched : s.mismatched = 0

/-- A call finds the code only while no other call is inside, and the commands that count an
attempt and delete the code do not fail. -/
def careful (email : Bytes) (s : AuthState n) : AuthAction n → Bool
  | .command id =>
    match s.calls id with
    | .getting _ =>
      (s.codes.get s.now (buildAuthCodeKey email)).isNone ||
        decide (∀ j, j ≠ id → (s.calls j).inside = false)
    | _ => true
  | .fail id executed =>
    match s.calls id with
    | .incrementing => false
    | .deletingCode _ => executed
    | _ => true
  | _ => true

/-! ## The invariant -/

variable {email : Bytes} {expiry : Int} {s : AuthState n} {id : Fin n}

def Alive (email : Bytes) (s : AuthState n) : Prop :=
  s.codes.get s.now (buildAuthCodeKey email) ≠ none

def counted (email : Bytes) (s : AuthState n) : Nat :=
  (s.attempts.get s.now (buildAuthAttemptsKey email)).getD 0

structure Dated (email : Bytes) (expiry : Int) (s : AuthState n) : Prop where
  code : ∀ entry, s.codes (buildAuthCodeKey email) = some entry → entry.expiry = some expiry
  attempts : ∀ entry, s.attempts (buildAuthAttemptsKey email) = some entry →
    ∀ time, entry.expiry = some time → expiry ≤ time
  now : expiry ≤ s.now + codeTtl

namespace Dated

section

variable (dated : Dated email expiry s)
include dated

theorem now_lt_expiry (alive : Alive email s) : s.now < expiry := by
  obtain ⟨code, found⟩ := Option.ne_none_iff_exists'.mp alive
  obtain ⟨entry, present, _⟩ := Option.map_eq_some_iff.mp found
  obtain ⟨stored, live⟩ := Option.filter_eq_some_iff.mp present
  rw [ExpiringStore.live, dated.code entry stored] at live
  exact of_decide_eq_true live

theorem incr :
    Dated email expiry
      { s with attempts := (s.attempts.incr s.now (buildAuthAttemptsKey email)).1 } := by
  refine { dated with attempts := fun entry after time expires => ?_ }
  obtain ⟨before, stored, same⟩ := incr_expiry after expires
  exact dated.attempts before stored time same

theorem expire :
    Dated email expiry { s with
      attempts := s.attempts.expire s.now (buildAuthAttemptsKey email) (s.now + codeTtl) } := by
  refine { dated with attempts := fun entry after time expires => ?_ }
  rcases expire_expiry after with before | new
  · exact dated.attempts entry before time expires
  · obtain rfl : s.now + codeTtl = time := Option.some.inj (new.symm.trans expires)
    exact dated.now

theorem delAttempts :
    Dated email expiry { s with attempts := s.attempts.del (buildAuthAttemptsKey email) } := by
  refine { dated with attempts := fun entry after => ?_ }
  cases (s.attempts.del_self _).symm.trans after

theorem delCode : Dated email expiry { s with codes := s.codes.del (buildAuthCodeKey email) } := by
  refine { dated with code := fun entry after => ?_ }
  cases (s.codes.del_self _).symm.trans after

end

end Dated

def Quiet (email : Bytes) (s : AuthState n) : Prop :=
  Alive email s → s.matched = 0 ∧ s.mismatched ≤ counted email s ∧ s.mismatched < maxAttempts

def Held (email : Bytes) (s : AuthState n) : Pc → Prop
  | .incrementing => Alive email s → s.matched = 0 ∧ s.mismatched ≤ counted email s + 1
  | .deletingCode _ => True
  | .deletingAttempts _ => ¬ Alive email s
  | .idle | .getting _ | .expiring | .finished _ => Quiet email s

theorem held_of_not_inside {pc : Pc} (outside : pc.inside = false) :
    Held email s pc ↔ Quiet email s := by
  cases pc <;> first | exact Iff.rfl | cases outside

/-- What holds in every state of a careful run.  Before the first comparison any number of
calls may be inside; from then on there is one at most. -/
structure Guarded (email : Bytes) (expiry : Int) (s : AuthState n) : Prop where
  dated : Dated email expiry s
  matched : s.matched ≤ 1
  mismatched : s.mismatched ≤ maxAttempts
  owner : (s.matched = 0 ∧ s.mismatched = 0) ∨
    ∃ who, (∀ j, j ≠ who → (s.calls j).inside = false) ∧ Held email s (s.calls who)

namespace Guarded

theorem quiet (guarded : Guarded email expiry s) (outside : ∀ j, (s.calls j).inside = false) :
    Quiet email s := by
  rcases guarded.owner with ⟨unmatched, none⟩ | ⟨who, _, held⟩
  · intro _
    rw [unmatched, none]
    exact ⟨rfl, Nat.zero_le _, by decide⟩
  · exact (held_of_not_inside (outside who)).mp held

theorem outside (guarded : Guarded email expiry s) {pc : Pc}
    (before : (s.calls id).inside = false) (after : pc.inside = false) :
    Guarded email expiry (s.setCall id pc) := by
  refine ⟨{ guarded.dated with }, guarded.matched, guarded.mismatched, guarded.owner.imp_right ?_⟩
  rintro ⟨who, others, held⟩
  refine ⟨who, fun j other => ?_, ?_⟩
  · change (update s.calls id pc j).inside = false
    rcases eq_or_ne j id with rfl | different
    · rwa [update_self]
    · rw [update_of_ne different]
      exact others j other
  · change Held email s (update s.calls id pc who)
    rcases eq_or_ne who id with rfl | different
    · rw [update_self, held_of_not_inside after]
      exact (held_of_not_inside before).mp held
    · rwa [update_of_ne different]

theorem inside (guarded : Guarded email expiry s) {pc : Pc} {codes : ExpiringStore Bytes Bytes Int}
    {attempts : ExpiringStore Bytes Nat Int} (before : (s.calls id).inside = true)
    (dated : Dated email expiry { s.setCall id pc with codes, attempts })
    (held : Held email s (s.calls id) → Held email { s.setCall id pc with codes, attempts } pc) :
    Guarded email expiry { s.setCall id pc with codes, attempts } := by
  refine ⟨dated, guarded.matched, guarded.mismatched, guarded.owner.imp_right ?_⟩
  rintro ⟨who, others, heldBefore⟩
  obtain rfl : id = who := by
    by_contra different
    rw [others id different] at before
    cases before
  refine ⟨id, fun j other => ?_, ?_⟩
  · change (update s.calls id pc j).inside = false
    rw [update_of_ne other]
    exact others j other
  · change Held email { s.setCall id pc with codes, attempts } (update s.calls id pc id)
    rw [update_self]
    exact held heldBefore

variable {t : AuthState n}

theorem get (guarded : Guarded email expiry s) {input : Bytes}
    (getting : s.calls id = .getting input) (isCareful : careful email s (.command id) = true)
    (took : s.command email id = some t) : Guarded email expiry t := by
  have before : (s.calls id).inside = false := by rw [getting]; rfl
  simp only [AuthState.command, getting] at took
  simp only [careful, getting] at isCareful
  split at took
  · cases took
    exact guarded.outside before rfl
  rename_i code found
  have others : ∀ j, j ≠ id → (s.calls j).inside = false := by
    rw [found] at isCareful
    exact of_decide_eq_true isCareful
  -- No call is inside when a careful call finds the code, so the counts are settled.
  have quiet : Quiet email s := guarded.quiet fun j => by
    rcases eq_or_ne j id with rfl | different
    · exact before
    · exact others j different
  have alive : Alive email s := by rw [Alive, found]; exact nofun
  obtain ⟨unmatched, counts, few⟩ := quiet alive
  have stay (pc : Pc) : ∀ j, j ≠ id → (update s.calls id pc j).inside = false := by
    intro j different
    rw [update_of_ne different]
    exact others j different
  split at took
  · cases took
    refine ⟨{ guarded.dated with }, guarded.matched, few, .inr ⟨id, stay _, ?_⟩⟩
    change Held email { s.setCall id .incrementing with mismatched := s.mismatched + 1 }
      (update s.calls id .incrementing id)
    rw [update_self]
    exact fun _ => ⟨unmatched, Nat.add_le_add_right counts 1⟩
  · cases took
    refine ⟨{ guarded.dated with }, ?_, guarded.mismatched, .inr ⟨id, stay _, ?_⟩⟩
    · change s.matched + 1 ≤ 1
      omega
    · change Held email { s.setCall id (.deletingCode true) with matched := s.matched + 1 }
        (update s.calls id (.deletingCode true) id)
      rw [update_self]
      trivial

theorem increment (guarded : Guarded email expiry s) (incrementing : s.calls id = .incrementing)
    (took : s.command email id = some t) :
    Guarded email expiry t := by
  have before : (s.calls id).inside = true := by rw [incrementing]; rfl
  obtain ⟨count, found⟩ := s.attempts.get_incr s.now (buildAuthAttemptsKey email)
  simp only [AuthState.command, incrementing] at took
  cases took
  refine guarded.inside before { guarded.dated.incr with } fun held => ?_
  rw [incrementing] at held
  -- the attempts after the command
  have counts (pc : Pc) : counted email { s.setCall id pc with
      attempts := (s.attempts.incr s.now (buildAuthAttemptsKey email)).1 } =
      (s.attempts.incr s.now (buildAuthAttemptsKey email)).2 := by
    rw [counted]
    exact congrArg (Option.getD · 0) found
  have quiet (pc : Pc)
      (few : (s.attempts.incr s.now (buildAuthAttemptsKey email)).2 < maxAttempts) :
      Quiet email { s.setCall id pc with
        attempts := (s.attempts.incr s.now (buildAuthAttemptsKey email)).1 } := by
    intro alive
    obtain ⟨unmatched, atMost⟩ := held alive
    have atMost : s.mismatched ≤ (s.attempts.incr s.now (buildAuthAttemptsKey email)).2 := by
      rw [count]
      exact atMost
    rw [counts pc]
    exact ⟨unmatched, atMost, Nat.lt_of_le_of_lt atMost few⟩
  split
  · rename_i first
    refine quiet .expiring ?_
    rw [first]
    decide
  · split
    · trivial
    · rename_i few
      exact quiet (.finished .codeMismatch) (Nat.not_le.mp few)

theorem quiet_expire (quiet : Quiet email s) (pc : Pc) :
    Quiet email { s.setCall id pc with
      attempts := s.attempts.expire s.now (buildAuthAttemptsKey email) (s.now + codeTtl) } := by
  have later : s.now < s.now + codeTtl := Int.lt_add_of_pos_right _ (by decide)
  intro alive
  obtain ⟨unmatched, atMost, few⟩ := quiet alive
  refine ⟨unmatched, ?_, few⟩
  rw [counted]
  change s.mismatched ≤ ((s.attempts.expire s.now (buildAuthAttemptsKey email)
    (s.now + codeTtl)).get s.now (buildAuthAttemptsKey email)).getD 0
  rw [get_expire later]
  exact atMost

theorem not_alive_del (pc : Pc) :
    ¬ Alive email { s.setCall id pc with codes := s.codes.del (buildAuthCodeKey email) } :=
  fun alive => alive (s.codes.get_del s.now _)

section

variable (guarded : Guarded email expiry s)
include guarded

theorem command (isCareful : careful email s (.command id) = true)
    (took : s.command email id = some t) : Guarded email expiry t := by
  cases pc : s.calls id with
  | idle | finished => simp [AuthState.command, pc] at took
  | getting => exact guarded.get pc isCareful took
  | incrementing => exact guarded.increment pc took
  | expiring =>
    simp only [AuthState.command, pc] at took
    cases took
    refine guarded.inside (by rw [pc]; rfl) { guarded.dated.expire with } fun held => ?_
    rw [pc] at held
    exact quiet_expire held _
  | deletingCode =>
    simp only [AuthState.command, pc] at took
    cases took
    exact guarded.inside (by rw [pc]; rfl) { guarded.dated.delCode with } fun _ => not_alive_del _
  | deletingAttempts =>
    simp only [AuthState.command, pc] at took
    cases took
    refine guarded.inside (by rw [pc]; rfl) { guarded.dated.delAttempts with } fun held => ?_
    rw [pc] at held
    exact fun alive => absurd alive held

theorem fail {executed : Bool} (isCareful : careful email s (.fail id executed) = true)
    (took : authStep email s (.fail id executed) = some t) : Guarded email expiry t := by
  obtain ⟨next, sent, rfl⟩ := Option.map_eq_some_iff.mp took
  cases pc : s.calls id with
  | idle | finished => simp [AuthState.command, pc] at sent
  | getting =>
    have same : next.codes = s.codes ∧ next.attempts = s.attempts := by
      simp only [AuthState.command, pc] at sent
      split at sent
      · cases sent
        exact ⟨rfl, rfl⟩
      · split at sent <;> cases sent <;> exact ⟨rfl, rfl⟩
    rw [same.1, same.2, ite_self, ite_self]
    exact guarded.outside (by rw [pc]; rfl) rfl
  -- A careful `INCR` does not fail.
  | incrementing => simp [careful, pc] at isCareful
  | expiring =>
    simp only [AuthState.command, pc] at sent
    cases sent
    have before : (s.calls id).inside = true := by rw [pc]; rfl
    cases executed with
    | false =>
      refine guarded.inside before { guarded.dated with } fun held => ?_
      rwa [pc] at held
    | true =>
      refine guarded.inside before { guarded.dated.expire with } fun held => ?_
      rw [pc] at held
      exact quiet_expire held _
  | deletingCode matched =>
    simp only [AuthState.command, pc] at sent
    simp only [careful, pc] at isCareful
    cases sent
    rw [isCareful]
    refine guarded.inside (by rw [pc]; rfl) { guarded.dated.delCode with } fun _ => ?_
    exact fun alive => absurd alive (not_alive_del _)
  | deletingAttempts matched =>
    simp only [AuthState.command, pc] at sent
    cases sent
    have before : (s.calls id).inside = true := by rw [pc]; rfl
    have dead (held : Held email s (s.calls id)) : ¬ Alive email s := by rwa [pc] at held
    cases executed with
    | false =>
      refine guarded.inside before { guarded.dated with } fun held alive => ?_
      exact absurd alive (dead held)
    | true =>
      refine guarded.inside before { guarded.dated.delAttempts with } fun held alive => ?_
      exact absurd alive (dead held)

theorem tick {now : Int} (later : s.now ≤ now) : Guarded email expiry { s with now } := by
  have dated : Dated email expiry { s with now } :=
    { guarded.dated with now := by have := guarded.dated.now; simp only; omega }
  have alive (after : Alive email { s with now }) : Alive email s := fun gone =>
    after (get_eq_none_of_le later gone)
  -- The attempts do not expire before the code does.
  have counts (after : Alive email { s with now }) :
      counted email { s with now } = counted email s := by
    have early : now < expiry := dated.now_lt_expiry after
    refine congrArg (Option.getD · 0) (get_eq_of_lt fun entry stored time expires => ?_)
    have late := guarded.dated.attempts entry stored time expires
    exact ⟨by omega, lt_of_lt_of_le early late⟩
  refine ⟨dated, guarded.matched, guarded.mismatched, guarded.owner.imp_right ?_⟩
  rintro ⟨who, others, held⟩
  refine ⟨who, others, ?_⟩
  change Held email { s with now } (s.calls who)
  cases pc : s.calls who with
  | incrementing | idle | getting input | expiring | finished result =>
    rw [pc] at held
    intro after
    rw [counts after]
    exact held (alive after)
  | deletingCode => trivial
  | deletingAttempts =>
    rw [pc] at held
    exact fun after => held (alive after)

theorem step {action : AuthAction n} (isCareful : careful email s action = true)
    (took : authStep email s action = some t) :
    Guarded email expiry t := by
  cases action with
  | call id input =>
    rw [authStep] at took
    split at took <;> cases took <;> rename_i pc
    · exact guarded.outside (by rw [pc]; rfl) rfl
    · exact guarded.outside (by rw [pc]; rfl) rfl
  | command => exact guarded.command isCareful took
  | fail => exact guarded.fail isCareful took
  | tick now =>
    rw [authStep] at took
    split at took <;> cases took
    rename_i later
    exact guarded.tick later

end

end Guarded

/-! ## All runs -/

theorem guarded_of_sent (sent : Sent email s) : Guarded email (s.now + codeTtl) s := by
  obtain ⟨code, stored⟩ := sent.code
  refine ⟨⟨fun entry present => ?_, fun entry present => ?_, le_rfl⟩, ?_, ?_,
    .inl ⟨sent.matched, sent.mismatched⟩⟩
  · rw [stored] at present
    cases present
    rfl
  · rw [sent.attempts] at present
    cases present
  · rw [sent.matched]
    exact Nat.zero_le 1
  · rw [sent.mismatched]
    exact Nat.zero_le _

/-- **A code is used once, and withstands five wrong inputs**, in every careful run after it was
sent. -/
theorem code_used_once {sent s : AuthState n} (isSent : Sent email sent)
    (reaches : (authSystem email sent).ReachableUnder
      (fun s action => careful email s action = true) s) : s.matched ≤ 1 ∧ s.mismatched ≤ 5 := by
  have guarded : Guarded email (sent.now + codeTtl) s :=
    reaches.induct (guarded_of_sent isSent) fun _ isCareful took guarded =>
      guarded.step isCareful took
  exact ⟨guarded.matched, guarded.mismatched⟩

def sampleSent (n : Nat) : AuthState n where
  now := 0
  codes := fun key => if key = buildAuthCodeKey [] then some ⟨[49], some codeTtl⟩ else none
  attempts := fun _ => none
  calls := fun _ => .idle

theorem sent_sampleSent (n : Nat) : Sent [] (sampleSent n) :=
  ⟨⟨[49], if_pos rfl⟩, rfl, rfl, rfl⟩

theorem code_used_once_second : ∃ s : AuthState 2,
    s.calls 1 = .finished .ok ∧ s.mismatched = 1 ∧ s.matched ≤ 1 ∧ s.mismatched ≤ 5 := by
  obtain ⟨s, reaches, check⟩ := (authSystem [] (sampleSent 2)).exists_of_runUnder (careful [])
    [.call 0 [48], .call 1 [49], .command 0, .tick 7, .command 0, .command 0, .command 1,
      .command 1, .command 1]
    (fun s => decide (s.calls 1 = .finished .ok ∧ s.mismatched = 1)) (by decide +kernel)
  obtain ⟨finished, once⟩ := of_decide_eq_true check
  exact ⟨s, finished, once, code_used_once (sent_sampleSent 2) reaches⟩

/-- All calls read the code before one of them sends another command. -/
theorem code_used_twice :
    (∃ s, (authSystem [] (sampleSent 2)).Reachable s ∧ s.matched = 2 ∧
      s.calls 0 = .finished .ok ∧ s.calls 1 = .finished .ok) ∧
    ∃ s, (authSystem [] (sampleSent 6)).Reachable s ∧ s.mismatched = 6 := by
  constructor
  · obtain ⟨s, reachable, check⟩ := (authSystem [] (sampleSent 2)).exists_of_run
      [.call 0 [49], .call 1 [49], .command 0, .command 1, .command 0, .command 0, .command 1,
        .command 1]
      (fun s => decide (s.matched = 2 ∧ s.calls 0 = .finished .ok ∧ s.calls 1 = .finished .ok))
      (by decide +kernel)
    exact ⟨s, reachable, of_decide_eq_true check⟩
  · obtain ⟨s, reachable, check⟩ := (authSystem [] (sampleSent 6)).exists_of_run
      ((List.finRange 6).map (AuthAction.call · [48]) ++ (List.finRange 6).map .command)
      (fun s => decide (s.mismatched = 6)) (by decide +kernel)
    exact ⟨s, reachable, of_decide_eq_true check⟩

end OnlineJudge.Accounts
