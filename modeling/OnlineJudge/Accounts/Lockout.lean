import OnlineJudge.Accounts.Identity

/-!
# Locking an account

`RecordPasswordLoginFailure` counts failures under the text that the client has sent, so that a
user has as many counters as there are ways to write their name and address.
-/

namespace OnlineJudge.Accounts

open List LoginStores ExpiringStore LoginRates Dimension

variable {hashing : Hashing} {rates : LoginRates}

/-! ## The keys -/

theorem lockKey_ne_attemptsKey (hashing : Hashing) (dimension : Dimension) (value : Bytes) :
    lockKey hashing dimension value ≠ attemptsKey hashing dimension value := by
  intro same
  have suffix : text "lock" = text "attempts" := append_cancel_left same
  revert suffix
  decide +kernel

theorem loginRateKey_account_ne_ip (scope value value' suffix suffix' : Bytes) :
    loginRateKey hashing scope account.name value suffix ≠
      loginRateKey hashing scope ip.name value' suffix' := by
  intro same
  have account : account.name = 97 :: text "ccount" := by decide +kernel
  have ip : ip.name = 105 :: text "p" := by decide +kernel
  simp only [loginRateKey, account, ip, append_assoc, append_cancel_left_eq,
    cons_append, List.cons.injEq] at same
  exact absurd same.1 (by decide)

/-! ## One failure -/

namespace LoginRates

variable {dimension : Dimension} {value : Bytes} {now : Int}

def nextCount (hashing : Hashing) (rates : LoginRates) (dimension : Dimension) (value : Bytes)
    (now : Int) : Nat :=
  (rates.get now (attemptsKey hashing dimension value)).getD 0 + 1

theorem record_attempts :
    record hashing rates dimension value now (attemptsKey hashing dimension value) =
      some ⟨nextCount hashing rates dimension value now,
        if nextCount hashing rates dimension value now = 1 then some (now + rateWindow * 1000)
        else (rates.entry now (attemptsKey hashing dimension value)).bind (·.expiry)⟩ := by
  have counted := rates.entry_incr now (attemptsKey hashing dimension value)
  have count := (rates.get_incr now (attemptsKey hashing dimension value)).1
  have apart := (lockKey_ne_attemptsKey hashing dimension value).symm
  unfold record nextCount
  rw [← count] at counted ⊢
  generalize rates.incr now (attemptsKey hashing dimension value) = incremented at counted ⊢
  obtain ⟨store, attempts⟩ := incremented
  dsimp only at counted ⊢
  have present : store (attemptsKey hashing dimension value) =
      some ⟨attempts, (rates.entry now (attemptsKey hashing dimension value)).bind (·.expiry)⟩ :=
    (Option.filter_eq_some_iff.mp counted).1
  -- the lock is another key
  have kept : ∀ store : LoginRates, ∀ seconds : Int,
      (if attempts ≥ dimension.threshold then
        store.setEx (lockKey hashing dimension value) 1 seconds else store)
          (attemptsKey hashing dimension value) = store (attemptsKey hashing dimension value) := by
    intro store seconds
    split
    · exact setEx_of_ne apart ..
    · rfl
  rw [kept]
  split
  · simp only [expire, counted, Function.update_self]
  · exact present

theorem record_lock (many : dimension.threshold ≤ nextCount hashing rates dimension value now) :
    record hashing rates dimension value now (lockKey hashing dimension value) =
      some ⟨1, some (now + lockSeconds (nextCount hashing rates dimension value now)
        dimension.threshold * 1000)⟩ := by
  have count := (rates.get_incr now (attemptsKey hashing dimension value)).1
  unfold record
  dsimp only
  rw [count, if_pos (show (rates.get now (attemptsKey hashing dimension value)).getD 0 + 1 ≥
    dimension.threshold from many), setEx, Function.update_self]
  rfl

theorem record_of_ne {key : Bytes} (attempts : key ≠ attemptsKey hashing dimension value)
    (lock : key ≠ lockKey hashing dimension value) :
    record hashing rates dimension value now key = rates key := by
  unfold record
  dsimp only
  split
  · rw [setEx_of_ne lock]
    split
    · rw [expire_of_ne attempts, incr_of_ne attempts]
    · rw [incr_of_ne attempts]
  · split
    · rw [expire_of_ne attempts, incr_of_ne attempts]
    · rw [incr_of_ne attempts]

theorem recordFailure_account (account clientIp suffix : Bytes) :
    recordFailure hashing rates account clientIp now
        (loginRateKey hashing (text "user") Dimension.account.name account suffix) =
      record hashing rates .account account now
        (loginRateKey hashing (text "user") Dimension.account.name account suffix) :=
  record_of_ne (loginRateKey_account_ne_ip _ _ _ _ _) (loginRateKey_account_ne_ip _ _ _ _ _)

end LoginRates

/-! ## Failures in a window -/

/-- A counter that exists at `start` does not expire before `limit`. -/
def Lasts (start limit : Int) (rates : LoginRates) (key : Bytes) : Prop :=
  ∀ entry, rates key = some entry → live entry start = true →
    ∀ expiry, entry.expiry = some expiry → limit ≤ expiry

/-- So many failures are counted, and will be until `limit`. -/
structure Counted (n : Nat) (start limit : Int) (rates : LoginRates) (key : Bytes) : Prop where
  lasts : Lasts start limit rates key
  counted : 0 < n → ∃ entry, rates key = some entry ∧ n ≤ entry.value ∧
    ∀ expiry, entry.expiry = some expiry → limit ≤ expiry

namespace Counted

variable {n : Nat} {start limit now : Int} {account : Bytes}

theorem lt_nextCount (failures : Counted n start limit rates (attemptsKey hashing .account account))
    (soon : now < limit) : n < nextCount hashing rates .account account now := by
  rcases Nat.eq_zero_or_pos n with rfl | positive
  · exact Nat.succ_pos _
  obtain ⟨entry, present, many, lasts⟩ := failures.counted positive
  have alive : ExpiringStore.live entry now = true := by
    unfold ExpiringStore.live
    split
    · rfl
    · rename_i expiry expires
      exact decide_eq_true (lt_of_lt_of_le soon (lasts expiry expires))
  have found : rates.get now (attemptsKey hashing .account account) = some entry.value := by
    simp [ExpiringStore.get, ExpiringStore.entry, present, alive]
  rw [nextCount, found]
  exact Nat.lt_succ_of_le many

theorem recordFailure (clientIp : Bytes)
    (failures : Counted n start limit rates (attemptsKey hashing .account account))
    (window : limit ≤ start + rateWindow * 1000) (late : start ≤ now) (soon : now < limit) :
    Counted (n + 1) start limit
      (LoginRates.recordFailure hashing rates account clientIp now)
      (attemptsKey hashing .account account) := by
  have entry : LoginRates.recordFailure hashing rates account clientIp now
      (attemptsKey hashing .account account) = _ :=
    (LoginRates.recordFailure_account ..).trans LoginRates.record_attempts
  have more := failures.lt_nextCount soon
  -- the expiry is that of the window, or the one that the counter had
  have expires : ∀ expiry,
      (if LoginRates.nextCount hashing rates .account account now = 1 then
        some (now + rateWindow * 1000)
      else (rates.entry now (attemptsKey hashing .account account)).bind (·.expiry)) =
        some expiry → limit ≤ expiry := by
    intro expiry set
    split at set
    · cases set
      omega
    obtain ⟨old, found, expires⟩ := Option.bind_eq_some_iff.mp set
    obtain ⟨present, alive⟩ := Option.filter_eq_some_iff.mp found
    refine failures.lasts old present ?_ expiry expires
    simp only [live, expires, decide_eq_true_eq] at alive ⊢
    omega
  refine ⟨fun found present _ => ?_, fun _ => ⟨_, entry, more, expires⟩⟩
  rw [entry] at present
  cases present
  exact expires

end Counted

theorem five_le_lockSeconds (attempts threshold : Nat) : 5 ≤ lockSeconds attempts threshold := by
  have power : 1 ≤ 2 ^ min 6 (attempts - threshold) := Nat.one_le_two_pow
  unfold lockSeconds rateWindow
  omega

/-! ## Runs -/

variable {collation : Collation}

namespace LoginStores

variable (hashing : Hashing)

def login (s : LoginStores collation) (call : LoginCall) : LoginResult × LoginStores collation :=
  s.loginWithPassword hashing call fun _ => .answered

def history (s : LoginStores collation) : List LoginCall → List (LoginCall × LoginResult)
  | [] => []
  | call :: rest => (call, (s.login hashing call).1) :: (s.login hashing call).2.history rest

def afterAll (s : LoginStores collation) : List LoginCall → LoginStores collation
  | [] => s
  | call :: rest => (s.login hashing call).2.afterAll rest

variable {hashing} {s : LoginStores collation} {call : LoginCall}

theorem history_append (s : LoginStores collation) (calls rest : List LoginCall) :
    s.history hashing (calls ++ rest) =
      s.history hashing calls ++ (s.afterAll hashing calls).history hashing rest := by
  induction calls generalizing s with
  | nil => rfl
  | cons call calls ih => simp only [cons_append, history, afterAll, ih]

theorem afterAll_append (s : LoginStores collation) (calls rest : List LoginCall) :
    s.afterAll hashing (calls ++ rest) = (s.afterAll hashing calls).afterAll hashing rest := by
  induction calls generalizing s with
  | nil => rfl
  | cons call calls ih => exact ih _

theorem login_cases (hashing : Hashing) (s : LoginStores collation) (call : LoginCall) :
    (locked hashing s.rates call.emailOrUsername call.clientIp call.checkedAt = true ∧
        s.login hashing call = (.tooManyRequests, s)) ∨
      (locked hashing s.rates call.emailOrUsername call.clientIp call.checkedAt =
          false ∧
        s.login hashing call = (.invalidCredentials, { s with
          rates := recordFailure hashing s.rates call.emailOrUsername call.clientIp
            call.recordedAt })) ∨
      ∃ user, (s.login hashing call).1 = .loggedIn user := by
  have answered : CommandFate.answered.throws = false := rfl
  cases locked : locked hashing s.rates call.emailOrUsername call.clientIp
      call.checkedAt with
  | true => exact .inl ⟨rfl, by simp [login, loginWithPassword, answered, locked]⟩
  | false =>
    refine .inr ?_
    have returned := loginWithPassword_answered locked
    cases accepted : accepts hashing (s.users.resolve call.emailOrUsername fun _ => .answered)
        call.password with
    | false =>
      refine .inl ⟨rfl, ?_⟩
      simp [login, loginWithPassword, answered, locked, accepted, reject, CommandFate.select]
    | true =>
      refine .inr ?_
      cases resolved : s.users.resolve call.emailOrUsername fun _ => .answered with
      | none =>
        rw [resolved] at accepted
        cases accepted
      | some found =>
        rw [resolved] at accepted returned
        exact ⟨found.2.withLastLogin call.time, returned.trans (if_pos accepted)⟩

end LoginStores

def Chronological (calls : List LoginCall) : Prop :=
  (∀ call ∈ calls, call.checkedAt ≤ call.recordedAt) ∧
    calls.Pairwise fun first second => first.recordedAt ≤ second.checkedAt

def LoginResult.succeeds : LoginResult → Bool
  | .loggedIn _ => true
  | _ => false

/-- Calls that resolve to one user: up to `last`, none succeeds and five or more compare a wrong
password between `start` and `limit`; the later ones are made less than five seconds after `last`.
-/
structure FailsFiveTimes (hashing : Hashing) (user : User) (s : LoginStores collation)
    (calls : List LoginCall) (last : LoginCall) (later : List LoginCall) (start limit : Int) :
    Prop where
  ordered : Chronological (calls ++ last :: later)
  resolved : ∀ call ∈ calls ++ last :: later,
    (s.users.resolve call.emailOrUsername fun _ => .answered).map (·.2) = some user
  unsuccessful : ∀ entry ∈ s.history hashing (calls ++ [last]), entry.2.succeeds = false
  failures : 5 ≤ (s.history hashing (calls ++ [last])).countP (·.2 = .invalidCredentials)
  within : ∀ entry ∈ s.history hashing (calls ++ [last]), entry.2 = .invalidCredentials →
    start ≤ entry.1.recordedAt ∧ entry.1.recordedAt < limit
  window : limit ≤ start + rateWindow * 1000
  failed : ((s.afterAll hashing calls).login hashing last).1 = .invalidCredentials
  soon : ∀ call ∈ later, call.checkedAt < last.recordedAt + 5000

namespace Counted

variable {n : Nat} {start limit : Int} {account : Bytes} {s : LoginStores collation}

/-- **All failures in the window** are counted under the text that they have in common. -/
theorem afterAll (counted : Counted n start limit s.rates (attemptsKey hashing .account account))
    (window : limit ≤ start + rateWindow * 1000) {calls : List LoginCall}
    (same : ∀ call ∈ calls, call.emailOrUsername = account)
    (unsuccessful : ∀ entry ∈ s.history hashing calls, entry.2.succeeds = false)
    (within : ∀ entry ∈ s.history hashing calls, entry.2 = .invalidCredentials →
      start ≤ entry.1.recordedAt ∧ entry.1.recordedAt < limit) :
    Counted (n + (s.history hashing calls).countP (·.2 = .invalidCredentials)) start limit
      (s.afterAll hashing calls).rates (attemptsKey hashing .account account) := by
  induction calls generalizing n s with
  | nil => exact counted
  | cons call calls ih =>
    obtain ⟨here, others⟩ := List.forall_mem_cons.mp same
    obtain ⟨unsuccessful, unsuccessful'⟩ := List.forall_mem_cons.mp unsuccessful
    obtain ⟨within, within'⟩ := List.forall_mem_cons.mp within
    rw [history, countP_cons, afterAll]
    rcases login_cases hashing s call with
      ⟨-, refused⟩ | ⟨-, failed⟩ | ⟨user, succeeded⟩
    · rw [refused] at unsuccessful' within' ⊢
      exact ih counted others unsuccessful' within'
    · rw [failed] at unsuccessful' within within' ⊢
      obtain ⟨late, soon⟩ := within rfl
      rw [here] at unsuccessful' within' ⊢
      have more := recordFailure call.clientIp counted window late soon
      have rest := ih (s := ⟨_, _⟩) more others unsuccessful' within'
      rw [Nat.add_right_comm, Nat.add_assoc] at rest
      exact rest
    · rw [succeeded] at unsuccessful
      cases unsuccessful

end Counted

theorem refused_of_lock {account : Bytes} {s : LoginStores collation} {expiry : Int}
    (lock : s.rates (lockKey hashing .account account) = some ⟨1, some expiry⟩)
    {later : List LoginCall} (same : ∀ call ∈ later, call.emailOrUsername = account)
    (soon : ∀ call ∈ later, call.checkedAt < expiry) :
    ∀ entry ∈ s.history hashing later, entry.2 = .tooManyRequests := by
  induction later with
  | nil => nofun
  | cons call later ih =>
    obtain ⟨here, others⟩ := List.forall_mem_cons.mp same
    obtain ⟨now, soon⟩ := List.forall_mem_cons.mp soon
    have locked : locked hashing s.rates call.emailOrUsername call.clientIp
        call.checkedAt = true := by
      have found : s.rates.get call.checkedAt (lockKey hashing .account account) = some 1 := by
        simp [ExpiringStore.get, ExpiringStore.entry, ExpiringStore.live, lock, now]
      rw [locked, here, found]
      rfl
    have refused : s.login hashing call = (.tooManyRequests, s) := by
      simp [login, loginWithPassword, CommandFate.throws, locked]
    rw [history, refused, forall_mem_cons]
    exact ⟨rfl, ih others soon⟩

/-- **Five failures under one text lock it** for five seconds, if a counter from before the window
does not expire in it. -/
theorem locked_out {user : User} {s : LoginStores collation} {calls later : List LoginCall}
    {last : LoginCall} {start limit : Int}
    (fails : FailsFiveTimes hashing user s calls last later start limit)
    (same : ∀ call ∈ calls ++ last :: later, call.emailOrUsername = last.emailOrUsername)
    (lasts : Lasts start limit s.rates (attemptsKey hashing .account last.emailOrUsername)) :
    ∀ entry ∈ (s.afterAll hashing (calls ++ [last])).history hashing later,
      entry.2 = .tooManyRequests := by
  obtain ⟨sameCalls, -, sameLater⟩ : (∀ call ∈ calls, _) ∧ _ ∧ ∀ call ∈ later, _ := by
    rwa [forall_mem_append, forall_mem_cons] at same
  have unsuccessful := fails.unsuccessful
  have within := fails.within
  have failures := fails.failures
  rw [history_append, forall_mem_append] at unsuccessful within
  rw [history_append, countP_append] at failures
  have counted : Counted 0 start limit s.rates
      (attemptsKey hashing .account last.emailOrUsername) := ⟨lasts, nofun⟩
  have counted := counted.afterAll fails.window sameCalls unsuccessful.1 within.1
  generalize (s.history hashing calls).countP _ = n at counted failures
  have failed := fails.failed
  rw [afterAll_append]
  generalize s.afterAll hashing calls = t at failed counted failures within ⊢
  have many : 4 ≤ n := by
    simpa [history, failed] using failures
  have soon : last.recordedAt < limit := (within.2 _ mem_cons_self failed).2
  have next := counted.lt_nextCount soon
  -- the last failure sets the lock
  have lock : (t.afterAll hashing [last]).rates (lockKey hashing .account last.emailOrUsername) =
      some ⟨1, some (last.recordedAt + lockSeconds
        (nextCount hashing t.rates .account last.emailOrUsername last.recordedAt) 5 *
          1000)⟩ := by
    rcases login_cases hashing t last with
      ⟨-, refused⟩ | ⟨-, recorded⟩ | ⟨user, succeeded⟩
    · rw [refused] at failed
      cases failed
    · rw [afterAll, recorded]
      exact (recordFailure_account ..).trans (record_lock (Nat.lt_of_le_of_lt (by omega) next))
    · rw [succeeded] at failed
      cases failed
  refine refused_of_lock lock sameLater fun call mem => ?_
  have early := fails.soon call mem
  have five := five_le_lockSeconds
    (nextCount hashing t.rates .account last.emailOrUsername last.recordedAt) 5
  omega

/-! ### Wrong passwords for one user -/

def shortHashing : Hashing where
  sha256 input i := if (input.drop 40).isEmpty then input.getD i 0 else 0
  pepper := []

def ann : User where
  uid := 1
  name := text "ann"
  email := text "a@b.cd"
  passwordHash := joinPasswordHash (List.replicate 32 48) (List.replicate 64 102)
  passwordAlgo := passwordAlgoTag

def annStores : LoginStores .ignoringCase where
  rates := fun _ => none
  users := ⟨[ann], by decide, by decide +kernel⟩

def attempt (emailOrUsername : Bytes) (second : Int) : LoginCall where
  emailOrUsername
  password := text "wrong123"
  clientIp := text "10.0.0.1"
  checkedAt := second * 1000
  recordedAt := second * 1000 + 100
  time := second

theorem fails_of_history {calls : List LoginCall} {last next : LoginCall} {start limit : Int}
    (compared : annStores.history shortHashing (calls ++ [last]) =
      (calls ++ [last]).map (·, .invalidCredentials))
    (ordered : Chronological (calls ++ [last, next]))
    (resolved : ∀ call ∈ calls ++ [last, next],
      (annStores.users.resolve call.emailOrUsername fun _ => .answered).map (·.2) = some ann)
    (five : calls.length = 4)
    (within : ∀ call ∈ calls ++ [last], start ≤ call.recordedAt ∧ call.recordedAt < limit)
    (window : limit ≤ start + rateWindow * 1000)
    (soon : next.checkedAt < last.recordedAt + 5000) :
    FailsFiveTimes shortHashing ann annStores calls last [next] start limit where
  ordered := ordered
  resolved := resolved
  unsuccessful := by
    simp only [compared, forall_mem_map]
    exact fun _ _ => rfl
  failures := by
    rw [compared, countP_map]
    simp [Function.comp_def, five]
  within := by
    simp only [compared, forall_mem_map]
    exact fun call mem _ => within call mem
  window := window
  failed := by
    rw [history_append, map_append] at compared
    have last := (append_inj' compared rfl).2
    simpa [history] using last
  soon := by
    simpa using soon

theorem locked_out_after_five :
    ((annStores.afterAll shortHashing
        ([1, 2, 3, 4].map (attempt (text "ann")) ++ [attempt (text "ann") 5])).history shortHashing
          [attempt (text "ann") 9]).map Prod.snd = List.replicate 1 .tooManyRequests := by
  have fails : FailsFiveTimes shortHashing ann annStores ([1, 2, 3, 4].map (attempt (text "ann")))
      (attempt (text "ann") 5) [attempt (text "ann") 9] 1000 901000 :=
    fails_of_history (by decide +kernel) ⟨by decide +kernel, by decide +kernel⟩ (by decide +kernel)
      rfl (by decide +kernel) (by decide) (by decide +kernel)
  refine List.eq_replicate_iff.mpr ⟨rfl, List.forall_mem_map.mpr ?_⟩
  exact locked_out fails (by decide +kernel) nofun

def fourAttempts : List LoginCall :=
  [attempt (text "ann") 1, attempt (text "a@b.cd") 2, attempt (text "ANN") 3,
    attempt (text "ann") 4]

/-- Five wrong passwords under the name and the address, and a sixth one four seconds later is
compared. -/
theorem compared_after_five :
    FailsFiveTimes shortHashing ann annStores fourAttempts (attempt (text "A@b.cd") 5)
        [attempt (text "ann") 9] 1000 901000 ∧
      (annStores.afterAll shortHashing (fourAttempts ++ [attempt (text "A@b.cd") 5])).history
        shortHashing [attempt (text "ann") 9] =
          [(attempt (text "ann") 9, .invalidCredentials)] := by
  have compared : annStores.history shortHashing
      ((fourAttempts ++ [attempt (text "A@b.cd") 5]) ++ [attempt (text "ann") 9]) =
        ((fourAttempts ++ [attempt (text "A@b.cd") 5]) ++ [attempt (text "ann") 9]).map
          (·, .invalidCredentials) := by
    decide +kernel
  rw [history_append, map_append] at compared
  obtain ⟨five, sixth⟩ := append_inj' compared rfl
  refine ⟨?_, sixth⟩
  exact fails_of_history five ⟨by decide +kernel, by decide +kernel⟩ (by decide +kernel) rfl
    (by decide +kernel) (by decide) (by decide +kernel)

end OnlineJudge.Accounts
