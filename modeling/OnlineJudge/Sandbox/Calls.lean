import OnlineJudge.Sandbox.Docker

/-!
# What the methods of a sandbox do with their calls

An `Exec` that reports an exit code has not met a failed call (`exec_spec`), and likewise for the
other methods.
-/

namespace OnlineJudge.Sandbox

open Program ApiCall

variable {σ : Type} {engine : Engine σ}

/-! ## Failed calls -/

def ApiCall.unparsable (json : JsonCpp) (call : ApiCall) : Bool :=
  match call.request with
  | .create _ | .createExec .. =>
    match parseDockerResponse json call.response.body "Id" with
    | .ok none => true
    | _ => false
  | .inspectExec .. =>
    match readInspect json call.response.body with
    | .ok .unparsable => true
    | _ => false
  | .inspect _ => (json.parse call.response.body).isNone
  | .start _ | .startExec .. | .kill _ | .remove _ => false

def ApiCall.failed (json : JsonCpp) (call : ApiCall) : Bool :=
  !call.response.ok || call.unparsable json

def Only (kind : ApiCall → Prop) (host after : Host σ) : Prop :=
  ∃ calls, after.calls = calls ++ host.calls ∧ ∀ call ∈ calls, kind call

section Only

variable {kind kind' : ApiCall → Prop} {host middle after : Host σ}

theorem Only.of_calls (same : after.calls = host.calls) : Only kind host after :=
  ⟨[], same, nofun⟩

theorem Only.trans (first : Only kind host middle) (second : Only kind middle after) :
    Only kind host after := by
  obtain ⟨calls, appended, fine⟩ := first
  obtain ⟨calls', appended', fine'⟩ := second
  refine ⟨calls' ++ calls, by rw [appended', appended, List.append_assoc], ?_⟩
  intro call member
  rcases List.mem_append.mp member with later | earlier
  · exact fine' call later
  · exact fine call earlier

variable {call : ApiCall}

theorem Only.cons (called : middle.calls = call :: host.calls) (fine : kind call)
    (rest : Only kind middle after) : Only kind host after := by
  refine Only.trans ⟨[call], called, ?_⟩ rest
  intro other member
  rw [List.mem_singleton.mp member]
  exact fine

theorem Only.imp (only : Only kind host after) (weaker : ∀ call, kind call → kind' call) :
    Only kind' host after := by
  obtain ⟨calls, appended, fine⟩ := only
  exact ⟨calls, appended, fun call member => weaker call (fine call member)⟩

theorem Only.of_mem (only : Only kind host after) (fresh : host.calls = [])
    (member : call ∈ after.calls) : kind call := by
  obtain ⟨calls, appended, fine⟩ := only
  rw [appended, fresh, List.append_nil] at member
  exact fine call member

end Only

def Clean (json : JsonCpp) : Host σ → Host σ → Prop := Only fun call => call.failed json = false

/-! ## One call -/

/-- `Exec` takes the body of the response to its start request for output. -/
def ApiResponse.streamed (response : ApiResponse) : Bool :=
  response.ok || response.timedOut || response.outputLimited

structure Answered (engine : Engine σ) (host : Host σ) (request : Request) (timeoutMs : Int)
    (outputLimit : Nat) (response : ApiResponse) (after : Host σ) : Prop where
  recorded : after.calls = ⟨request, response⟩ :: host.calls
  container : after.sandbox.containerId = host.sandbox.containerId
  performed : response.streamed = true →
    ∃ outcome, engine.respond host.world request (max 1 timeoutMs) =
      (.performed outcome, after.world) ∧ response = outcome.response outputLimit

variable {request : Request} {outputLimit : Nat} {timeoutMs : Int} {response : ApiResponse}
    {result : ExecResult}

theorem ensures_call {host : Host σ} {normal : ApiResponse → Host σ → Prop}
    {exceptional : Bytes → Host σ → Prop}
    (returns : ∀ response after,
      Answered engine host request timeoutMs outputLimit response after → normal response after)
    (throws : ∀ what after, exceptional what after) :
    Ensures (dockerApiCall engine request timeoutMs outputLimit) host normal exceptional := by
  unfold dockerApiCall
  refine ensures_get ?_
  split
  · exact ensures_set (ensures_throw (throws _ _))
  · refine ensures_set (ensures_pure ?_)
    exact returns _ _ ⟨rfl, rfl, nofun⟩
  case h_3 outcome world responded =>
    refine ensures_set (ensures_pure ?_)
    exact returns _ _ ⟨rfl, rfl, fun _ => ⟨outcome, responded, rfl⟩⟩

theorem fine_of_responseId {json : JsonCpp} {id : Bytes}
    (idOf : responseId json response = .ok (some id))
    (asks : (∃ config, request = .create config) ∨
      ∃ containerId command, request = .createExec containerId command) :
    (⟨request, response⟩ : ApiCall).failed json = false := by
  unfold responseId at idOf
  split at idOf
  case isFalse => cases idOf
  case isTrue ok =>
    rcases asks with ⟨config, rfl⟩ | ⟨containerId, command, rfl⟩ <;>
      simp [failed, unparsable, ok, idOf]

/-! ## Exec -/

/-- The requests that `Exec` makes after it has read the output. -/
def Request.waits : Request → Bool
  | .inspectExec .. | .kill _ => true
  | .create _ | .start _ | .createExec .. | .startExec .. | .inspect _ | .remove _ => false

/-- The call brought the output of an `exec`. -/
def ApiCall.streams (call : ApiCall) : Bool :=
  match call.request with
  | .startExec .. => call.response.streamed
  | _ => false

/-- Between the two hosts `Exec` only waited. -/
def Waits : Host σ → Host σ → Prop := Only fun call => call.request.waits = true

theorem kill_waits (host : Host σ) :
    Ensures (kill engine) host (fun _ after => Waits host after) (fun _ _ => True) := by
  unfold kill
  refine ensures_get ?_
  split
  · exact ensures_pure (.of_calls rfl)
  refine ensures_bind (ensures_call ?_ fun _ _ => trivial)
  intro response after answered
  exact ensures_pure (.cons answered.recorded rfl (.of_calls rfl))

/-- What the inspect loop does: an exit code other than `-1` comes from calls that
did not fail, and the output stays. -/
structure Awaited (json : JsonCpp) (host : Host σ) (result ended : ExecResult)
    (after : Host σ) : Prop where
  clean : ended.exitCode ≠ -1 → Clean json host after
  output : ended.stdoutStr = result.stdoutStr
  waits : Waits host after

theorem giveUp_spec (unknown : result.exitCode = -1) (host : Host σ) :
    Ensures (giveUp engine result) host (Awaited engine.json host result) (fun _ _ => True) := by
  refine ensures_bind ((kill_waits host).imp ?_ fun _ _ => id)
  intro _ after waits
  exact ensures_pure ⟨fun known => absurd unknown known, rfl, waits⟩

theorem awaitExit_spec (command : Command) (execId : Bytes) (deadline : Nat)
    (unknown : result.exitCode = -1) (fuel : Nat) (host : Host σ) :
    Ensures (awaitExit engine command execId deadline result fuel) host
      (Awaited engine.json host result) (fun _ _ => True) := by
  induction fuel generalizing host with
  | zero => exact giveUp_spec unknown host
  | succ fuel ih =>
    unfold awaitExit
    refine ensures_get ?_
    split
    · exact giveUp_spec unknown host
    refine ensures_bind (ensures_call ?_ fun _ _ => trivial)
    intro response after answered
    have waits : Waits host after := .cons answered.recorded rfl (.of_calls rfl)
    split
    case isTrue => exact ensures_pure ⟨fun known => absurd unknown known, rfl, waits⟩
    case isFalse ok =>
      have ok : response.ok = true := by simpa using ok
      refine ensures_bind (ensures_ofExcept ?_ fun _ _ => trivial)
      intro state read
      -- the call was fine unless its reply is unparsable
      have fine : state ≠ .unparsable →
          (⟨.inspectExec execId command, response⟩ : ApiCall).failed engine.json = false := by
        intro parsable
        cases state with
        | unparsable => exact absurd rfl parsable
        | running | exited => simp [failed, unparsable, ok, read]
      cases state with
      | unparsable => exact ensures_pure ⟨fun known => absurd unknown known, rfl, waits⟩
      | exited =>
        refine ensures_pure ⟨fun _ => ?_, rfl, waits⟩
        exact .cons answered.recorded (fine (by simp)) (.of_calls rfl)
      | running =>
        refine ensures_modify ((ih _).imp ?_ fun _ _ => id)
        intro ended final awaited
        refine ⟨fun known => ?_, awaited.output, waits.trans awaited.waits⟩
        exact .cons answered.recorded (fine (by simp)) (awaited.clean known)

theorem dockerApiCall_clock {host after : Host σ}
    (ran : (dockerApiCall engine request timeoutMs outputLimit).runFrom host =
      (.ok response, after)) : host.clock ≤ after.clock := by
  have later : Ensures (dockerApiCall engine request timeoutMs outputLimit) host
      (fun _ after => host.clock ≤ after.clock) (fun _ _ => True) := by
    unfold dockerApiCall
    refine ensures_get ?_
    split
    · exact ensures_set (ensures_throw trivial)
    · exact ensures_set (ensures_pure (Nat.le_refl _))
    · exact ensures_set (ensures_pure (Nat.le_add_right _ _))
  exact later.of_ok ran

theorem awaitExit_fuel (command : Command) (execId : Bytes) (deadline : Nat) (result : ExecResult)
    (fuel fuel' : Nat) (host : Host σ)
    (enough : deadline - host.clock ≤ fuel) (enough' : deadline - host.clock ≤ fuel') :
    (awaitExit engine command execId deadline result fuel).runFrom host =
      (awaitExit engine command execId deadline result fuel').runFrom host := by
  have passed : ∀ fuel (host : Host σ), host.clock ≥ deadline →
      (awaitExit engine command execId deadline result fuel).runFrom host =
        (giveUp engine result).runFrom host := by
    intro fuel host late
    cases fuel with
    | zero => rfl
    | succ => simp only [awaitExit, runFrom_bind, runFrom_get, if_pos late]
  induction fuel generalizing fuel' host with
  | zero => rw [passed 0 host (by omega), passed fuel' host (by omega)]
  | succ fuel ih =>
    by_cases late : host.clock ≥ deadline
    · rw [passed _ host late, passed _ host late]
    obtain ⟨fuel', rfl⟩ : ∃ n, fuel' = n + 1 := ⟨fuel' - 1, by omega⟩
    simp only [awaitExit, runFrom_bind, runFrom_get, if_neg late]
    split
    case h_2 => rfl
    case h_1 response after ran =>
      have clock := dockerApiCall_clock ran
      split
      · rfl
      simp only [runFrom_bind, runFrom_ofExcept]
      split
      case h_2 => rfl
      case h_1 state after' read =>
        obtain ⟨-, rfl⟩ := Prod.mk.inj read
        cases state with
        | unparsable | exited => rfl
        | running =>
          -- the loop has slept, so the deadline is nearer
          simp only [sleepTick, runFrom_bind, runFrom_modify]
          exact ih _ _ (by simp only; omega) (by simp only; omega)

/-- The `exec` was started, and the output is what the response holds. -/
def StreamedBy (engine : Engine σ) (command : Command) (timeoutMs : Int) (execId : Bytes)
    (host : Host σ) (ended : ExecResult) (after : Host σ) : Prop :=
  ∃ response started,
    Answered engine host (.startExec execId command) (max 1 timeoutMs)
      host.sandbox.config.outputLimitBytes response started ∧
    response.streamed = true ∧ ended.stdoutStr = stdoutOf (parseMuxStream response.body) ∧
    Waits started after

def Unstreamed (host : Host σ) (ended : ExecResult) (after : Host σ) : Prop :=
  ended.stdoutStr = [] ∧ Only (fun call => call.streams = false) host after

/-- What `Exec` does once the `exec` has been created. -/
structure Started (engine : Engine σ) (command : Command) (timeoutMs : Int) (execId : Bytes)
    (host : Host σ) (ended : ExecResult) (after : Host σ) : Prop where
  clean : ended.exitCode ≠ -1 → Clean engine.json host after
  output : StreamedBy engine command timeoutMs execId host ended after ∨ Unstreamed host ended after

theorem execCreated_spec (command : Command) (timeoutMs : Int) (startedAt : Nat) (execId : Bytes)
    (host : Host σ) :
    Ensures (execCreated engine command timeoutMs startedAt execId) host
      (Started engine command timeoutMs execId host) (fun _ _ => True) := by
  unfold execCreated
  refine ensures_get (ensures_bind (ensures_call ?_ fun _ _ => trivial))
  intro response started answered
  split
  case isTrue cut =>
    -- killed: the exit code stays unknown, the output that has arrived is kept
    have streamed : response.streamed = true := by
      rcases Bool.or_eq_true .. ▸ cut with timedOut | limited
      · simp [ApiResponse.streamed, timedOut]
      · simp [ApiResponse.streamed, limited]
    refine ensures_bind ((kill_waits started).imp ?_ fun _ _ => id)
    intro _ after waits
    refine ⟨fun known => absurd rfl known, .inl ?_⟩
    exact ⟨response, started, answered, streamed, rfl, waits⟩
  case isFalse uncut =>
  split
  case isTrue notOk =>
    refine ensures_pure ⟨fun known => absurd rfl known, .inr ⟨rfl, ?_⟩⟩
    refine .cons answered.recorded ?_ (.of_calls rfl)
    have uncut : response.timedOut = false ∧ response.outputLimited = false := by simpa using uncut
    have notOk : response.ok = false := by simpa using notOk
    simp [streams, ApiResponse.streamed, uncut, notOk]
  case isFalse ok =>
    have ok : response.ok = true := by simpa using ok
    refine ensures_get (ensures_bind ((awaitExit_spec command execId _ rfl _ started).imp ?_
      fun _ _ => id))
    intro ended after awaited
    refine ⟨fun known => ?_, .inl ?_⟩
    · refine .cons answered.recorded ?_ (awaited.clean known)
      simp [failed, unparsable, ok]
    · refine ⟨response, started, answered, ?_, awaited.output, awaited.waits⟩
      simp [ApiResponse.streamed, ok]

/-- What `Exec` does: **an exit code other than `-1` means that no call failed**, and
there is output only if the `exec` was created and started. -/
structure Executed (engine : Engine σ) (command : Command) (timeoutMs : Int) (host : Host σ)
    (ended : ExecResult) (after : Host σ) : Prop where
  clean : ended.exitCode ≠ -1 → Clean engine.json host after
  output :
    (∃ response created execId,
      Answered engine host (.createExec host.sandbox.containerId command) callTimeoutMs
        callOutputLimit response created ∧
      responseId engine.json response = .ok (some execId) ∧
      StreamedBy engine command timeoutMs execId created ended after) ∨
    Unstreamed host ended after

theorem exec_spec (command : Command) (timeoutMs : Int) (host : Host σ) :
    Ensures (exec engine command timeoutMs) host (Executed engine command timeoutMs host)
      (fun _ _ => True) := by
  unfold exec
  refine ensures_get ?_
  split
  · exact ensures_pure ⟨fun known => absurd rfl known, .inr ⟨rfl, .of_calls rfl⟩⟩
  refine ensures_bind (ensures_call ?_ fun _ _ => trivial)
  intro response created answered
  refine ensures_bind (ensures_ofExcept ?_ fun _ _ => trivial)
  intro id idOf
  cases id with
  | none =>
    refine ensures_pure ⟨fun known => absurd rfl known, .inr ⟨rfl, ?_⟩⟩
    exact .cons answered.recorded rfl (.of_calls rfl)
  | some execId =>
    refine (execCreated_spec command timeoutMs host.clock execId created).imp ?_ fun _ _ => id
    intro ended after started
    refine ⟨fun known => ?_, ?_⟩
    · have fine := fine_of_responseId idOf (.inr ⟨host.sandbox.containerId, command, rfl⟩)
      exact .cons answered.recorded fine (started.clean known)
    · rcases started.output with streamed | ⟨empty, unstreamed⟩
      · exact .inl ⟨response, created, execId, answered, idOf, streamed⟩
      · exact .inr ⟨empty, .cons answered.recorded rfl unstreamed⟩

/-! ## The other methods -/

theorem writeFile_spec (path : SandboxPath) (content : Bytes) (host : Host σ) :
    Ensures (writeFile engine path content) host
      (fun rc after => rc = 0 → Clean engine.json host after) (fun _ _ => True) := by
  unfold writeFile
  refine ensures_get ?_
  split
  · exact ensures_pure fun known => absurd known (by decide)
  refine ensures_bind ((exec_spec (.writeFile path content) 5000 host).imp ?_ fun _ _ => id)
  intro result after executed
  split
  case isTrue written =>
    refine ensures_pure fun _ => executed.clean ?_
    rw [written]
    decide
  case isFalse => exact ensures_modify (ensures_pure fun known => absurd known (by decide))

theorem readFile_spec (path : SandboxPath) (host : Host σ) :
    Ensures (readFile engine path) host
      (fun bytes after =>
        ∃ ended, Executed engine (.cat path) 5000 host ended after ∧ bytes = ended.stdoutStr)
      (fun _ _ => True) := by
  unfold readFile
  refine ensures_get ?_
  split
  · exact ensures_pure ⟨{}, ⟨fun known => absurd rfl known, .inr ⟨rfl, .of_calls rfl⟩⟩, rfl⟩
  refine ensures_bind ((exec_spec (.cat path) 5000 host).imp ?_ fun _ _ => id)
  intro ended after executed
  exact ensures_pure ⟨ended, executed, rfl⟩

theorem create_spec (config : SandboxConfig) {host : Host σ}
    (fresh : host.sandbox.containerId = []) :
    Ensures (create engine config) host
      (fun id after =>
        id = after.sandbox.containerId ∧ (id ≠ [] → Clean engine.json host after))
      (fun _ _ => True) := by
  unfold create
  refine ensures_modify (ensures_bind (ensures_call ?_ fun _ _ => trivial))
  rintro response after ⟨called, same, -⟩
  have fresh : after.sandbox.containerId = [] := same.trans fresh
  refine ensures_bind (ensures_ofExcept ?_ fun _ _ => trivial)
  intro id idOf
  cases id with
  | none => exact ensures_get (ensures_pure ⟨rfl, fun known => absurd fresh known⟩)
  | some =>
    refine ensures_modify (ensures_get (ensures_pure ⟨rfl, fun _ => ?_⟩))
    have fine := fine_of_responseId idOf (.inl ⟨config, rfl⟩)
    exact .cons called fine (.of_calls rfl)

def StartedBy (engine : Engine σ) (host after : Host σ) : Prop :=
  after.sandbox.containerId = host.sandbox.containerId ∧
    ∃ response, Answered engine host (.start host.sandbox.containerId) callTimeoutMs
      callOutputLimit response after ∧ response.ok = true

theorem StartedBy.clean {host after : Host σ} (started : StartedBy engine host after) :
    Clean engine.json host after := by
  obtain ⟨-, response, answered, ok⟩ := started
  refine .cons answered.recorded ?_ (.of_calls rfl)
  simp [failed, unparsable, ok]

theorem start_spec (host : Host σ) :
    Ensures (start engine) host (fun rc after => rc = 0 → StartedBy engine host after)
      (fun _ _ => True) := by
  unfold start
  refine ensures_get ?_
  split
  · exact ensures_pure fun known => absurd known (by decide)
  refine ensures_bind (ensures_call ?_ fun _ _ => trivial)
  intro response after answered
  refine ensures_pure fun returned => ⟨answered.container, response, answered, ?_⟩
  by_contra notOk
  rw [if_neg notOk] at returned
  exact absurd returned (by decide)

theorem destroy_spec (host : Host σ) :
    Ensures (destroy engine) host (fun _ after => after.sandbox.containerId = [])
      (fun _ _ => True) := by
  unfold destroy
  refine ensures_get ?_
  split
  case isTrue none => exact ensures_pure none
  case isFalse =>
    refine ensures_bind (ensures_call ?_ fun _ _ => trivial)
    intro response after _
    exact (rfl : ([] : Bytes) = [])

theorem acquire_spec (config : SandboxConfig) {host : Host σ}
    (fresh : host.sandbox.containerId = []) :
    Ensures (acquire engine config) host
      (fun _ after => after.sandbox.containerId ≠ [] →
        Clean engine.json host after ∧ ∃ created, StartedBy engine created after)
      (fun _ _ => True) := by
  unfold acquire
  refine ensures_bind ((create_spec config fresh).imp ?_ fun _ _ => id)
  rintro id created ⟨rfl, clean⟩
  split
  case isFalse none => exact ensures_pure fun known => absurd known (by simpa using none)
  case isTrue =>
    refine ensures_bind ((start_spec created).imp ?_ fun _ _ => id)
    intro rc after started
    split
    · refine (destroy_spec after).imp ?_ fun _ _ => id
      intro _ destroyed gone known
      exact absurd gone known
    case isFalse returned =>
      have started := started (by simpa using returned)
      refine ensures_pure fun known => ⟨(clean ?_).trans started.clean, created, started⟩
      rw [← started.1]
      exact known

end OnlineJudge.Sandbox
