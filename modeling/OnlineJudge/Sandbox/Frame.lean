import OnlineJudge.Sandbox.Docker

/-!
# What the methods leave alone

All methods of a sandbox but `Create`, `Start` and `Destroy` change the world only by requests that
concern their own container.  A relation that these steps respect is a `Frame`.
-/

namespace OnlineJudge.Sandbox

open Program

variable {σ α β : Type} {engine : Engine σ} {relation : Host σ → Host σ → Prop}

def Request.within (containerId : Bytes) : Request → Bool
  | .createExec other _ | .kill other | .inspect other => other = containerId
  | .startExec .. | .inspectExec .. => true
  | .create _ | .start _ | .remove _ => false

def Request.kills : Request → Bool
  | .kill _ => true
  | .create _ | .start _ | .createExec .. | .startExec .. | .inspectExec .. | .inspect _
  | .remove _ => false

theorem Request.exists_of_kills {request : Request} (kills : request.kills = true) :
    ∃ containerId, request = .kill containerId := by
  cases request with
  | kill containerId => exact ⟨containerId, rfl⟩
  | _ => cases kills

structure Frame (engine : Engine σ) (relation : Host σ → Host σ → Prop) : Prop where
  refl : ∀ host, relation host host
  trans : ∀ first second third, relation first second → relation second third → relation first third
  call : ∀ host request timeoutMs outputLimit,
    request.within host.sandbox.containerId = true →
      Keeps relation (dockerApiCall engine request timeoutMs outputLimit) host
  clock : ∀ host clock, relation host { host with clock := clock }
  lastError : ∀ host lastError,
    relation host { host with sandbox := { host.sandbox with lastError := lastError } }

namespace Frame

section

variable (frame : Frame engine relation)
include frame

theorem ret {host : Host σ} {value : α} :
    Keeps relation (pure value : Program Bytes (Host σ) α) host := keeps_pure frame.refl value

theorem seq {host : Host σ} {program : Program Bytes (Host σ) α}
    {next : α → Program Bytes (Host σ) β} (first : Keeps relation program host)
    (rest : ∀ value after, Keeps relation (next value) after) :
    Keeps relation (program >>= next) host := keeps_bind frame.trans first rest

theorem kill (host : Host σ) : Keeps relation (kill engine) host := by
  refine keeps_get ?_
  split
  · exact frame.ret
  refine frame.seq (frame.call host _ _ _ ?_) fun response after => ?_
  · simp [Request.within]
  · exact frame.ret

theorem giveUp (result : ExecResult) (host : Host σ) : Keeps relation (giveUp engine result) host :=
  frame.seq (frame.kill host) fun _ _ => frame.ret

theorem awaitExit (command : Command) (execId : Bytes) (deadline : Nat) (result : ExecResult)
    (fuel : Nat) (host : Host σ) :
    Keeps relation (awaitExit engine command execId deadline result fuel) host := by
  induction fuel generalizing host with
  | zero => exact frame.giveUp result host
  | succ fuel ih =>
    refine keeps_get ?_
    split
    · exact frame.giveUp result host
    refine frame.seq (frame.call host _ _ _ rfl) fun response after => ?_
    split
    · exact frame.ret
    refine frame.seq (keeps_ofExcept frame.refl _) fun state after => ?_
    cases state with
    | unparsable | exited => exact frame.ret
    | running =>
      refine frame.seq (keeps_modify (frame.clock _ _)) fun _ after => ?_
      exact ih after

theorem stampTime (startedAt : Nat) (result : ExecResult) (host : Host σ) :
    Keeps relation (stampTime startedAt result) host :=
  keeps_get (frame.ret)

theorem execCreated (command : Command) (timeoutMs : Int) (startedAt : Nat) (execId : Bytes)
    (host : Host σ) :
    Keeps relation (execCreated engine command timeoutMs startedAt execId) host := by
  refine keeps_get ?_
  refine frame.seq (frame.call host _ _ _ rfl) fun response after => ?_
  simp only
  split
  · exact frame.seq (frame.kill after) fun _ after =>
    frame.stampTime startedAt _ after
  split
  · exact frame.ret
  refine keeps_get ?_
  exact frame.seq (frame.awaitExit command execId _ _ _ after) fun result after =>
    frame.stampTime startedAt result after

theorem exec (command : Command) (timeoutMs : Int) (host : Host σ) :
    Keeps relation (exec engine command timeoutMs) host := by
  refine keeps_get ?_
  split
  · exact frame.ret
  refine frame.seq (frame.call host _ _ _ ?_) fun response after => ?_
  · simp [Request.within]
  refine frame.seq (keeps_ofExcept frame.refl _) fun id after => ?_
  cases id with
  | none => exact frame.ret
  | some execId => exact frame.execCreated command timeoutMs host.clock execId after

theorem writeFile (path : SandboxPath) (content : Bytes) (host : Host σ) :
    Keeps relation (writeFile engine path content) host := by
  refine keeps_get ?_
  split
  · exact frame.ret
  refine frame.seq (frame.exec _ _ host) fun result after => ?_
  split
  · exact frame.ret
  refine frame.seq (keeps_modify ?_) fun _ after => frame.ret
  split
  · exact frame.lastError after _
  · exact frame.refl after

theorem readFile (path : SandboxPath) (host : Host σ) :
    Keeps relation (readFile engine path) host := by
  refine keeps_get ?_
  split
  · exact frame.ret
  · exact frame.seq (frame.exec _ _ host) fun _ _ => frame.ret

theorem wasOomKilled (host : Host σ) : Keeps relation (wasOomKilled engine) host := by
  refine keeps_get ?_
  split
  · exact frame.ret
  refine frame.seq (frame.call host _ _ _ ?_) fun response after => ?_
  · simp [Request.within]
  split
  · exact frame.ret
  split
  · exact frame.ret
  refine frame.seq (keeps_ofExcept frame.refl _) fun state after => ?_
  cases state with
  | none => exact frame.ret
  | some => exact keeps_ofExcept frame.refl _

theorem memoryPeakBytes (host : Host σ) : Keeps relation (memoryPeakBytes engine) host := by
  refine frame.seq (frame.exec _ _ host) fun result after => ?_
  split
  · exact frame.ret
  · exact frame.ret

end

end Frame

end OnlineJudge.Sandbox
