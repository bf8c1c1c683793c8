import OnlineJudge.Common.Utf8
import OnlineJudge.Delivery.Consumer
import OnlineJudge.Judger.Failures

/-!
# From the sandbox to the wire

`Judger::Run` copies bytes from the sandbox into `string` fields of the result, and the readers of
the serialized result refuse fields that are not UTF-8.
-/

namespace OnlineJudge.Judger

open EventLoop Sandbox Delivery Inbox

variable {σ : Type} {around : Surroundings σ} {pool : Option SandboxConfig}

/-! ## The strings of a result -/

def Job.readsText : Job → Bool
  | .readCompileError | .readOutput _ => true
  | _ => false

def ReadsText (records : List (JobRecord σ)) : Prop :=
  ∀ record ∈ records, record.job.readsText = true → validUtf8 record.result.stdoutStr = true

theorem readsText_cons {record : JobRecord σ} {records : List (JobRecord σ)} :
    ReadsText (record :: records) ↔
      (record.job.readsText = true → validUtf8 record.result.stdoutStr = true) ∧
        ReadsText records :=
  List.forall_mem_cons

/-- Every run of the coroutine returns a result, which is textual when the strings
collected before are (`given`) and everything that the run reads is. -/
def TextualIff (around : Surroundings σ) (pool : Option SandboxConfig) (given : Prop)
    (coroutine : Coroutine Job) : Prop :=
  ∀ bench, ∃ result, (conduct around pool coroutine bench).result = some result ∧
    (result.Textual ↔ given ∧ ReadsText (conduct around pool coroutine bench).records)

variable {given : Prop} {payload : Bytes} {result : JudgeResult} {job : Job} {timeoutMs : Int}
    {continuation : DockerTaskResult → Coroutine Job} {owner : String} {setting : Setting}

theorem textualIff_done (same : result.Textual ↔ given) :
    TextualIff around pool given (.done (some result)) := by
  refine fun bench => ⟨result, rfl, same.trans ?_⟩
  simp [conduct, ReadsText]

theorem textualIff_time {continuation : Int → Coroutine Job}
    (rest : ∀ now, TextualIff around pool given (continuation now)) :
    TextualIff around pool given (.time continuation) :=
  fun _ => rest _ _

theorem textualIff_await (silent : job.readsText = false)
    (rest : ∀ result, TextualIff around pool given (continuation result)) :
    TextualIff around pool given (.await timeoutMs (some job) continuation) := by
  intro bench
  obtain ⟨result, returned, textual⟩ := rest (attend around pool bench job).1.result
    (attend around pool bench job).2
  refine ⟨result, returned, textual.trans ?_⟩
  rw [conduct_await, readsText_cons, attend_job, silent]
  simp

theorem textualIff_read (reads : job.readsText = true)
    (rest : ∀ result, TextualIff around pool (given ∧ validUtf8 result.stdoutStr = true)
      (continuation result)) :
    TextualIff around pool given (.await timeoutMs (some job) continuation) := by
  intro bench
  obtain ⟨result, returned, textual⟩ := rest (attend around pool bench job).1.result
    (attend around pool bench job).2
  refine ⟨result, returned, textual.trans ?_⟩
  rw [conduct_await, readsText_cons, attend_job, reads]
  simp only [forall_const, and_assoc]

theorem textualIff_errorResult (status : SubmissionStatus) :
    TextualIff around pool True (errorResult status) :=
  textualIff_time fun _ => textualIff_done (by simp [JudgeResult.Textual, validUtf8, validUtf8From])

theorem textualIff_compileFailed : TextualIff around pool True compileFailed := by
  refine textualIff_read rfl fun readResult => textualIff_time fun now => ?_
  refine textualIff_await rfl fun _ => textualIff_done ?_
  simp [JudgeResult.Textual]

theorem textualIff_finishRun (resp : JudgeResult) :
    TextualIff around pool resp.Textual (finishRun resp) :=
  textualIff_await rfl fun _ => textualIff_time fun _ => textualIff_done Iff.rfl

theorem textual_recordTest {resp : JudgeResult} {testResult : TestCaseResult} :
    (recordTest resp testResult).Textual ↔ resp.Textual ∧ testResult.Textual := by
  simp only [JudgeResult.Textual, recordTest, List.forall_mem_append, List.forall_mem_singleton,
    and_assoc]

theorem TextualIff.congr {given' : Prop} {coroutine : Coroutine Job}
    (holds : TextualIff around pool given coroutine) (same : given ↔ given') :
    TextualIff around pool given' coroutine := by
  intro bench
  obtain ⟨result, returned, textual⟩ := holds bench
  exact ⟨result, returned, by rw [textual, same]⟩

section

variable (request : JudgeTaskMessage)

theorem textualIff_judgeTests (tests : List TestCase)
    (textual : ∀ test ∈ tests, validUtf8 test.input = true ∧ validUtf8 test.output = true)
    (position : Nat) (resp : JudgeResult) :
    TextualIff around pool resp.Textual (judgeTests request finishRun position tests resp) := by
  induction tests generalizing position resp with
  | nil => exact textualIff_finishRun resp
  | cons test tests ih =>
    obtain ⟨⟨input, output⟩, later⟩ := List.forall_mem_cons.mp textual
    have empty : validUtf8 [] = true := rfl
    refine textualIff_await rfl fun writeResult => ?_
    split
    · exact textualIff_finishRun _
    refine textualIff_await rfl fun runResult => ?_
    simp only
    split
    · refine (ih later _ _).congr ?_
      simp [textual_recordTest, TestCaseResult.Textual, newTestResult, input, output, empty]
    split
    · refine (ih later _ _).congr ?_
      simp [textual_recordTest, TestCaseResult.Textual, newTestResult, input, output, empty]
    · refine textualIff_read rfl fun readResult => (ih later _ _).congr ?_
      simp [textual_recordTest, TestCaseResult.Textual, newTestResult, input, output]

/-- **The strings of a result.**  A run on tests whose texts are UTF-8 returns a result,
and its strings are UTF-8 exactly when everything read for it is. -/
theorem judge_textual_iff {tests : List TestCase}
    (textual : ∀ test ∈ tests, validUtf8 test.input = true ∧ validUtf8 test.output = true)
    (world : σ) :
    ∃ result, (judge around pool request tests world).result = some result ∧
      (result.Textual ↔ ReadsText (judge around pool request tests world).records) := by
  have silent {job : Job} (prepares : job.Prepares request) : job.readsText = false := by
    cases job with
    | readCompileError | readOutput => cases prepares
    | _ => rfl
  have loop : TextualIff around pool True
      (judgeTests request finishRun 0 tests (initialResult tests)) := by
    refine (textualIff_judgeTests request tests textual 0 _).congr ?_
    simp [JudgeResult.Textual, initialResult, validUtf8, validUtf8From]
  have holds : TextualIff around pool True (judgerRun request tests) :=
    judgerRun_induct (textualIff_errorResult _) textualIff_compileFailed
      (fun prepares _ => textualIff_await (silent prepares))
      (runPhase_induct (textualIff_errorResult _)
        (fun prepares => textualIff_await (silent prepares)) loop)
  obtain ⟨result, returned, same⟩ := holds { world := world }
  exact ⟨result, returned, same.trans (by rw [true_and]; rfl)⟩

end

/-! ## Through the inbox -/

/-- What the generated code does with `string` fields: it serializes them as they are,
and parses a message back exactly when they are UTF-8. -/
structure Proto3Strings (codec : ResultCodec) : Prop where
  parse_textual : ∀ {result : JudgeResult} {payload : Bytes},
    codec.serialize result = some payload → result.Textual → codec.parse payload = some result
  parse_invalid : ∀ {result : JudgeResult} {payload : Bytes},
    codec.serialize result = some payload → ¬result.Textual → codec.parse payload = none

/-- After `Complete` has stored the result, a `Claim` of the same message that finds
the key reads an equal result. -/
def ReadBack (setting : Setting) (result : JudgeResult) : Prop :=
  ∀ (inbox after later : InboxState) (delivery again : TaskDelivery) (claimToken owner : String),
    callComplete setting inbox delivery claimToken result .answered = (after, .completed) →
    later.hash = after.hash → again.body = delivery.body → again.task = delivery.task →
    owner ≠ "" → (callClaim setting later again owner .answered).2 = .completed result

theorem payloadFingerprint_ne_empty (sha256 : Bytes → Digest) (payload : Bytes) :
    payloadFingerprint sha256 payload ≠ "" := by
  intro same
  have lengths := congrArg (·.toList.length) same
  simp [payloadFingerprint] at lengths

theorem leaseMs_ne_zero (delivery : TaskDelivery) : delivery.leaseMs ≠ 0 := by
  intro zero
  have value := congrArg UInt32.toNat zero
  unfold TaskDelivery.leaseMs at value
  split at value
  · exact absurd value (by decide)
  rw [UInt32.toNat_ofNat_of_lt' (by simp only [UInt32.size]; omega)] at value
  simp only [calculatedTimeout, UInt32.toNat_zero] at value
  omega

theorem completeScript_completed {hash : InboxHash} {now : Nat} {fingerprint : String} {ttl : Nat}
    (completed : (completeScript hash now fingerprint owner payload ttl).1 = .completed) :
    (completeScript hash now fingerprint owner payload ttl).2.state = some .completed ∧
      (completeScript hash now fingerprint owner payload ttl).2.fingerprint = some fingerprint ∧
      (completeScript hash now fingerprint owner payload ttl).2.result = some payload := by
  unfold completeScript at completed ⊢
  split at completed
  · cases completed
  case h_2 state holds =>
    split at completed
    · cases completed
    case isFalse known =>
      rw [ne_eq, not_not] at known
      simp only [known, ne_eq, not_true_eq_false, if_false]
      split at completed
      case isTrue isCompleted =>
        split at completed
        case isTrue same => simp [isCompleted, holds, same, known]
        case isFalse => cases completed
      case isFalse running =>
        split at completed
        · cases completed
        case isFalse mine => simp [running, mine]

theorem claim_of_completed {inbox : InboxState} {delivery : TaskDelivery}
    (present : delivery.task.messageId ≠ [])
    (token : owner ≠ "") (state : inbox.hash.state = some .completed)
    (known : inbox.hash.fingerprint = some (delivery.fingerprint setting))
    (stored : inbox.hash.result = some payload) :
    (callClaim setting inbox delivery owner .answered).2 =
      readClaimReply setting.codec.parse (some (.completed (some payload))) := by
  have fingerprint : delivery.fingerprint setting ≠ "" := payloadFingerprint_ne_empty _ _
  simp [callClaim, present, token, fingerprint, leaseMs_ne_zero, InboxState.claim, claimScript,
    state, known, stored]

theorem readBack_of_parse (serialized : setting.codec.serialize result = some payload)
    (parsed : setting.codec.parse payload = some result) : ReadBack setting result := by
  intro inbox after later delivery again claimToken owner completed kept body task token
  rw [callComplete, serialized] at completed
  simp only at completed
  split at completed
  · cases completed
  case isFalse valid =>
    obtain ⟨stored, answer⟩ := Prod.mk.inj completed
    have reply : (completeScript inbox.hash inbox.now (delivery.fingerprint setting) claimToken
        payload setting.completedTtlMs).1 = .completed := by
      change readCompleteReply (some (completeScript inbox.hash inbox.now
        (delivery.fingerprint setting) claimToken payload setting.completedTtlMs).1) =
          .completed at answer
      unfold readCompleteReply at answer
      split at answer <;> first | rfl | cases answer
      case h_2 same => exact Option.some.inj same
    obtain ⟨state, known, result⟩ := completeScript_completed reply
    have hash : later.hash = (completeScript inbox.hash inbox.now (delivery.fingerprint setting)
        claimToken payload setting.completedTtlMs).2 := by rw [kept, ← stored]; rfl
    have fingerprint : again.fingerprint setting = delivery.fingerprint setting := by
      rw [TaskDelivery.fingerprint, TaskDelivery.fingerprint, body]
    rw [claim_of_completed (by rw [task]; exact fun empty => valid (.inl empty)) token
      (by rw [hash]; exact state) (by rw [hash, fingerprint]; exact known)
      (by rw [hash]; exact result)]
    simp only [readClaimReply, parsed]

/-- **The round trip of a judged result.** It is read back exactly when the compiler's messages and
the outputs that the run has read are UTF-8. -/
theorem judged_result_round_trips_iff (setting : Setting) (proto3 : Proto3Strings setting.codec)
    (around : Surroundings σ)
    (pool : Option SandboxConfig) (request : JudgeTaskMessage) (tests : List TestCase)
    (textual : ∀ test ∈ tests, validUtf8 test.input = true ∧ validUtf8 test.output = true)
    (world : σ) (result : JudgeResult)
    (judged : (judge around pool request tests world).result = some result) (payload : Bytes)
    (serialized : setting.codec.serialize result = some payload) :
    (ReadBack setting result ∧ (setting.codec.parse payload).isSome = true) ↔
      ReadsText (judge around pool request tests world).records := by
  obtain ⟨result', returned, same⟩ := judge_textual_iff request textual world
  cases Option.some.inj (judged.symm.trans returned)
  rw [← same]
  constructor
  · rintro ⟨_, accepted⟩
    by_contra invalid
    rw [proto3.parse_invalid serialized invalid] at accepted
    cases accepted
  · intro valid
    have parsed := proto3.parse_textual serialized valid
    exact ⟨readBack_of_parse serialized parsed, by rw [parsed]; rfl⟩

/-! ## A program that writes one byte -/

def byteWorld (byte : UInt8) : Surroundings Unit :=
  sampleWorld fun _ request =>
    match request with
    | .startExec _ (.cat .output) => ({ pieces := [(MuxFrame.mk 1 [byte]).encode] }, ())
    | request => (sampleReply request, ())

/-- A run in which the output `a` is expected. -/
def byteRun (byte : UInt8) : Run Unit :=
  judge (byteWorld byte) (some {}) sampleRequest [{ output := [97] }] ()

def byteResult (byte : UInt8) : JudgeResult :=
  let status : SubmissionStatus := if byte = 97 then .accepted else .wrongAnswer
  { status := status
    memoryUsedBytes := 1
    testCaseResults :=
      [{ status := status, memoryUsedBytes := 1, expectedOutput := [97], actualOutput := [byte] }] }

def byteCodec : ResultCodec where
  serialize result :=
    match result.testCaseResults.map (·.actualOutput) with
    | [[byte]] => if result = byteResult byte then some [byte] else none
    | _ => none
  parse payload :=
    match payload with
    | [byte] => if byte ≤ 0x7F then some (byteResult byte) else none
    | _ => none
  serialize_parse := by
    intro result parsed payload _ parsing
    split at parsing <;> [skip; cases parsing]
    split at parsing <;> cases parsing
    simp [byteResult]

theorem validUtf8_singleton (byte : UInt8) : validUtf8 [byte] = true ↔ byte ≤ 0x7F := by
  by_cases small : byte ≤ 0x7F
  · simp [validUtf8, validUtf8From, utf8Follow, small]
  · simp only [validUtf8, validUtf8From, utf8Follow, small, if_false, iff_false]
    split_ifs <;> simp [validUtf8From]

theorem textual_byteResult (byte : UInt8) : (byteResult byte).Textual ↔ byte ≤ 0x7F := by
  have empty : validUtf8 [] = true := rfl
  have letter : (97 : UInt8) ≤ 0x7F := by decide
  simp only [JudgeResult.Textual, TestCaseResult.Textual, byteResult, List.forall_mem_singleton,
    validUtf8_singleton, empty, letter, true_and]

theorem byteCodec_strings : Proto3Strings byteCodec := by
  have shape : ∀ {result : JudgeResult} {payload : Bytes},
      byteCodec.serialize result = some payload →
        ∃ byte, result = byteResult byte ∧ payload = [byte] := by
    intro result payload serialized
    simp only [byteCodec] at serialized
    split at serialized
    case h_1 byte _ =>
      split at serialized
      case isTrue same => exact ⟨byte, same, (Option.some.inj serialized).symm⟩
      case isFalse => cases serialized
    case h_2 => cases serialized
  constructor
  · intro result payload serialized textual
    obtain ⟨byte, rfl, rfl⟩ := shape serialized
    exact if_pos ((textual_byteResult byte).mp textual)
  · intro result payload serialized invalid
    obtain ⟨byte, rfl, rfl⟩ := shape serialized
    exact if_neg fun small => invalid ((textual_byteResult byte).mpr small)

def byteSetting : Setting where
  parseTask _ := some sampleRequest
  codec := byteCodec
  sha256 _ _ := 0
  completedTtlMs := 1000
  messageId := [7]

theorem byteRun_result (byte : UInt8) (sample : byte = 97 ∨ byte = 255) :
    (byteRun byte).result = some (byteResult byte) := by
  rcases sample with rfl | rfl <;> decide +kernel

theorem judged_result_round_trips_letter :
    ReadBack byteSetting (byteResult 97) ∧ (byteSetting.codec.parse [97]).isSome = true := by
  have texts : ∀ test ∈ [({ output := [97] } : TestCase)],
      validUtf8 test.input = true ∧ validUtf8 test.output = true := by decide
  have reads : (byteRun 97).records.all (fun record =>
    !record.job.readsText || validUtf8 record.result.stdoutStr) = true := by decide +kernel
  refine (judged_result_round_trips_iff byteSetting byteCodec_strings (byteWorld 97) (some {})
    sampleRequest [{ output := [97] }] texts () (byteResult 97) (byteRun_result 97 (.inl rfl)) [97]
    (by decide +kernel)).mpr ?_
  intro record member isText
  have valid := List.all_eq_true.mp reads record member
  rw [isText] at valid
  exact valid

/-- A program that writes the byte 255. -/
theorem raw_output_is_lost :
    (byteRun 255).result = some (byteResult 255) ∧
      byteSetting.codec.serialize (byteResult 255) = some [255] ∧
      ¬ReadBack byteSetting (byteResult 255) ∧ byteSetting.codec.parse [255] = none := by
  refine ⟨byteRun_result 255 (.inr rfl), by decide, fun reads => ?_, rfl⟩
  let delivery : TaskDelivery := ⟨[1], 0, sampleRequest, none⟩
  let inbox : InboxState :=
    { hash := Phase.hash (.leased ⟨"token", delivery.fingerprint byteSetting, 10⟩ 20) }
  have completed : (callComplete byteSetting inbox delivery "token" (byteResult 255)
      .answered).2 = .completed := by decide +kernel
  have answer := reads inbox _ _ delivery delivery "token" "other"
    (Prod.ext rfl completed) rfl rfl rfl (by decide)
  revert answer
  decide +kernel

end OnlineJudge.Judger
