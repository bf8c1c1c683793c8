import OnlineJudge.Delivery.Consumer

/-!
# The signature of a callback

A judge signs a text that joins the fields of its report by newlines
(`comm/judge_callback_auth.hpp`).  A newline in the payload can be read as the end of the nonce.
-/

namespace OnlineJudge.Callback

open Delivery List

structure ServiceAuthentication where
  keyId : Bytes := []
  timestamp : Int64 := 0
  nonce : Bytes := []
  hmacSha256 : Bytes := []
  deriving DecidableEq

/-- `message UpdateJudgeResultRequest` with its authentication. -/
structure SignedRequest extends UpdateJudgeResultRequest where
  serviceAuth : ServiceAuthentication
  deriving DecidableEq

def newline : UInt8 := 10

def signedDecimal (n : Int) : Bytes :=
  if n < 0 then 45 :: decimal n.natAbs else decimal n.natAbs

def judgeCallbackTarget : Option Target → Bytes
  | some (.submission id) => text "submission:" ++ decimal id.toNat
  | some (.custom id) => text "custom:" ++ id
  | none => []

def judgeCallbackSigningInput (request : SignedRequest) : Bytes :=
  text "oj-judge-result-v1\n" ++ request.messageId ++ newline ::
    (judgeCallbackTarget request.target ++ newline ::
      (signedDecimal request.serviceAuth.timestamp.toInt ++ newline ::
        (request.serviceAuth.nonce ++ newline :: request.resultPayload)))

/-- The checks of fields with which `UpdateJudgeResult` starts. -/
def fieldsPresent (request : SignedRequest) : Bool :=
  !(request.messageId = [] ∨ judgeCallbackTarget request.target = [] ∨
    request.resultPayload = [] ∨ request.serviceAuth.nonce.length < 16)

/-- `VerifyJudgeCallbackHmac`; `hmac` is HMAC-SHA256 of OpenSSL, of a secret and a
text. -/
def verifyJudgeCallbackHmac (hmac : Bytes → Bytes → Bytes) (secret : Bytes)
    (request : SignedRequest) : Bool :=
  let expected := hmac secret (judgeCallbackSigningInput request)
  expected.length = request.serviceAuth.hmacSha256.length ∧ expected ≠ [] ∧
    expected = request.serviceAuth.hmacSha256

def Agree (first second : SignedRequest) : Prop :=
  first.messageId = second.messageId ∧ first.target = second.target ∧
    first.serviceAuth.timestamp = second.serviceAuth.timestamp ∧
    first.serviceAuth.nonce = second.serviceAuth.nonce ∧
    first.resultPayload = second.resultPayload

/-- The fields that stand before the payload hold no newline, as those of a judge do. -/
def NewlineFree (request : SignedRequest) : Prop :=
  newline ∉ request.messageId ∧ newline ∉ judgeCallbackTarget request.target ∧
    newline ∉ request.serviceAuth.nonce

/-- The two requests hold as many newlines as each other in the message id, in the target and in
the nonce. -/
def SameNewlines (first second : SignedRequest) : Prop :=
  first.messageId.count newline = second.messageId.count newline ∧
    (judgeCallbackTarget first.target).count newline =
      (judgeCallbackTarget second.target).count newline ∧
    first.serviceAuth.nonce.count newline = second.serviceAuth.nonce.count newline

instance (request : SignedRequest) : Decidable (NewlineFree request) :=
  inferInstanceAs (Decidable (_ ∧ _ ∧ _))

theorem newline_notMem_decimal (n : Nat) : newline ∉ decimal n := by
  intro mem
  have bounds := bounds_of_mem_decimal mem
  revert bounds
  decide

theorem newline_notMem_signedDecimal (n : Int) : newline ∉ signedDecimal n := by
  unfold signedDecimal
  split
  · exact not_mem_cons_of_ne_of_not_mem (by decide) (newline_notMem_decimal _)
  · exact newline_notMem_decimal _

theorem signedDecimal_injective : Function.Injective signedDecimal := by
  have notMinus : ∀ {m n : Nat}, 45 :: decimal m ≠ decimal n := by
    intro m n same
    have mem : (45 : UInt8) ∈ decimal n := same ▸ mem_cons_self
    have bounds := bounds_of_mem_decimal mem
    revert bounds
    decide
  intro m n same
  unfold signedDecimal at same
  split at same <;> split at same
  · have value := decimal_injective (List.cons.inj same).2
    omega
  · exact absurd same notMinus
  · exact absurd same.symm notMinus
  · have value := decimal_injective same
    omega

theorem target_eq_of_text_eq {first second : Option Target}
    (present : judgeCallbackTarget first ≠ [])
    (same : judgeCallbackTarget first = judgeCallbackTarget second) : first = second := by
  have words : text "submission:" = 115 :: text "ubmission:" ∧
      text "custom:" = 99 :: text "ustom:" := by decide +kernel
  rcases first with _ | ⟨id⟩ | ⟨id⟩
  · exact absurd rfl present
  · rcases second with _ | ⟨id'⟩ | ⟨id'⟩
    · exact absurd same present
    · have value := decimal_injective (append_cancel_left same)
      rw [UInt64.toNat_inj.mp value]
    · simp [judgeCallbackTarget, words.1, words.2] at same
  · rcases second with _ | ⟨id'⟩ | ⟨id'⟩
    · exact absurd same present
    · simp [judgeCallbackTarget, words.1, words.2] at same
    · rw [append_cancel_left same]

theorem NewlineFree.sameNewlines {first second : SignedRequest} (plain : NewlineFree first)
    (plain' : NewlineFree second) : SameNewlines first second := by
  obtain ⟨id, target, nonce⟩ := plain
  obtain ⟨id', target', nonce'⟩ := plain'
  refine ⟨?_, ?_, ?_⟩
  · rw [List.count_eq_zero.mpr id, List.count_eq_zero.mpr id']
  · rw [List.count_eq_zero.mpr target, List.count_eq_zero.mpr target']
  · rw [List.count_eq_zero.mpr nonce, List.count_eq_zero.mpr nonce']

theorem agree_iff_sameNewlines {first second : SignedRequest}
    (present : judgeCallbackTarget first.target ≠ [])
    (same : judgeCallbackSigningInput first = judgeCallbackSigningInput second) :
    Agree first second ↔ SameNewlines first second := by
  constructor
  · rintro ⟨id, target, -, nonce, -⟩
    exact ⟨by rw [id], by rw [target], by rw [nonce]⟩
  rintro ⟨id, target, nonce⟩
  unfold judgeCallbackSigningInput at same
  rw [append_assoc, append_assoc] at same
  -- the fields are peeled off one by one, from the left
  obtain ⟨sameId, same⟩ := eq_of_count_separator_eq id (append_cancel_left same)
  obtain ⟨sameTarget, same⟩ := eq_of_count_separator_eq target same
  obtain ⟨sameTime, same⟩ := eq_of_append_separator_eq (newline_notMem_signedDecimal _)
    (newline_notMem_signedDecimal _) same
  obtain ⟨sameNonce, samePayload⟩ := eq_of_count_separator_eq nonce same
  refine ⟨sameId, target_eq_of_text_eq present sameTarget, ?_, sameNonce, samePayload⟩
  exact Int64.toInt_inj.mp (signedDecimal_injective sameTime)

theorem count_signingInput (request : SignedRequest) :
    (judgeCallbackSigningInput request).count newline =
      5 + request.messageId.count newline +
        (judgeCallbackTarget request.target).count newline +
        request.serviceAuth.nonce.count newline + request.resultPayload.count newline := by
  have header : (text "oj-judge-result-v1\n").count newline = 1 := by decide +kernel
  have time := List.count_eq_zero.mpr
    (newline_notMem_signedDecimal request.serviceAuth.timestamp.toInt)
  simp only [judgeCallbackSigningInput, count_append, count_cons_self, header, time]
  omega

variable {request : SignedRequest}

theorem getLast_signingInput (present : request.resultPayload ≠ []) :
    (judgeCallbackSigningInput request).getLast? = request.resultPayload.getLast? := by
  unfold judgeCallbackSigningInput
  simp [List.getLast?_append, List.getLast?_cons, List.getLast?_eq_some_getLast present]

theorem count_le_of_getLast_eq {payload other : Bytes} (inner : newline ∉ payload.dropLast)
    (alike : payload.getLast? = other.getLast?) : payload.count newline ≤ other.count newline := by
  rcases eq_nil_or_concat payload with rfl | ⟨front, last, rfl⟩
  · exact Nat.zero_le _
  rw [concat_eq_append] at inner alike ⊢
  rw [dropLast_concat] at inner
  rw [List.getLast?_concat] at alike
  obtain ⟨front', rfl⟩ := List.getLast?_eq_some_iff.mp alike.symm
  rw [count_append, count_append, List.count_eq_zero.mpr inner]
  omega

theorem newlineFree_of_same {first second : SignedRequest} (plain : NewlineFree first)
    (inner : newline ∉ first.resultPayload.dropLast) (present : first.resultPayload ≠ [])
    (present' : second.resultPayload ≠ [])
    (same : judgeCallbackSigningInput first = judgeCallbackSigningInput second) :
    NewlineFree second := by
  obtain ⟨id, target, nonce⟩ := plain
  have alike : first.resultPayload.getLast? = second.resultPayload.getLast? := by
    rw [← getLast_signingInput present, ← getLast_signingInput present', same]
  have fewer := count_le_of_getLast_eq inner alike
  have total := congrArg (List.count newline) same
  rw [count_signingInput, count_signingInput, List.count_eq_zero.mpr id,
    List.count_eq_zero.mpr target, List.count_eq_zero.mpr nonce] at total
  refine ⟨List.count_eq_zero.mp ?_, List.count_eq_zero.mp ?_, List.count_eq_zero.mp ?_⟩ <;> omega

def shiftNonce (request : SignedRequest) (front back : Bytes) : SignedRequest :=
  { request with
    serviceAuth := { request.serviceAuth with
      nonce := request.serviceAuth.nonce ++ newline :: front }
    resultPayload := back }

theorem signingInput_shiftNonce {front back : Bytes}
    (cut : request.resultPayload = front ++ newline :: back) :
    judgeCallbackSigningInput (shiftNonce request front back) =
      judgeCallbackSigningInput request := by
  simp only [judgeCallbackSigningInput, shiftNonce, cut, append_assoc, cons_append]

theorem fieldsPresent_iff : fieldsPresent request = true ↔
    request.messageId ≠ [] ∧ judgeCallbackTarget request.target ≠ [] ∧
      request.resultPayload ≠ [] ∧ 16 ≤ request.serviceAuth.nonce.length := by
  simp [fieldsPresent]

theorem exists_other_of_newline_mem (present : fieldsPresent request = true)
    (mem : newline ∈ request.resultPayload.dropLast) :
    ∃ other, fieldsPresent other = true ∧
      judgeCallbackSigningInput request = judgeCallbackSigningInput other ∧
      ¬Agree request other := by
  obtain ⟨id, target, payload, nonce⟩ := fieldsPresent_iff.mp present
  obtain ⟨front, middle, split⟩ := append_of_mem mem
  have cut : request.resultPayload =
      front ++ newline :: (middle ++ [request.resultPayload.getLast payload]) := by
    conv_lhs => rw [← dropLast_append_getLast payload, split]
    simp
  refine ⟨shiftNonce request front (middle ++ [request.resultPayload.getLast payload]), ?_,
    (signingInput_shiftNonce cut).symm, ?_⟩
  · refine fieldsPresent_iff.mpr ⟨id, target, by simp [shiftNonce], ?_⟩
    simp only [shiftNonce, length_append]
    omega
  · rintro ⟨_, _, _, sameNonce, _⟩
    have lengths := congrArg List.length sameNonce
    simp [shiftNonce] at lengths

/-- **What the signature binds.** Two requests with the same text agree exactly when their message
ids, targets and nonces hold as many newlines; and a request without any there shares its text with
no request that differs from it exactly when its payload holds none before its last byte. -/
theorem signingInput_determines_iff (request : SignedRequest)
    (present : fieldsPresent request = true) :
    (∀ other, fieldsPresent other = true →
      judgeCallbackSigningInput request = judgeCallbackSigningInput other →
      (Agree request other ↔ SameNewlines request other)) ∧
    (NewlineFree request →
      ((∀ other, fieldsPresent other = true →
          judgeCallbackSigningInput request = judgeCallbackSigningInput other →
          Agree request other) ↔
        newline ∉ request.resultPayload.dropLast)) := by
  obtain ⟨_, target, payload, _⟩ := fieldsPresent_iff.mp present
  refine ⟨fun other _ same => agree_iff_sameNewlines target same,
    fun plain => ⟨fun binds mem => ?_, fun inner other present' same => ?_⟩⟩
  · obtain ⟨other, present', same, differ⟩ := exists_other_of_newline_mem present mem
    exact differ (binds other present' same)
  · obtain ⟨_, _, payload', _⟩ := fieldsPresent_iff.mp present'
    have plain' := newlineFree_of_same plain inner payload payload' same
    exact (agree_iff_sameNewlines target same).mpr (plain.sameNewlines plain')

/-- A report as a judge sends it; its payload is three bytes with a newline among
them, or two without. -/
def sampleReport (newlineInside : Bool) : SignedRequest where
  messageId := text "3f2a"
  target := some (.submission 7)
  resultPayload := if newlineInside then [8, newline, 4] else [8, 4]
  serviceAuth := { timestamp := 1767225600, nonce := text "0123456789abcdef" }

theorem signingInput_determines_sampleReport :
    fieldsPresent (sampleReport false) = true ∧ NewlineFree (sampleReport false) ∧
    ∀ other, fieldsPresent other = true →
      judgeCallbackSigningInput (sampleReport false) = judgeCallbackSigningInput other →
      Agree (sampleReport false) other := by
  have present : fieldsPresent (sampleReport false) = true := by decide +kernel
  have plain : NewlineFree (sampleReport false) := by decide +kernel
  have inner : newline ∉ (sampleReport false).resultPayload.dropLast := by decide
  exact ⟨present, plain, ((signingInput_determines_iff _ present).2 plain).mpr inner⟩

/-- The same text, read with the nonce `0123456789abcdef\n\b` and the payload `\x04`. -/
theorem signingInput_ambiguous :
    ∃ first second, fieldsPresent first = true ∧ fieldsPresent second = true ∧
      judgeCallbackSigningInput first = judgeCallbackSigningInput second ∧
      first.serviceAuth.nonce ≠ second.serviceAuth.nonce ∧
      first.resultPayload ≠ second.resultPayload :=
  ⟨sampleReport true, shiftNonce (sampleReport true) [8] [4], by decide +kernel⟩

end OnlineJudge.Callback
