import OnlineJudge.Common.Messages

/-!
# Byte strings that are text

Serialization copies whatever bytes a `string` field of proto3 holds; parsing refuses a message in
which one is not valid UTF-8.  A message is `Textual` when its `string` fields are valid.
-/

namespace OnlineJudge

/-- The ranges of the bytes that must follow the first byte of a character; overlong forms,
surrogates and numbers above `U+10FFFF` are excluded by the second byte. -/
def utf8Follow (first : UInt8) : Option (List (UInt8 × UInt8)) :=
  if first ≤ 0x7F then some []
  else if 0xC2 ≤ first ∧ first ≤ 0xDF then some [(0x80, 0xBF)]
  else if first = 0xE0 then some [(0xA0, 0xBF), (0x80, 0xBF)]
  else if first = 0xED then some [(0x80, 0x9F), (0x80, 0xBF)]
  else if 0xE1 ≤ first ∧ first ≤ 0xEF then some [(0x80, 0xBF), (0x80, 0xBF)]
  else if first = 0xF0 then some [(0x90, 0xBF), (0x80, 0xBF), (0x80, 0xBF)]
  else if 0xF1 ≤ first ∧ first ≤ 0xF3 then some [(0x80, 0xBF), (0x80, 0xBF), (0x80, 0xBF)]
  else if first = 0xF4 then some [(0x80, 0x8F), (0x80, 0xBF), (0x80, 0xBF)]
  else none

def validUtf8From : List (UInt8 × UInt8) → Bytes → Bool
  | [], [] => true
  | _ :: _, [] => false
  | [], first :: rest =>
    match utf8Follow first with
    | some ranges => validUtf8From ranges rest
    | none => false
  | (least, greatest) :: ranges, byte :: rest =>
    least ≤ byte && byte ≤ greatest && validUtf8From ranges rest

def validUtf8 (bytes : Bytes) : Bool := validUtf8From [] bytes

theorem validUtf8_of_ascii {bytes : Bytes} (ascii : ∀ byte ∈ bytes, byte ≤ 0x7F) :
    validUtf8 bytes = true := by
  induction bytes with
  | nil => rfl
  | cons first rest ih =>
    obtain ⟨here, later⟩ := List.forall_mem_cons.mp ascii
    rw [validUtf8, validUtf8From, utf8Follow, if_pos here]
    exact ih later

def TestCaseResult.Textual (result : TestCaseResult) : Prop :=
  validUtf8 result.input = true ∧ validUtf8 result.expectedOutput = true ∧
    validUtf8 result.actualOutput = true

/-- The `string` fields of `JudgeResult`. -/
def JudgeResult.Textual (result : JudgeResult) : Prop :=
  validUtf8 result.compileError = true ∧ ∀ test ∈ result.testCaseResults, test.Textual

instance (result : TestCaseResult) : Decidable result.Textual :=
  inferInstanceAs (Decidable (_ ∧ _ ∧ _))

instance (result : JudgeResult) : Decidable result.Textual :=
  inferInstanceAs (Decidable (_ ∧ _))

/-- The `string` fields of `JudgeTaskMessage` are valid. -/
def JudgeTaskMessage.textual (task : JudgeTaskMessage) : Bool :=
  validUtf8 task.messageId && validUtf8 task.questionId && validUtf8 task.code &&
    validUtf8 task.language &&
    (match task.target with
      | some (.custom id) => validUtf8 id
      | _ => true) &&
    task.testCases.all fun test => validUtf8 test.input && validUtf8 test.expectedOutput

example : validUtf8 [0xE5, 0x88, 0xA4, 0xE9, 0xA2, 0x98] = true := by decide

example : validUtf8 [0x61, 0xFF] = false := by decide

end OnlineJudge
