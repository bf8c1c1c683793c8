import OnlineJudge.Common.Json

/-!
# Questions, and their cached form

`struct Question` (`models/question.hxx`), `SaveQuestion` (`model_question.hpp`), and the JSON that
`SetDetailedQuestion` (`oj_cache.hpp`) writes and `ParseDetailedQuestion` reads.

A time is written as a number and read from it again, and a column of the database rounds it.  So a
question that is read, from the table or from the cache, is one of the copies `Question.asRead` of
the question that was saved; the copies differ in the times only.

## Main definitions

* `Question`, `savedRow`: the row, and what `SaveQuestion` makes of it.
* `detailedQuestionJson`, `parseDetailedQuestion`: the cached form and its reader.

## Main results

* `parseDetailedQuestion_write`: a question whose strings are UTF-8 is read from the text that was
  written of it, up to its times.
-/

namespace OnlineJudge.Questions

open Scalar

/-- A row of the table `questions`. -/
structure Question (Time : Type) where
  id : Bytes
  title : Bytes
  desc : Bytes
  star : Bytes
  createTime : Time
  updateTime : Time
  cpuLimit : Int8
  memoryLimit : Int32
  visible : Bool := true
  deriving DecidableEq

def isAlnum (ch : UInt8) : Bool :=
  (48 ≤ ch && ch ≤ 57) || (65 ≤ ch && ch ≤ 90) || (97 ≤ ch && ch ≤ 122)

/-- At most five letters and digits. -/
def isValidQuestionId (value : Bytes) : Bool :=
  !value.isEmpty && value.length ≤ 5 && value.all isAlnum

/-- The comparison with the limits of `int8_t`. -/
def outsideInt8 (value : Int) : Bool := value < -128 || 127 < value

/-- The conversions of times. -/
structure Times (Time : Type) where
  /-- What a `DATETIME` column keeps of a time. -/
  column : Time → Time
  dateTimeToInt : Time → Int64
  intToDateTime : Int64 → Time

variable {Time : Type}

/-- The row that `SaveQuestion` writes: `stored` after the two branches. -/
def savedRow (input : Question Time) (found : Option (Question Time)) (now : Time) :
    Question Time :=
  match found with
  | some stored =>
    { stored with
      title := input.title
      desc := input.desc
      star := input.star
      cpuLimit := input.cpuLimit
      memoryLimit := input.memoryLimit
      visible := input.visible
      updateTime := now }
  | none =>
    { id := input.id
      title := input.title
      desc := input.desc
      star := input.star
      cpuLimit := input.cpuLimit
      memoryLimit := input.memoryLimit
      visible := input.visible
      createTime := now
      updateTime := now }

theorem savedRow_limits (input : Question Time) (found : Option (Question Time)) (now : Time) :
    (savedRow input found now).cpuLimit = input.cpuLimit ∧
      (savedRow input found now).memoryLimit = input.memoryLimit ∧
      (savedRow input found now).visible = input.visible := by
  cases found <;> exact ⟨rfl, rfl, rfl⟩

namespace Question

/-- The strings are UTF-8, as those of a column of MySQL and of a message of proto3 are. -/
def textual (q : Question Time) : Bool :=
  validUtf8 q.id && validUtf8 q.title && validUtf8 q.desc && validUtf8 q.star

/-- The question as it is read from the table. -/
def inTable (times : Times Time) (q : Question Time) : Question Time :=
  { q with createTime := times.column q.createTime, updateTime := times.column q.updateTime }

/-- The question as it is read from the cache. -/
def recached (times : Times Time) (q : Question Time) : Question Time :=
  { q with
    createTime := times.intToDateTime (times.dateTimeToInt q.createTime)
    updateTime := times.intToDateTime (times.dateTimeToInt q.updateTime) }

/-- All that is read of a question that was saved: from the table, from the cache where the writer
has put it, and from the cache where a reader has put what it had read. -/
def asRead (times : Times Time) (q : Question Time) : List (Question Time) :=
  [q.inTable times, q.recached times, (q.inTable times).recached times]

theorem exists_times_of_mem_asRead {times : Times Time} {p q : Question Time}
    (read : q ∈ p.asRead times) :
    ∃ createTime updateTime, q = { p with createTime, updateTime } := by
  simp only [asRead, List.mem_cons, List.not_mem_nil, or_false] at read
  rcases read with rfl | rfl | rfl
  · exact ⟨_, _, rfl⟩
  · exact ⟨_, _, rfl⟩
  · exact ⟨_, _, rfl⟩

theorem visible_of_mem_asRead {times : Times Time} {p q : Question Time}
    (read : q ∈ p.asRead times) : q.visible = p.visible := by
  obtain ⟨_, _, rfl⟩ := exists_times_of_mem_asRead read
  rfl

theorem textual_savedRow {input : Question Time} {found : Option (Question Time)} {now : Time}
    (valid : input.textual = true) (stored : ∀ q ∈ found, q.textual = true) :
    (savedRow input found now).textual = true := by
  cases found with
  | none => exact valid
  | some q =>
    have kept := stored q rfl
    simp only [textual, savedRow, Bool.and_eq_true] at valid kept ⊢
    exact ⟨⟨⟨kept.1.1.1, valid.1.1.2⟩, valid.1.2⟩, valid.2⟩

end Question

/-! ## The cached form -/

variable (json : JsonCodec) (times : Times Time)

/-- The document of `SetDetailedQuestion`. -/
def detailedQuestionJson (question : Question Time) : Document :=
  .flat [("id", .string question.id),
    ("title", .string question.title),
    ("star", .string question.star),
    ("desc", .string question.desc),
    ("cpu_limit", .int question.cpuLimit.toInt),
    ("memory_limit", .int question.memoryLimit.toInt),
    ("visible", .bool question.visible),
    ("create_time", .int (times.dateTimeToInt question.createTime).toInt),
    ("update_time", .int (times.dateTimeToInt question.updateTime).toInt)]

/-- `ParseDetailedQuestion` after `parseFromStream`. -/
def questionOfJson (value : Document) (expectedId : Bytes) : Option (Question Time) := do
  let id ← value.read "id" string?
  guard (id = expectedId)
  let title ← value.read "title" string?
  let star ← value.read "star" string?
  let desc ← value.read "desc" string?
  let cpuLimit ← value.read "cpu_limit" int?
  let memoryLimit ← value.read "memory_limit" int?
  let visible ← value.read "visible" bool?
  let createTime ← value.read "create_time" int64?
  let updateTime ← value.read "update_time" int64?
  guard (!outsideInt8 cpuLimit)
  return {
    id, title, star, desc, visible
    cpuLimit := .ofInt cpuLimit
    memoryLimit := .ofInt memoryLimit
    createTime := times.intToDateTime (.ofInt createTime)
    updateTime := times.intToDateTime (.ofInt updateTime) }

def parseDetailedQuestion (jsonStr expectedId : Bytes) : Option (Question Time) :=
  (json.read jsonStr).bind (questionOfJson times · expectedId)

theorem not_outsideInt8 (value : Int8) : outsideInt8 value.toInt = false := by
  have least := value.le_toInt
  have greatest := value.toInt_lt
  simp only [outsideInt8, Bool.or_eq_false_iff, decide_eq_false_iff_not]
  omega

variable {json times} in
theorem parseDetailedQuestion_write (faithful : json.Faithful) {question : Question Time}
    (textual : question.textual = true) (expectedId : Bytes) :
    parseDetailedQuestion json times (json.write (detailedQuestionJson times question)) expectedId =
      if question.id = expectedId then some (question.recached times) else none := by
  have distinct : ((detailedQuestionJson times question).map Prod.fst).Nodup := by
    simp [detailedQuestionJson, Document.flat]
  obtain ⟨other, read, back⟩ := faithful.back distinct
  simp only [Question.textual, Bool.and_eq_true] at textual
  obtain ⟨⟨⟨idText, titleText⟩, descText⟩, starText⟩ := textual
  have strings {name : String} {value : Bytes} (valid : validUtf8 value = true)
      (written : (detailedQuestionJson times question).lookup name =
        some (.scalar (.string value))) : other.read name string? = some value :=
    Document.read_back (back name) written valid string?
  have cpuLimit : other.read "cpu_limit" int? = some question.cpuLimit.toInt := by
    have least := question.cpuLimit.le_toInt
    have greatest := question.cpuLimit.toInt_lt
    exact Document.read_int (back _) rfl (by omega) (by omega) (by omega) (by omega)
  have memoryLimit : other.read "memory_limit" int? = some question.memoryLimit.toInt := by
    have least := question.memoryLimit.le_toInt
    have greatest := question.memoryLimit.toInt_lt
    exact Document.read_int (back _) rfl (by omega) (by omega) (by omega) (by omega)
  have numbers {name : String} {value : Int64}
      (written : (detailedQuestionJson times question).lookup name =
        some (.scalar (.int value.toInt))) :
      other.read name int64? = some value.toInt := by
    have least := value.le_toInt
    have greatest := value.toInt_lt
    exact Document.read_int (back _) written (by omega) (by omega) (by omega) (by omega)
  have visible : other.read "visible" bool? = some question.visible := by
    have written : (detailedQuestionJson times question).lookup "visible" =
        some (.scalar (.bool question.visible)) := rfl
    exact Document.read_back (back _) written rfl bool?
  rw [parseDetailedQuestion, read, Option.bind_some, questionOfJson, strings idText rfl,
    strings titleText rfl, strings starText rfl, strings descText rfl, cpuLimit, memoryLimit,
    visible, numbers rfl, numbers rfl]
  by_cases same : question.id = expectedId
  · simp [guard, same, not_outsideInt8, Question.recached]
  · simp [guard, same]

end OnlineJudge.Questions
