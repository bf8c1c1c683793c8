import OnlineJudge.Library.History
import OnlineJudge.Library.TransitionSystem
import OnlineJudge.Questions.Question

/-!
# The detail cache of a question

`GetOneQuestion`, `SaveQuestion` and `DeleteQuestion` (`model_question.hpp`) of one question id, in
any number of processes; a step is a Redis command or a transaction.  A reader that has read the
row before a commit may write it to the cache after the writer has (`hidden_question_shown`).
-/

namespace OnlineJudge.Questions

variable {Time : Type}

/-- A `SaveQuestion` or a `DeleteQuestion`; protobuf has checked that the strings of a request are
UTF-8. -/
inductive Write (Time : Type)
  | save (input : Question Time) (textual : input.textual = true)
  | delete
  deriving DecidableEq

/-- A write that returns `false` at once. -/
def Write.refused (id : Bytes) : Write Time → Bool
  | .save input _ => outsideInt8 input.cpuLimit.toInt
  | .delete => !isValidQuestionId id

def Write.row (write : Write Time) (found : Option (Question Time)) (now : Time) :
    Option (Question Time) :=
  match write with
  | .save input _ => some (savedRow input found now)
  | .delete => none

theorem Write.textual_row {write : Write Time} {found : Option (Question Time)} {now : Time}
    (stored : ∀ q ∈ found, q.textual = true) :
    ∀ q ∈ write.row found now, q.textual = true := by
  cases write with
  | save input textual =>
    rintro _ ⟨⟩
    exact Question.textual_savedRow textual stored
  | delete => exact fun _ none => by cases none

/-- A `DeleteQuestion` that has found no row erases nothing. -/
def Write.erasesNothing : Write Time → Option (Question Time) → Bool
  | .delete, none => true
  | _, _ => false

/-- How `GetOneQuestion` ends. -/
inductive Answer (Time : Type)
  | failed
  | missing
  /-- `q` is assigned. -/
  | found (q : Question Time)
  deriving DecidableEq

def Answer.returns (includeHidden : Bool) : Answer Time → Bool
  | .failed | .missing => false
  | .found q => includeHidden || q.visible

inductive Call (Time : Type)
  | idle
  /-- `GetOneQuestion`, before `EXISTS`. -/
  | asking (includeHidden : Bool)
  /-- Before `GET`. -/
  | getting (includeHidden : Bool)
  | missed (includeHidden : Bool)
  /-- Before `SETEX`. -/
  | loaded (includeHidden : Bool) (version : Nat) (row : Option (Question Time))
  | answered (includeHidden : Bool) (answer : Answer Time)
  | locked (write : Write Time)
  /-- After `find`. -/
  | found (write : Write Time) (version : Nat) (row : Option (Question Time))
  /-- Before `SETEX`. -/
  | committed (write : Write Time) (version : Nat) (row : Option (Question Time))
  /-- After `SETEX`. -/
  | published (write : Write Time) (version : Nat)
  /-- The write has returned, `true` exactly if there is a version. -/
  | returned (write : Write Time) (version : Option Nat)
  deriving DecidableEq

def Call.storing : Call Time → Option Nat
  | .loaded _ version (some _) | .committed _ version (some _) => some version
  | _ => none

/-- How a transaction ends: `lost` is a commit of which the server does not hear. -/
inductive Outcome
  | done
  | lost
  | failed
  deriving DecidableEq

structure DetailSetting (ι π Time : Type) where
  id : Bytes
  process : ι → π
  json : JsonCodec
  times : Times Time

/-- `source` is the number of the version that was written to the cache last, and `published` the
greatest one that a writer has written there. -/
structure DetailState (ι π Time : Type) where
  rows : History (Option (Question Time))
  entry : Option Bytes
  mutex : π → Bool
  calls : ι → Call Time
  source : Nat
  published : Option Nat

variable {ι π : Type} [DecidableEq ι] [DecidableEq π]

def nullEntry : Bytes := text "__NULL__"

namespace DetailSetting

variable (setting : DetailSetting ι π Time)

/-- The value of `SetDetailedQuestion` or of `SetQuestionNotFound`. -/
def entryOf : Option (Question Time) → Bytes
  | some q => setting.json.write (detailedQuestionJson setting.times q)
  | none => nullEntry

/-- `GetDetailedQuestion` after its `GET`. -/
def getDetailedQuestion (result : Option Bytes) : Option (Question Time) :=
  match result with
  | none => none
  | some jsonStr =>
    if jsonStr = nullEntry then none
    else parseDetailedQuestion setting.json setting.times jsonStr setting.id

def find (row : Option (Question Time)) : Option (Question Time) :=
  row.map (·.inTable setting.times)

def concerns : Write Time → Bool
  | .save input _ => input.id = setting.id
  | .delete => true

end DetailSetting

namespace DetailState

variable (s : DetailState ι π Time) (setting : DetailSetting ι π Time) (i : ι)

def setCall (call : Call Time) : DetailState ι π Time :=
  { s with calls := Function.update s.calls i call }

def setEntry (version : Nat) (row : Option (Question Time)) : DetailState ι π Time :=
  { s with entry := some (setting.entryOf row), source := version }

def startRead (includeHidden : Bool) : Option (DetailState ι π Time) :=
  match s.calls i with
  | .idle =>
    some (s.setCall i
      (if isValidQuestionId setting.id then .asking includeHidden
      else .answered includeHidden .failed))
  | _ => none

def startWrite (write : Write Time) : Option (DetailState ι π Time) :=
  match s.calls i with
  | .idle =>
    if !setting.concerns write then none
    else if write.refused setting.id then some (s.setCall i (.returned write none))
    else if s.mutex (setting.process i) then none
    else some { s.setCall i (.locked write) with
      mutex := Function.update s.mutex (setting.process i) true }
  | _ => none

def finishWrite (write : Write Time) (version : Option Nat) : DetailState ι π Time :=
  { s.setCall i (.returned write version) with
    mutex := Function.update s.mutex (setting.process i) false }

def commit (write : Write Time) (version : Nat) (row : Option (Question Time)) (outcome : Outcome)
    (now : Time) : DetailState ι π Time :=
  if write.erasesNothing row then
    match outcome with
    | .done => s.setCall i (.committed write version none)
    | .lost | .failed => s.finishWrite setting i write none
  else if s.rows.current.isSome ≠ row.isSome then
    -- `update` and `erase` throw without a row, `persist` throws with one
    s.finishWrite setting i write none
  else
    let rows := s.rows.commit (write.row row now)
    match outcome with
    | .done => { s.setCall i (.committed write rows.last (write.row row now)) with rows }
    | .lost => { s.finishWrite setting i write none with rows }
    | .failed => s.finishWrite setting i write none

def advance (outcome : Outcome) (now : Time) : Option (DetailState ι π Time) :=
  match s.calls i with
  | .asking includeHidden =>
    some (s.setCall i (if s.entry.isSome then .getting includeHidden else .missed includeHidden))
  | .getting includeHidden =>
    some (s.setCall i
      (match setting.getDetailedQuestion s.entry with
      | some q => .answered includeHidden (.found q)
      | none => .missed includeHidden))
  | .missed includeHidden =>
    some (s.setCall i
      (match outcome with
      | .done => .loaded includeHidden s.rows.last (setting.find s.rows.current)
      | .lost | .failed => .answered includeHidden .failed))
  | .loaded includeHidden version row =>
    some ((s.setEntry setting version row).setCall i
      (.answered includeHidden (row.elim .missing .found)))
  | .locked write =>
    some
      (match outcome with
      | .done => s.setCall i (.found write s.rows.last (setting.find s.rows.current))
      | .lost | .failed => s.finishWrite setting i write none)
  | .found write version row => some (s.commit setting i write version row outcome now)
  | .committed write version row =>
    some { (s.setEntry setting version row).setCall i (.published write version) with
      published := some (max (s.published.getD 0) version) }
  | .published write version => some (s.finishWrite setting i write (some version))
  | .idle | .answered .. | .returned .. => none

end DetailState

inductive DetailAction (ι Time : Type)
  | getOneQuestion (i : ι) (includeHidden : Bool)
  | write (i : ι) (write : Write Time)
  | advance (i : ι) (outcome : Outcome) (now : Time)
  | vanish

def DetailState.step (setting : DetailSetting ι π Time) (s : DetailState ι π Time) :
    DetailAction ι Time → Option (DetailState ι π Time)
  | .getOneQuestion i includeHidden => s.startRead setting i includeHidden
  | .write i write => s.startWrite setting i write
  | .advance i outcome now => s.advance setting i outcome now
  | .vanish => some { s with entry := none }

def detailSystem (setting : DetailSetting ι π Time) (row : Option (Question Time))
    (entry : Option Bytes) :
    TransitionSystem (DetailState ι π Time) (DetailAction ι Time) where
  initial := {
    rows := .start row
    entry
    mutex := fun _ => false
    calls := fun _ => .idle
    source := 0
    published := none }
  step := DetailState.step setting

/-- A question is written to the cache only while no writer has written a later version there. -/
def ordered (s : DetailState ι π Time) : DetailAction ι Time → Bool
  | .advance i _ _ => (s.calls i).storing.all fun version => s.published.all (· ≤ version)
  | _ => true

end OnlineJudge.Questions
