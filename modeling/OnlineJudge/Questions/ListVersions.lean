import OnlineJudge.Questions.DetailCache
import OnlineJudge.Questions.ListPages

/-!
# Versions of the list of questions

Readers of the list (`GetListVersion`, then `GetQuestionsByPage`) and writers (`SaveQuestion` or
`DeleteQuestion`, then `BumpListVersion`).  `GetListVersion` creates the version by a `GET` and a
`SET`, which may set it back to 1 (`old_page_after_bump`).
-/

namespace OnlineJudge.Questions

open Function

variable {Time : Type}

inductive ListAnswer (Time : Type)
  /-- `false`. -/
  | failed
  /-- `true`, with nothing assigned: the entry has expired after `EXISTS` or cannot be parsed. -/
  | blank
  | cached (page : ListedPage)
  | loaded (page : Page Time)
  deriving DecidableEq

structure ListInput where
  request : ListRequest := {}
  includeHidden : Bool := false
  deriving DecidableEq

/-- Where a call is.  `source` is the number of the version of the table that it has read or
written. -/
inductive ListCall (Time : Type)
  | idle
  /-- `GetListVersion`, before `GET`. -/
  | asking (input : ListInput)
  /-- Before `SET`. -/
  | creating (input : ListInput)
  /-- `GetQuestionsByPage`, before `EXISTS`. -/
  | checking (input : ListInput) (version : Nat)
  /-- Before `GET`. -/
  | getting (input : ListInput) (version : Nat)
  | missed (input : ListInput) (version : Nat)
  /-- Before `SETEX`. -/
  | loaded (input : ListInput) (version : Nat) (source : Nat) (page : Page Time)
  | answered (input : ListInput) (answer : ListAnswer Time)
  | writing (id : Bytes) (write : Write Time)
  /-- After `find`. -/
  | found (id : Bytes) (write : Write Time) (row : Option (Question Time))
  /-- Before `INCR`. -/
  | committed (source : Nat)
  /-- `BumpListVersion` has returned. -/
  | bumped (source : Nat)
  /-- The writer has returned `false`. -/
  | refused
  deriving DecidableEq

structure ListSetting (Time : Type) where
  sql : Sql Time
  times : Times Time
  json : JsonCodec

/-- The table, the version, the pages by their keys, and the calls.  `reached` is, for each
version that the list has had, the number of the version of the table when it came. -/
structure ListState (ι Time : Type) where
  tables : History (List (Question Time))
  version : Option Nat
  pages : Bytes → Option Bytes
  calls : ι → ListCall Time
  reached : Nat → Nat

/-- The entry that `SetQuestionsByPage` writes. -/
def ListSetting.entryOf (setting : ListSetting Time) (request : ListRequest) (version : Nat)
    (page : Page Time) : Bytes :=
  setting.json.write (questionsByPageJson setting.json (storedRequest request page) version page)

def ListSetting.find (setting : ListSetting Time) (table : List (Question Time)) (id : Bytes) :
    Option (Question Time) :=
  table.find? (setting.sql.equals ·.id id)

def ListSetting.tableAfter (setting : ListSetting Time) (table : List (Question Time)) (id : Bytes)
    (write : Write Time) (row : Option (Question Time)) (now : Time) : List (Question Time) :=
  match write.row row now with
  | some new =>
    if row.isSome then
      table.map fun q => if setting.sql.equals q.id id then new.inTable setting.times else q
    else table ++ [new.inTable setting.times]
  | none => table.filter (!setting.sql.equals ·.id id)

variable {ι : Type} [DecidableEq ι]

namespace ListState

variable (s : ListState ι Time) (setting : ListSetting Time)

def setCall (i : ι) (call : ListCall Time) : ListState ι Time :=
  { s with calls := update s.calls i call }

def reach (version : Nat) : ListState ι Time :=
  { s with
    version := some version
    reached := update s.reached version s.tables.last }

def setVersion : ListState ι Time :=
  match s.version with
  | none => s.reach 1
  | some _ => { s with version := some 1 }

def incrVersion : ListState ι Time := s.reach (s.version.getD 0 + 1)

def enter (input : ListInput) (version : Nat) : ListCall Time :=
  if input.request.size ≤ 0 then .answered input .failed
  else if input.includeHidden then .missed input version
  else .checking input version

def pageOf (result : Option Bytes) : ListAnswer Time :=
  match (result.bind setting.json.read).bind listedPageOfJson with
  | some page => .cached page
  | none => .blank

def load (input : ListInput) (version : Nat) : ListCall Time :=
  match loadPage setting.sql s.tables.current input.request input.includeHidden with
  | none => .answered input .failed
  | some page =>
    if input.includeHidden then .answered input (.loaded page)
    else .loaded input version s.tables.last page

def setPage (input : ListInput) (version : Nat) (page : Page Time) : ListState ι Time :=
  { s with
    pages := update s.pages (listKey (storedRequest input.request page) version)
      (some (setting.entryOf input.request version page)) }

def commit (i : ι) (id : Bytes) (write : Write Time) (row : Option (Question Time))
    (outcome : Outcome) (now : Time) : ListState ι Time :=
  if write.erasesNothing row then
    match outcome with
    | .done => s.setCall i (.committed s.tables.last)
    | .lost | .failed => s.setCall i .refused
  else if (setting.find s.tables.current id).isSome ≠ row.isSome then
    -- `update` and `erase` throw without a row, `persist` throws with one
    s.setCall i .refused
  else
    let tables := s.tables.commit (setting.tableAfter s.tables.current id write row now)
    match outcome with
    | .done => { s.setCall i (.committed tables.last) with tables }
    | .lost => { s.setCall i .refused with tables }
    | .failed => s.setCall i .refused

def advance (i : ι) (outcome : Outcome) (now : Time) : Option (ListState ι Time) :=
  match s.calls i with
  | .asking input =>
    some (s.setCall i
      (match s.version with
      | some version => enter input version
      | none => .creating input))
  | .creating input => some (s.setVersion.setCall i (enter input 1))
  | .checking input version =>
    some (s.setCall i
      (if (s.pages (listKey input.request version)).isSome then .getting input version
      else .missed input version))
  | .getting input version =>
    some (s.setCall i (.answered input (pageOf setting (s.pages (listKey input.request version)))))
  | .missed input version =>
    some (s.setCall i
      (match outcome with
      | .done => s.load setting input version
      | .lost | .failed => .answered input .failed))
  | .loaded input version _ page =>
    some ((s.setPage setting input version page).setCall i (.answered input (.loaded page)))
  | .writing id write =>
    some (s.setCall i
      (match outcome with
      | .done => .found id write (setting.find s.tables.current id)
      | .lost | .failed => .refused))
  | .found id write row => some (s.commit setting i id write row outcome now)
  | .committed source => some (s.incrVersion.setCall i (.bumped source))
  | .idle | .answered .. | .bumped _ | .refused => none

def start (i : ι) (call : ListCall Time) : Option (ListState ι Time) :=
  match s.calls i with
  | .idle => some (s.setCall i call)
  | _ => none

end ListState

inductive ListAction (ι Time : Type)
  | read (i : ι) (input : ListInput)
  | save (i : ι) (input : Question Time) (textual : input.textual = true)
  | delete (i : ι) (id : Bytes)
  | advance (i : ι) (outcome : Outcome) (now : Time)
  | vanish (key : Bytes)

def startsWrite (id : Bytes) (write : Write Time) : ListCall Time :=
  if write.refused id then .refused else .writing id write

def ListState.step (setting : ListSetting Time) (s : ListState ι Time) :
    ListAction ι Time → Option (ListState ι Time)
  | .read i input => s.start i (.asking input)
  | .save i input textual => s.start i (startsWrite input.id (.save input textual))
  | .delete i id => s.start i (startsWrite id .delete)
  | .advance i outcome now => s.advance setting i outcome now
  | .vanish key => some { s with pages := update s.pages key none }

def listSystem (ι : Type) [DecidableEq ι] (setting : ListSetting Time)
    (table : List (Question Time)) (version : Option Nat) (pages : Bytes → Option Bytes) :
    TransitionSystem (ListState ι Time) (ListAction ι Time) where
  initial := {
    tables := .start table
    version
    pages
    calls := fun _ => .idle
    reached := fun _ => 0 }
  step := ListState.step setting

def neverReset (s : ListState ι Time) : ListAction ι Time → Bool
  | .advance i _ _ =>
    match s.calls i with
    | .creating _ => s.version.all (· = 1)
    | _ => true
  | _ => true

end OnlineJudge.Questions
