import OnlineJudge.Questions.ListVersions
import OnlineJudge.Submissions.Creation

/-!
# The response to `ListQuestions`

`OJServiceImpl::ListQuestions` (`oj_service_impl.cpp`) for a call that no other interrupts.  The
cache keeps three of nine fields, and an entry that expires between `EXISTS` and `GET` gives an
empty list.
-/

namespace OnlineJudge.Questions

open ListState TransitionSystem List

open Submissions (trim QuestionMessage)

variable {Time : Type}

/-! ## The messages -/

/-- `message GetQuestionListRequest`, apart from `include_hidden`, which is not read. -/
structure GetQuestionListRequest where
  page : PageRequest := {}
  search : Bytes := []
  difficulty : Bytes := []
  deriving DecidableEq

structure ListedMessage extends QuestionMessage where
  createTime : Int64
  updateTime : Int64
  deriving DecidableEq

structure StatusResponse where
  success : Bool
  code : Nat
  message : String := ""
  retryable : Bool := false
  deriving DecidableEq

structure GetQuestionListResponse where
  status : StatusResponse
  page : Option PageResponse := none
  questions : List ListedMessage := []
  deriving DecidableEq

/-! ## `ProtoAdapter` -/

def legacyTimeLimitMs (seconds : Int) : UInt32 :=
  if seconds ≤ 0 then 0 else .ofNat (min (seconds.toNat * 1000) 4294967295)

def legacyMemoryLimitMb (megabytes : Int) : UInt32 :=
  if megabytes ≤ 0 then 0 else .ofNat megabytes.toNat

def toProto (times : Times Time) (input : Question Time) : ListedMessage where
  id := input.id
  title := input.title
  description := input.desc
  difficulty := input.star
  timeLimitMs := legacyTimeLimitMs input.cpuLimit.toInt
  memoryLimitMb := legacyMemoryLimitMb input.memoryLimit.toInt
  createTime := times.dateTimeToInt input.createTime
  updateTime := times.dateTimeToInt input.updateTime
  visible := input.visible

/-! ## The call -/

def lowerAscii (value : Bytes) : Bytes := value.map toLower

def normalizeQuestionQuery (raw : QuestionQuery) : QuestionQuery :=
  let id := trim raw.id
  { id := if !id.isEmpty && !isValidQuestionId id then [] else id
    title := trim raw.title
    star := lowerAscii (trim raw.star) }

def GetQuestionListRequest.query (input : GetQuestionListRequest) : QuestionQuery where
  title := trim input.search
  star := trim input.difficulty

def GetQuestionListRequest.listRequest (input : GetQuestionListRequest) : ListRequest where
  query := normalizeQuestionQuery input.query
  page := if input.page.page = 0 then 1 else (min input.page.page.toNat 1000000 : Nat)
  size := if input.page.pageSize = 0 then 20 else (min input.page.pageSize.toNat 100 : Nat)

theorem GetQuestionListRequest.size_pos (input : GetQuestionListRequest) :
    0 < input.listRequest.size := by
  simp only [listRequest]
  split
  · decide
  rename_i sized
  have : input.page.pageSize.toNat ≠ 0 := fun zero => sized (UInt32.toNat_inj.mp zero)
  omega

/-- What the memory of a new `Question` happens to hold where no initialiser is given. -/
structure Remains (Time : Type) where
  createTime : Time
  updateTime : Time
  cpuLimit : Int8
  memoryLimit : Int32
  deriving DecidableEq

def Remains.question (remains : Remains Time) (item : ListedQuestion) : Question Time where
  id := item.id
  title := item.title
  desc := []
  star := item.star
  createTime := remains.createTime
  updateTime := remains.updateTime
  cpuLimit := remains.cpuLimit
  memoryLimit := remains.memoryLimit

/-- `total` and `questions` after `GetQuestionsByPage`; `none` where it has returned `false`.
`remains` is for the questions in turn. -/
def ListAnswer.result (remains : Nat → Remains Time) :
    ListAnswer Time → Option (Nat × List (Question Time))
  | .failed => none
  | .blank => some (0, [])
  | .cached page =>
    some (page.totalCount, page.questions.mapIdx fun index => (remains index).question)
  | .loaded page => some (page.totalCount, page.questions)

def ListAnswer.response (times : Times Time) (input : GetQuestionListRequest)
    (remains : Nat → Remains Time) (answer : ListAnswer Time) : GetQuestionListResponse :=
  match answer.result remains with
  | none => { status := { success := false, code := 500, message := "DB_ERROR" } }
  | some (total, questions) =>
    { status := { success := true, code := 200 }
      page := some (input.page.setPage total 20 100)
      questions := questions.map (toProto times) }

structure ListCache where
  version : Option Nat
  pages : Bytes → Option Bytes

namespace ListCache

def getListVersion (cache : ListCache) : Nat × ListCache :=
  match cache.version with
  | some version => (version, cache)
  | none => (1, { cache with version := some 1 })

def key (cache : ListCache) (request : ListRequest) : Bytes :=
  listKey request cache.getListVersion.1

variable (setting : ListSetting Time) (table : List (Question Time))

/-- `GetQuestionsByPage` with a version that the call has found.  `expires` says whether an entry
expires between `EXISTS` and `GET`. -/
def readPage (cache : ListCache) (expires : Bool) (request : ListRequest) (version : Nat) :
    ListAnswer Time × ListCache :=
  if request.size ≤ 0 then (.failed, cache)
  else
    let key := listKey request version
    if (cache.pages key).isSome then
      let pages := if expires then Function.update cache.pages key none else cache.pages
      (pageOf setting (pages key), { cache with pages })
    else
      match loadPage setting.sql table request false with
      | none => (.failed, cache)
      | some page =>
        (.loaded page,
          { cache with
            pages := Function.update cache.pages (listKey (storedRequest request page) version)
              (some (setting.entryOf request version page)) })

/-- `GetListVersion` and `GetQuestionsByPage`. -/
def getQuestionsByPage (cache : ListCache) (expires : Bool) (request : ListRequest) :
    ListAnswer Time × ListCache :=
  cache.getListVersion.2.readPage setting table expires request cache.getListVersion.1

def listQuestions (cache : ListCache) (expires : Bool) (remains : Nat → Remains Time)
    (input : GetQuestionListRequest) : GetQuestionListResponse × ListCache :=
  let (answer, after) := cache.getQuestionsByPage setting table expires input.listRequest
  (answer.response setting.times input remains, after)

end ListCache

open ListCache

/-! ## The steps of the call -/

namespace ListState

variable {ι : Type} [DecidableEq ι] {setting : ListSetting Time}

/-- What a call on its own finds in Redis. -/
def cache (s : ListState ι Time) : ListCache := ⟨s.version, s.pages⟩

variable {table : List (Question Time)} {version : Option Nat} {pages : Bytes → Option Bytes}

variable (setting table version pages) in
/-- A run leads to the answer of a call and to the cache as given, with the tables unchanged. -/
def Answers (s : ListState ι Time) (i : ι) (request : ListRequest)
    (outcome : ListAnswer Time × ListCache) : Prop :=
  ∃ t, (listSystem ι setting table version pages).Reaches s t ∧ t.tables = s.tables ∧
    t.cache = outcome.2 ∧ t.calls i = .answered ⟨request, false⟩ outcome.1

variable {s : ListState ι Time} {i : ι} {request : ListRequest}
    {outcome : ListAnswer Time × ListCache}

theorem Answers.of_run (actions : List (ListAction ι Time))
    (ran : ∃ t, (listSystem ι setting table version pages).run s actions = some t ∧
      t.tables = s.tables ∧ t.cache = outcome.2 ∧
        t.calls i = .answered ⟨request, false⟩ outcome.1) :
    Answers setting table version pages s i request outcome := by
  obtain ⟨t, ran, result⟩ := ran
  exact ⟨t, run_reaches ran, result⟩

variable (setting table version pages) in
theorem answers_readPage (s : ListState ι Time) (i : ι) (now : Time) (request : ListRequest)
    (found : Nat) (expires : Bool) (entered : s.calls i = enter ⟨request, false⟩ found) :
    Answers setting table version pages s i request
      (s.cache.readPage setting s.tables.current expires request found) := by
  by_cases small : request.size ≤ 0
  · exact .of_run [] (by simp [run, readPage, small, entered, enter])
  have checking : s.calls i = .checking ⟨request, false⟩ found := by
    rw [entered]
    simp [enter, small]
  by_cases hit : (s.pages (listKey request found)).isSome
  · cases expires with
    | false =>
      refine .of_run [.advance i .done now, .advance i .done now] ?_
      simp [run, listSystem, step, advance, checking, hit, setCall, readPage, small, cache]
    | true =>
      refine .of_run [.advance i .done now, .vanish (listKey request found),
        .advance i .done now] ?_
      simp [run, listSystem, step, advance, checking, hit, setCall, readPage, small, cache]
  · cases computed : loadPage setting.sql s.tables.current request false with
    | none =>
      refine .of_run [.advance i .done now, .advance i .done now] ?_
      simp [run, listSystem, step, advance, checking, hit, setCall, load, computed, readPage,
        small, cache]
    | some page =>
      refine .of_run [.advance i .done now, .advance i .done now, .advance i .done now] ?_
      simp [run, listSystem, step, advance, checking, hit, setCall, load, computed, setPage,
        readPage, small, cache]

theorem answers_getQuestionsByPage (s : ListState ι Time) (i : ι) (now : Time)
    (request : ListRequest) (expires : Bool) (idle : s.calls i = .idle) :
    Answers setting table version pages s i request
      (s.cache.getQuestionsByPage setting s.tables.current expires request) := by
  cases known : s.version with
  | some found =>
    have ran : (listSystem ι setting table version pages).run s
        [.read i ⟨request, false⟩, .advance i .done now] =
          some (s.setCall i (enter ⟨request, false⟩ found)) := by
      simp [run, listSystem, step, start, advance, idle, setCall, known]
    obtain ⟨t, reached, result⟩ := answers_readPage setting table version pages
      (s.setCall i (enter ⟨request, false⟩ found)) i now request found expires (by simp [setCall])
    refine ⟨t, (run_reaches ran).trans reached, ?_⟩
    simpa [getQuestionsByPage, getListVersion, cache, known, setCall] using result
  | none =>
    have ran : (listSystem ι setting table version pages).run s
        [.read i ⟨request, false⟩, .advance i .done now, .advance i .done now] =
          some ((s.reach 1).setCall i (enter ⟨request, false⟩ 1)) := by
      simp [run, listSystem, step, start, advance, idle, setCall, known, setVersion, reach]
    obtain ⟨t, reached, result⟩ := answers_readPage setting table version pages
      ((s.reach 1).setCall i (enter ⟨request, false⟩ 1)) i
      now request 1 expires (by simp [setCall])
    refine ⟨t, (run_reaches ran).trans reached, ?_⟩
    simpa [getQuestionsByPage, getListVersion, cache, known, setCall, reach] using result

end ListState

/-! ## Two calls -/

def NoneMatches (sql : Sql Time) (table : List (Question Time)) (query : QuestionQuery) : Prop :=
  ∀ q ∈ table, buildQuestionQuery sql query true q = false

variable {request : ListRequest} {page : Page Time} {sql : Sql Time} {includeHidden : Bool}

theorem noneMatches_iff {table : List (Question Time)}
    (computed : loadPage sql table request false = some page) :
    NoneMatches sql table request.query ↔ page.totalCount = 0 := by
  rw [totalCount_of_loadPage computed, length_eq_zero_iff, filter_eq_nil_iff]
  simp [NoneMatches]

theorem safePage_sub_one_le (page : Int) (last : Nat) :
    (safePage page (last + 1) - 1).toNat ≤ last := by
  unfold safePage
  omega

theorem questions_ne_nil {table : List (Question Time)}
    (sized : 0 < request.size) (computed : loadPage sql table request includeHidden = some page)
    (some_match : page.totalCount ≠ 0) : page.questions ≠ [] := by
  have total := totalCount_of_loadPage computed
  set rows := table.filter (buildQuestionQuery sql request.query !includeHidden) with rows_eq
  unfold loadPage at computed
  obtain ⟨-, computed⟩ := Option.ite_none_left_eq_some.mp computed
  rw [← rows_eq, if_neg (by omega)] at computed
  cases computed
  set size := request.size.toNat with size_eq
  set pages := (rows.length - 1) / size + 1 with pages_eq
  have size_pos : 0 < size := by omega
  have last_page : (safePage request.page pages - 1).toNat ≤ (rows.length - 1) / size :=
    safePage_sub_one_le _ _
  have offset : (safePage request.page pages - 1).toNat * size ≤ rows.length - 1 :=
    (Nat.mul_le_mul_right size last_page).trans (Nat.div_mul_le_self _ _)
  intro empty
  have lengths := congrArg length empty
  simp only [length_take, length_drop, length_nil, (sql.perm_inOrder rows).length_eq] at lengths
  omega

theorem exists_remains_ne (times : Times Time) (q : Question Time) :
    ∃ remains : Remains Time, ∀ item, toProto times (remains.question item) ≠ toProto times q := by
  by_cases zero : legacyMemoryLimitMb q.memoryLimit.toInt = 0
  · refine ⟨⟨q.createTime, q.updateTime, q.cpuLimit, 1⟩, fun item same => ?_⟩
    have limits := congrArg (·.memoryLimitMb) same
    simp only [toProto, Remains.question, zero] at limits
    exact absurd limits (by decide)
  · refine ⟨⟨q.createTime, q.updateTime, q.cpuLimit, 0⟩, fun item same => ?_⟩
    exact zero (congrArg (·.memoryLimitMb) same).symm

namespace ListCache

variable {setting : ListSetting Time} {table : List (Question Time)}

@[simp]
theorem getListVersion_getListVersion (cache : ListCache) :
    cache.getListVersion.2.getListVersion = cache.getListVersion := by
  cases known : cache.version <;> simp [getListVersion, known]

@[simp]
theorem pages_getListVersion (cache : ListCache) : cache.getListVersion.2.pages = cache.pages := by
  unfold getListVersion
  split <;> rfl

@[simp]
theorem getListVersion_readPage (cache : ListCache) (expires : Bool) (request : ListRequest)
    (found : Nat) :
    (cache.readPage setting table expires request found).2.getListVersion.1 =
      cache.getListVersion.1 := by
  have same : (cache.readPage setting table expires request found).2.version = cache.version := by
    simp only [readPage]
    split
    · rfl
    split
    · rfl
    · cases loadPage setting.sql table request false <;> rfl
  unfold getListVersion
  rw [same]
  split <;> rfl

variable {found : Nat} {cache : ListCache}

theorem loaded_of_fills {expires : Bool} {request : ListRequest} (sized : 0 < request.size)
    (misses : cache.pages (listKey request found) = none)
    (fills : ((cache.readPage setting table expires request found).2.pages
      (listKey request found)).isSome) :
    ∃ page, loadPage setting.sql table request false = some page ∧
      (cache.readPage setting table expires request found).1 = .loaded page ∧
      (cache.readPage setting table expires request found).2.pages (listKey request found) =
        some (setting.entryOf request found page) := by
  have large : ¬ request.size ≤ 0 := by omega
  cases computed : loadPage setting.sql table request false with
  | none => simp [readPage, large, misses, computed] at fills
  | some page =>
    refine ⟨page, rfl, by simp [readPage, large, misses, computed], ?_⟩
    simp only [readPage, large, misses, computed, Function.update_apply, if_false,
      Option.isSome_none, Bool.false_eq_true] at fills ⊢
    split at fills
    · rw [if_pos ‹_›]
    · cases fills

theorem readPage_of_hit {request : ListRequest} {entry : Bytes} (sized : 0 < request.size)
    (hit : cache.pages (listKey request found) = some entry) (expires : Bool) :
    (cache.readPage setting table expires request found).1 =
      if expires then .blank else pageOf setting (some entry) := by
  have large : ¬ request.size ≤ 0 := by omega
  cases expires <;> simp [readPage, large, hit, pageOf]

end ListCache

variable {input : GetQuestionListRequest} {answer : ListAnswer Time}

theorem totalItems_response {times : Times Time} {remains remains' : Nat → Remains Time}
    {answer' : ListAnswer Time} {total total' : Nat} {questions questions' : List (Question Time)}
    (result : answer.result remains = some (total, questions))
    (result' : answer'.result remains' = some (total', questions'))
    (same : answer.response times input remains = answer'.response times input remains')
    (small : total < 2 ^ 64) (small' : total' < 2 ^ 64) :
    total = total' ∧ questions.map (toProto times) = questions'.map (toProto times) := by
  simp only [ListAnswer.response, result, result', GetQuestionListResponse.mk.injEq,
    Option.some.injEq, true_and] at same
  refine ⟨?_, same.2⟩
  have items : UInt64.ofNat total = UInt64.ofNat total' :=
    congrArg PageResponse.totalItems same.1
  have values := congrArg UInt64.toNat items
  rwa [UInt64.toNat_ofNat_of_lt' small, UInt64.toNat_ofNat_of_lt' small'] at values

variable {table : List (Question Time)}

theorem eq_empty_of_totalCount_eq_zero
    (computed : loadPage sql table request includeHidden = some page)
    (none_match : page.totalCount = 0) : page = ⟨0, 0, []⟩ := by
  have total := totalCount_of_loadPage computed
  unfold loadPage at computed
  obtain ⟨-, computed⟩ := Option.ite_none_left_eq_some.mp computed
  rw [if_pos (total.symm.trans none_match)] at computed
  exact (Option.some.inj computed).symm

/-- A response from the cache is the one that was computed only where both are empty, whatever
texts have come back. -/
theorem response_cached_iff {setting : ListSetting Time}
    (computed : loadPage setting.sql table input.listRequest false = some page)
    (reread : answer = .blank ∨
      ∃ other, answer = .cached other ∧ (page.totalCount = 0 → other = page.listed))
    (remains : Nat → Remains Time) :
    (∀ later, answer.response setting.times input later =
        (ListAnswer.loaded page).response setting.times input remains) ↔
      page.totalCount = 0 := by
  have bound := (counts_of_loadPage computed).1
  constructor
  · intro unchanged
    by_contra some_match
    rcases reread with rfl | ⟨other, rfl, -⟩
    · have whole := totalItems_response rfl rfl (unchanged remains) (by decide) (by omega)
      exact some_match whole.1.symm
    obtain ⟨q, rest, shown⟩ := exists_cons_of_ne_nil
      (questions_ne_nil input.size_pos computed some_match)
    obtain ⟨memory, differs⟩ := exists_remains_ne setting.times q
    have same := unchanged fun _ => memory
    simp only [ListAnswer.response, ListAnswer.result, GetQuestionListResponse.mk.injEq, shown,
      map_cons] at same
    obtain ⟨-, -, questions⟩ := same
    cases listed : other.questions with
    | nil => simp [listed] at questions
    | cons item items =>
      rw [listed, mapIdx_cons, map_cons] at questions
      exact differs _ (cons.inj questions).1
  · intro none_match later
    cases eq_empty_of_totalCount_eq_zero computed none_match
    rcases reread with rfl | ⟨other, rfl, listed⟩
    · rfl
    · rw [listed rfl]
      rfl

/-- **Two calls with the same request**, with the table as it is: the second response is the first
one for certain exactly if no question matches. -/
theorem response_unchanged_iff {setting : ListSetting Time} (faithful : setting.json.Faithful)
    (table : List (Question Time)) (cache : ListCache) (input : GetQuestionListRequest)
    (remains : Nat → Remains Time)
    (misses : cache.pages (cache.key input.listRequest) = none)
    (fills : ((cache.listQuestions setting table false remains input).2.pages
      (cache.key input.listRequest)).isSome) (expires : Bool) :
    (∀ later,
      ((cache.listQuestions setting table false remains input).2.listQuestions setting table expires
        later input).1 = (cache.listQuestions setting table false remains input).1) ↔
      NoneMatches setting.sql table input.listRequest.query := by
  have missed : cache.getListVersion.2.pages (cache.key input.listRequest) = none := by
    rw [pages_getListVersion]
    exact misses
  have filled : ((cache.getListVersion.2.readPage setting table false input.listRequest
      cache.getListVersion.1).2.pages (cache.key input.listRequest)).isSome := fills
  obtain ⟨page, computed, first, entry⟩ := loaded_of_fills input.size_pos missed filled
  set answer := ((cache.listQuestions setting table false remains input).2.getQuestionsByPage
    setting table expires input.listRequest).1 with answer_eq
  have second : answer = if expires then .blank else pageOf setting
      (some (setting.entryOf input.listRequest cache.getListVersion.1 page)) := by
    refine readPage_of_hit input.size_pos ?_ expires
    simpa [listQuestions, getQuestionsByPage] using entry
  have reread : answer = .blank ∨
      ∃ other, answer = .cached other ∧ (page.totalCount = 0 → other = page.listed) := by
    rw [second]
    cases expires with
    | true => exact Or.inl rfl
    | false =>
      rw [if_neg Bool.false_ne_true, pageOf]
      split
      · rename_i other read
        refine Or.inr ⟨other, rfl, fun none_match => ?_⟩
        -- A page without questions has no texts that could be replaced.
        have textual : ∀ q ∈ page.questions, q.textual = true := by
          rw [eq_empty_of_totalCount_eq_zero computed none_match]
          exact fun _ none => by cases none
        have back := listedPage_write faithful computed textual
          (storedRequest input.listRequest page) cache.getListVersion.1
        exact Option.some.inj (read.symm.trans back)
      · exact Or.inl rfl
  have response : (cache.listQuestions setting table false remains input).1 =
      (ListAnswer.loaded page).response setting.times input remains :=
    congrArg (ListAnswer.response setting.times input remains) first
  rw [noneMatches_iff computed, ← response_cached_iff computed reread remains, response]
  rfl

/-! ## One question -/

def described : Question Unit where
  id := [49]
  title := [65]
  desc := [66]
  star := []
  createTime := ()
  updateTime := ()
  cpuLimit := 1
  memoryLimit := 64

theorem perm_asStored : ∀ rows : List (Question Unit), (id rows).Perm rows := List.Perm.refl

/-- `LIKE` finds every title, which is right for the empty search. -/
def describedSetting : ListSetting Unit where
  sql := {
    equals := fun a b => a = b
    like := fun _ _ => true
    inOrder := id
    perm_inOrder := perm_asStored }
  times := { column := id, dateTimeToInt := fun _ => .ofNat 0, intToDateTime := fun _ => () }
  json := countedJson

def noPages : ListCache := ⟨none, fun _ => none⟩

def describedRemains : Remains Unit := ⟨(), (), 1, 64⟩

/-- The second response lacks the description, or the question. -/
theorem description_lost :
    (noPages.pages (noPages.key ({} : GetQuestionListRequest).listRequest) = none ∧
      ((noPages.listQuestions describedSetting [described] false
        (fun _ => describedRemains) {}).2.pages
          (noPages.key ({} : GetQuestionListRequest).listRequest)).isSome) ∧
    ∀ expires,
      ((noPages.listQuestions describedSetting [described] false (fun _ => describedRemains)
        {}).2.listQuestions describedSetting [described] expires (fun _ => describedRemains) {}).1 ≠
        (noPages.listQuestions describedSetting [described] false
          (fun _ => describedRemains) {}).1 := by
  decide +kernel

def hiddenTable : List (Question Unit) := [{ described with visible := false }]

theorem noneMatches_hiddenTable :
    NoneMatches describedSetting.sql hiddenTable
      ({} : GetQuestionListRequest).listRequest.query := by
  intro q mem
  cases mem_singleton.mp mem
  decide +kernel

theorem response_unchanged_of_hidden :
    NoneMatches describedSetting.sql hiddenTable ({} : GetQuestionListRequest).listRequest.query ∧
    ∀ expires later,
      ((noPages.listQuestions describedSetting hiddenTable false (fun _ => describedRemains)
        {}).2.listQuestions describedSetting hiddenTable expires later {}).1 =
        (noPages.listQuestions describedSetting hiddenTable false
          (fun _ => describedRemains) {}).1 :=
  ⟨noneMatches_hiddenTable, fun expires =>
    (response_unchanged_iff countedJson_faithful hiddenTable noPages {}
      (fun _ => describedRemains) (by decide +kernel) (by decide +kernel) expires).mpr
      noneMatches_hiddenTable⟩

end OnlineJudge.Questions
