import OnlineJudge.Questions.Question

/-!
# Pages of the list of questions

The page that `GetQuestionsByPage` (`model_question.hpp`) computes from the table, and the key under
which `SetQuestionsByPage` (`oj_cache.hpp`) keeps it.
-/

namespace OnlineJudge.Questions

open Scalar

variable {Time : Type}

structure QuestionQuery where
  id : Bytes := []
  title : Bytes := []
  star : Bytes := []
  deriving DecidableEq

def QuestionQuery.toText (q : QuestionQuery) : Bytes :=
  text "id:" ++ q.id ++ text ",title:" ++ q.title ++ text ",star:" ++ q.star

theorem QuestionQuery.eq_empty_of_toText {q : QuestionQuery}
    (same : q.toText = toText {}) : q = {} := by
  have lengths := congrArg List.length same
  simp only [toText, List.length_append, List.length_nil] at lengths
  obtain ⟨id, title, star⟩ : q.id = [] ∧ q.title = [] ∧ q.star = [] := by
    refine ⟨?_, ?_, ?_⟩ <;> refine List.eq_nil_of_length_eq_zero ?_ <;> omega
  cases q
  simp_all

/-- The comparisons of the database: `=` and `LIKE` under the collation of a column, and
`ORDER BY CAST(id AS UNSIGNED) ASC, id ASC`. -/
structure Sql (Time : Type) where
  equals : Bytes → Bytes → Bool
  like : Bytes → Bytes → Bool
  inOrder : List (Question Time) → List (Question Time)
  perm_inOrder : ∀ rows, (inOrder rows).Perm rows

def difficultyOf (star : Bytes) : Bytes :=
  if star = text "simple" then text "简单"
  else if star = text "medium" then text "中等"
  else if star = text "hard" then text "困难"
  else star

def buildQuestionQuery (sql : Sql Time) (q : QuestionQuery) (visibleOnly : Bool)
    (row : Question Time) : Bool :=
  let hasId := sql.equals row.id q.id
  let hasTitle := sql.like row.title (text "%" ++ q.title ++ text "%")
  let difficulty := difficultyOf q.star
  (!visibleOnly || row.visible) &&
    (if !q.id.isEmpty && !q.title.isEmpty && q.id = q.title && isValidQuestionId q.id then
      hasId || hasTitle
    else (q.id.isEmpty || hasId) && (q.title.isEmpty || hasTitle)) &&
    (q.star.isEmpty || difficulty = text "all" || difficulty = text "ALL" ||
      difficulty = text "全部" || sql.equals row.star difficulty)

structure ListRequest where
  query : QuestionQuery := {}
  page : Int := 1
  size : Int := 20
  deriving DecidableEq

/-- `*total_count`, `*total_pages` and `questions`. -/
structure Page (Time : Type) where
  totalCount : Nat
  totalPages : Nat
  questions : List (Question Time)
  deriving DecidableEq

def safePage (page : Int) (totalPages : Nat) : Int := max 1 (min page totalPages)

/-- The transaction of `GetQuestionsByPage`; `none` where it returns `false`. -/
def loadPage (sql : Sql Time) (table : List (Question Time)) (request : ListRequest)
    (includeHidden : Bool) : Option (Page Time) :=
  let rows := table.filter (buildQuestionQuery sql request.query !includeHidden)
  let totalCount := rows.length
  if totalCount > 2147483647 then none
  else if totalCount = 0 then some ⟨0, 0, []⟩
  else
    let size := request.size.toNat
    let totalPages := (totalCount - 1) / size + 1
    let offset := (safePage request.page totalPages - 1).toNat * size
    some ⟨totalCount, totalPages, ((sql.inOrder rows).drop offset).take size⟩

variable {table : List (Question Time)} {sql : Sql Time} {includeHidden : Bool} {page : Page Time}

theorem totalCount_of_loadPage {request : ListRequest}
    (computed : loadPage sql table request includeHidden = some page) :
    page.totalCount =
      (table.filter (buildQuestionQuery sql request.query !includeHidden)).length := by
  unfold loadPage at computed
  obtain ⟨-, computed⟩ := Option.ite_none_left_eq_some.mp computed
  split at computed
  · rename_i empty
    cases computed
    exact empty.symm
  · cases computed
    rfl

structure ListedQuestion where
  id : Bytes
  title : Bytes
  star : Bytes
  deriving DecidableEq

structure ListedPage where
  totalCount : Nat
  totalPages : Nat
  questions : List ListedQuestion
  deriving DecidableEq

def Page.listed (page : Page Time) : ListedPage where
  totalCount := page.totalCount
  totalPages := page.totalPages
  questions := page.questions.map fun q => ⟨q.id, q.title, q.star⟩

theorem mem_of_loadPage {request : ListRequest} {page : Page Time}
    (computed : loadPage sql table request includeHidden = some page) :
    ∀ q ∈ page.questions, q ∈ table := by
  unfold loadPage at computed
  obtain ⟨-, computed⟩ := Option.ite_none_left_eq_some.mp computed
  split at computed
  · cases computed
    exact fun _ none => by cases none
  · cases computed
    intro q mem
    have listed := List.mem_of_mem_drop (List.mem_of_mem_take mem)
    exact List.mem_of_mem_filter ((sql.perm_inOrder _).mem_iff.mp listed)

theorem counts_of_loadPage {request : ListRequest}
    (computed : loadPage sql table request includeHidden = some page) :
    page.totalCount ≤ 2147483647 ∧ page.totalPages ≤ page.totalCount := by
  unfold loadPage at computed
  obtain ⟨small, computed⟩ := Option.ite_none_left_eq_some.mp computed
  split at computed
  · cases computed
    exact ⟨Nat.zero_le _, Nat.le_refl _⟩
  · cases computed
    dsimp only
    refine ⟨Nat.le_of_not_lt small, ?_⟩
    have pages := Nat.div_le_self
      ((table.filter (buildQuestionQuery sql request.query !includeHidden)).length - 1)
      request.size.toNat
    omega

/-! ## The cached form -/

/-- An item of the array `questions`. -/
def listedItem (q : Question Time) : List (String × Scalar) :=
  [("id", .string q.id), ("title", .string q.title), ("star", .string q.star)]

/-- The document of `SetQuestionsByPage`, for the query, the page, the size and the version of the
key. -/
def questionsByPageJson (json : JsonCodec) (request : ListRequest) (version : Nat)
    (page : Page Time) : Document :=
  [("query", .scalar (.string (json.write (.flat
      [("id", .string request.query.id), ("title", .string request.query.title),
        ("star", .string request.query.star)])))),
    ("page", .scalar (.int request.page)),
    ("size", .scalar (.int request.size)),
    ("total_count", .scalar (.int page.totalCount)),
    ("total_pages", .scalar (.int page.totalPages)),
    ("questions", .array (page.questions.map listedItem)),
    ("list_version", .scalar (.string (decimal version ++ text "-visible")))]

def questionOfItem (item : List (String × Scalar)) : Option ListedQuestion := do
  let id ← (item.lookup "id").bind string?
  let title ← (item.lookup "title").bind string?
  let star ← (item.lookup "star").bind string?
  return { id, title, star }

/-- `Cache::GetQuestionsByPage` after `parseFromStream`; `none` for a document that
`SetQuestionsByPage` does not write. -/
def listedPageOfJson (root : Document) : Option ListedPage := do
  let totalCount ← root.read "total_count" (intIn? 0 2147483647)
  let totalPages ← root.read "total_pages" (intIn? 0 2147483647)
  match root.lookup "questions" with
  | some (.array items) =>
    let questions ← items.mapM questionOfItem
    return { totalCount := totalCount.toNat, totalPages := totalPages.toNat, questions }
  | _ => none

theorem questionOfItem_back {q : Question Time} (textual : q.textual = true)
    {item : List (String × Scalar)} (back : ((listedItem q).map Prod.fst).Nodup →
      ∀ name, Option.Rel Scalar.Back ((listedItem q).lookup name) (item.lookup name)) :
    questionOfItem item = some ⟨q.id, q.title, q.star⟩ := by
  simp only [Question.textual, Bool.and_eq_true] at textual
  obtain ⟨⟨⟨idText, titleText⟩, -⟩, starText⟩ := textual
  have strings {name : String} {value : Bytes} (valid : validUtf8 value = true)
      (written : (listedItem q).lookup name = some (.string value)) :
      (item.lookup name).bind string? = some value := by
    have same := back (by simp [listedItem]) name
    rw [written] at same
    generalize item.lookup name = read at same ⊢
    cases same with
    | some same => rw [same valid, Option.bind_some, string?]
  rw [questionOfItem, strings idText rfl, strings titleText rfl, strings starText rfl]
  rfl

/-- A page that was written is read as it was listed. -/
theorem listedPage_write {json : JsonCodec} (faithful : json.Faithful) {asked : ListRequest}
    (computed : loadPage sql table asked false = some page)
    (textual : ∀ q ∈ page.questions, q.textual = true) (request : ListRequest) (version : Nat) :
    (json.read (json.write (questionsByPageJson json request version page))).bind
      listedPageOfJson = some page.listed := by
  have distinct : ((questionsByPageJson json request version page).map Prod.fst).Nodup := by
    simp [questionsByPageJson]
  obtain ⟨other, read, back⟩ := faithful.back distinct
  obtain ⟨small, fewer⟩ := counts_of_loadPage computed
  have total : other.read "total_count" (intIn? 0 2147483647) = some (page.totalCount : Int) :=
    Document.read_int (back _) rfl (by omega) (by omega) (by omega) (by omega)
  have pages : other.read "total_pages" (intIn? 0 2147483647) = some (page.totalPages : Int) :=
    Document.read_int (back _) rfl (by omega) (by omega) (by omega) (by omega)
  have questions : ∃ items, other.lookup "questions" = some (.array items) ∧
      items.mapM questionOfItem = some (page.questions.map fun q => ⟨q.id, q.title, q.star⟩) := by
    have array := back "questions"
    rw [show (questionsByPageJson json request version page).lookup "questions" =
      some (.array (page.questions.map listedItem)) from rfl] at array
    generalize other.lookup "questions" = read at array ⊢
    cases array with
    | @some _ value same =>
      cases value with
      | scalar => exact same.elim
      | array items =>
        refine ⟨items, rfl, ?_⟩
        rw [Json.Back, List.forall₂_map_left_iff] at same
        generalize page.questions = rows at same textual
        induction same with
        | nil => rfl
        | @cons q item rows items first _ ih =>
          have here := questionOfItem_back (textual q List.mem_cons_self) first
          have later := ih fun q mem => textual q (List.mem_cons_of_mem _ mem)
          simp [here, later]
  obtain ⟨items, array, questions⟩ := questions
  simp [read, listedPageOfJson, total, pages, array, questions, Page.listed]

/-! ## The keys -/

variable (request : ListRequest)

/-- `CacheListKey::GetCacheKeyString` of the list of questions, for the version that
`ControlQuestion::GetQuestionsListVersion` makes from the number in Redis. -/
def listKey (version : Nat) : Bytes :=
  text "oj:prod:v3:list:question:data:" ++ request.query.toText ++ text ":" ++
    decimalInt request.page ++ text ":" ++ decimalInt request.size ++ text ":" ++
    decimal version ++ text "-visible"

/-- The request whose key the page is kept under: `write_key`, or `key` where the page is empty. -/
def storedRequest (page : Page Time) : ListRequest :=
  if page.totalCount = 0 then request
  else { request with page := safePage request.page page.totalPages }

theorem storedRequest_query (page : Page Time) :
    (storedRequest request page).query = request.query := by
  unfold storedRequest
  split <;> rfl

def SameKey (request request' : ListRequest) : Prop :=
  request.query.toText = request'.query.toText ∧ request.page = request'.page ∧
    request.size = request'.size

theorem colon_not_mem_decimalInt (n : Int) : 58 ∉ decimalInt n := by
  intro mem
  rcases byte_of_mem_decimalInt mem with sign | ⟨-, digit⟩
  · exact absurd sign (by decide)
  · exact absurd digit (by decide)

theorem colon_not_mem_decimal (n : Nat) : 58 ∉ decimal n := fun mem =>
  absurd (bounds_of_mem_decimal mem).2 (by decide)

theorem eq_of_append_colon_eq {first second rest rest' : Bytes} (plain : 58 ∉ rest)
    (plain' : 58 ∉ rest') (same : first ++ text ":" ++ rest = second ++ text ":" ++ rest') :
    first = second ∧ rest = rest' := by
  have colon : text ":" = [58] := by decide +kernel
  simp only [colon, List.append_assoc, List.singleton_append] at same
  exact eq_of_append_last_separator_eq plain plain' same

theorem listKey_injective {request request' : ListRequest} {version version' : Nat}
    (same : listKey request version = listKey request' version') :
    SameKey request request' ∧ version = version' := by
  obtain ⟨same, versions⟩ := eq_of_append_colon_eq (colon_not_mem_decimal version)
    (colon_not_mem_decimal version') (List.append_cancel_right same)
  obtain ⟨same, sizes⟩ := eq_of_append_colon_eq (colon_not_mem_decimalInt request.size)
    (colon_not_mem_decimalInt request'.size) same
  obtain ⟨queries, pages⟩ := eq_of_append_colon_eq (colon_not_mem_decimalInt request.page)
    (colon_not_mem_decimalInt request'.page) same
  exact ⟨⟨List.append_cancel_left queries, decimalInt_injective pages, decimalInt_injective sizes⟩,
    decimal_injective versions⟩

end OnlineJudge.Questions
