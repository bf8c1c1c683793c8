import OnlineJudge.Questions.ListResponses

/-!
# The page that a list response describes

`ListQuestions` reduces the page to 1000000, `GetQuestionsByPage` to the number of pages, and
`SetPage` (`proto_adapter.hpp`) writes it into the response as it is.
-/

namespace OnlineJudge.Questions

open List

variable {Time : Type}

section Pages

variable {α β : Type}

/-- The elements at the positions `(page - 1) * size + 1` up to `page * size`. -/
def pageAt (xs : List α) (page size : Nat) : List α := (xs.drop ((page - 1) * size)).take size

theorem pageAt_map (f : α → β) (xs : List α) (page size : Nat) :
    pageAt (xs.map f) page size = (pageAt xs page size).map f := by
  rw [pageAt, pageAt, map_take, map_drop]

theorem head?_pageAt (xs : List α) (page : Nat) {size : Nat} (sized : 0 < size) :
    (pageAt xs page size).head? = xs[(page - 1) * size]? := by
  rw [pageAt, head?_take, if_neg (by omega), head?_drop]

theorem eq_of_pageAt_eq {xs : List α} (distinct : xs.Nodup) {page page' size : Nat}
    (sized : 0 < size) (counted : 1 ≤ page) (counted' : 1 ≤ page')
    (inside : (page - 1) * size < xs.length)
    (same : pageAt xs page size = pageAt xs page' size) : page = page' := by
  have heads : xs[(page - 1) * size]? = xs[(page' - 1) * size]? := by
    rw [← head?_pageAt xs page sized, ← head?_pageAt xs page' sized, same]
  have starts := (getElem?_inj inside distinct).mp heads
  have := Nat.eq_of_mul_eq_mul_right sized starts
  omega

end Pages

def listedQuestions (sql : Sql Time) (table : List (Question Time)) (query : QuestionQuery) :
    List (Question Time) :=
  sql.inOrder (table.filter (buildQuestionQuery sql query true))

variable {sql : Sql Time} {table : List (Question Time)}

theorem length_listedQuestions (sql : Sql Time) (table : List (Question Time))
    (query : QuestionQuery) :
    (listedQuestions sql table query).length =
      (table.filter (buildQuestionQuery sql query true)).length :=
  (sql.perm_inOrder _).length_eq

theorem questions_of_loadPage {request : ListRequest} {page : Page Time}
    (computed : loadPage sql table request false = some page)
    (some_match : listedQuestions sql table request.query ≠ []) :
    page.questions = pageAt (listedQuestions sql table request.query)
      (safePage request.page
        (((listedQuestions sql table request.query).length - 1) / request.size.toNat + 1)).toNat
      request.size.toNat := by
  have total := length_listedQuestions sql table request.query
  have rows : (listedQuestions sql table request.query).length ≠ 0 :=
    fun empty => some_match (eq_nil_of_length_eq_zero empty)
  unfold loadPage at computed
  obtain ⟨-, computed⟩ := Option.ite_none_left_eq_some.mp computed
  rw [Bool.not_false, ← total, if_neg rows] at computed
  cases computed
  rw [pageAt, Int.pred_toNat]
  rfl

theorem safePage_eq_iff {total size number : Nat} (sized : 0 < size) (some_match : 0 < total)
    (counted : 1 ≤ number) :
    (safePage (min number 1000000 : Nat) ((total - 1) / size + 1)).toNat = number ↔
      number ≤ 1000000 ∧ (number - 1) * size < total := by
  have last : number - 1 ≤ (total - 1) / size ↔ (number - 1) * size < total := by
    rw [Nat.le_div_iff_mul_le sized]
    omega
  rw [← last, safePage]
  generalize (total - 1) / size = pages
  omega

theorem safePage_inside {total size : Nat} (page : Int) (some_match : 0 < total) :
    ((safePage page ((total - 1) / size + 1)).toNat - 1) * size < total := by
  have last := safePage_sub_one_le page ((total - 1) / size)
  rw [Int.pred_toNat] at last
  have offset := (Nat.mul_le_mul_right size last).trans (Nat.div_mul_le_self _ _)
  omega

variable (request : PageRequest)

theorem number_pos : 1 ≤ request.number := by
  unfold PageRequest.number
  split
  · exact le_rfl
  · rename_i asked
    exact Nat.one_le_iff_ne_zero.mpr fun zero => asked (UInt32.toNat_inj.mp zero)

theorem page_setPage (totalItems : Nat) :
    (request.setPage totalItems 20 100).page.toNat = request.number := by
  simp only [PageRequest.setPage, PageRequest.number]
  split <;> rfl

theorem GetQuestionListRequest.page_listRequest (input : GetQuestionListRequest) :
    input.listRequest.page = (min input.page.number 1000000 : Nat) := by
  simp only [listRequest, PageRequest.number]
  split <;> rfl

theorem GetQuestionListRequest.pageSize_setPage (input : GetQuestionListRequest)
    (totalItems : Nat) :
    (input.page.setPage totalItems 20 100).pageSize.toNat = input.listRequest.size.toNat := by
  simp only [PageRequest.setPage, listRequest]
  have size := input.size_pos
  simp only [listRequest] at size
  rw [UInt32.toNat_ofNat_of_lt' (by simp only [UInt32.size]; omega)]
  split
  · rfl
  rename_i sized
  rw [if_neg sized] at size
  omega

theorem lt_totalPages_setPage {totalItems : Nat} (bound : totalItems ≤ 2147483647) (page : Nat) :
    page < (request.setPage totalItems 20 100).totalPages.toNat ↔
      page * (request.setPage totalItems 20 100).pageSize.toNat < totalItems := by
  simp only [PageRequest.setPage]
  generalize sized : max 1 (min (if request.pageSize = 0 then 20 else request.pageSize.toNat)
    (max 1 100)) = size
  have size_pos : 0 < size := by omega
  rw [UInt32.toNat_ofNat_of_lt' (by simp only [UInt32.size]; omega)]
  split
  case isTrue none_match => simp [none_match]
  case isFalse some_match =>
    have pages : (totalItems + size - 1) / size ≤ totalItems := by
      rw [Nat.div_le_iff_le_mul_add_pred size_pos]
      have := Nat.le_mul_of_pos_left totalItems size_pos
      omega
    rw [UInt32.toNat_ofNat_of_lt' (by simp only [UInt32.size]; omega), min_eq_left (by omega),
      ← Nat.add_one_le_iff, Nat.le_div_iff_mul_le size_pos, Nat.add_mul, Nat.one_mul]
    omega

theorem nodup_toProto
    (distinct : (table.map (·.id)).Nodup) (query : QuestionQuery) (times : Times Time) :
    ((listedQuestions sql table query).map (toProto times)).Nodup := by
  have rows : ((table.filter (buildQuestionQuery sql query true)).map (·.id)).Nodup :=
    distinct.sublist (filter_sublist.map _)
  have ids : ((listedQuestions sql table query).map (·.id)).Nodup :=
    ((sql.perm_inOrder _).map (·.id)).nodup_iff.mpr rows
  refine List.Nodup.of_map (fun message : ListedMessage => message.id) ?_
  rw [map_map]
  exact ids

def GetQuestionListResponse.Honest (times : Times Time) (listed : List (Question Time))
    (response : GetQuestionListResponse) (page : PageResponse) : Prop :=
  response.questions =
      (pageAt listed page.page.toNat page.pageSize.toNat).map (toProto times) ∧
    ∀ k, k < page.totalPages.toNat ↔ k * page.pageSize.toNat < listed.length

theorem ListCache.listQuestions_of_misses {setting : ListSetting Time} {cache : ListCache}
    {input : GetQuestionListRequest} {expires : Bool} {remains : Nat → Remains Time}
    (misses : cache.pages (cache.key input.listRequest) = none) {described : PageResponse}
    (answered : (cache.listQuestions setting table expires remains input).1.page = some described) :
    ∃ page, loadPage setting.sql table input.listRequest false = some page ∧
      (cache.listQuestions setting table expires remains input).1 =
        (ListAnswer.loaded page).response setting.times input remains := by
  have large : ¬ input.listRequest.size ≤ 0 := not_le.mpr input.size_pos
  have missed : cache.getListVersion.2.pages
      (listKey input.listRequest cache.getListVersion.1) = none := by
    rw [pages_getListVersion]
    exact misses
  cases computed : loadPage setting.sql table input.listRequest false with
  | none =>
    simp [listQuestions, getQuestionsByPage, readPage, large, missed, computed,
      ListAnswer.response, ListAnswer.result] at answered
  | some page =>
    exact ⟨page, rfl, by
      simp [listQuestions, getQuestionsByPage, readPage, large, missed, computed]⟩

/-- **Responses from the database** have the page that they describe exactly if no question matches,
or the page is one of the list and at most the 1000000th. -/
theorem response_honest_iff {setting : ListSetting Time}
    {table : List (Question Time)} (distinct : (table.map (·.id)).Nodup) (cache : ListCache)
    (input : GetQuestionListRequest) (expires : Bool) (remains : Nat → Remains Time)
    (misses : cache.pages (cache.key input.listRequest) = none) (described : PageResponse)
    (answered : (cache.listQuestions setting table expires remains input).1.page = some described) :
    (cache.listQuestions setting table expires remains input).1.Honest setting.times
        (listedQuestions setting.sql table input.listRequest.query) described ↔
      NoneMatches setting.sql table input.listRequest.query ∨
        input.page.number ≤ 1000000 ∧
          (input.page.number - 1) * input.listRequest.size.toNat <
            (listedQuestions setting.sql table input.listRequest.query).length := by
  obtain ⟨page, computed, response⟩ := ListCache.listQuestions_of_misses misses answered
  have total : page.totalCount =
      (listedQuestions setting.sql table input.listRequest.query).length := by
    rw [totalCount_of_loadPage computed, length_listedQuestions]
    rfl
  obtain rfl : input.page.setPage page.totalCount 20 100 = described := by
    rw [response] at answered
    exact Option.some.inj answered
  have pages := lt_totalPages_setPage input.page (counts_of_loadPage computed).1
  rw [total] at pages
  have shown : (cache.listQuestions setting table expires remains input).1.questions =
      page.questions.map (toProto setting.times) := by
    rw [response]
    rfl
  rw [GetQuestionListResponse.Honest, shown, total, and_iff_left pages, page_setPage,
    input.pageSize_setPage, noneMatches_iff computed, total]
  rcases Nat.eq_zero_or_pos
    (listedQuestions setting.sql table input.listRequest.query).length with none_match | some_match
  · have empty := eq_nil_of_length_eq_zero none_match
    rw [eq_empty_of_totalCount_eq_zero computed (total.trans none_match), empty]
    simp [pageAt]
  have nonempty := ne_nil_of_length_pos some_match
  have sized : 0 < input.listRequest.size.toNat := by
    have := input.size_pos
    omega
  rw [questions_of_loadPage computed nonempty, ← pageAt_map, ← pageAt_map,
    input.page_listRequest, ← safePage_eq_iff sized some_match (number_pos input.page),
    or_iff_right (by omega)]
  constructor
  · refine eq_of_pageAt_eq (nodup_toProto distinct _ _) sized ?_ (number_pos input.page) ?_
    · unfold safePage
      omega
    · rw [length_map]
      exact safePage_inside _ some_match
  · intro same
    rw [same]

def others : List (Question Unit) :=
  [described, { described with id := [50] }, { described with id := [51], visible := false },
    { described with id := [52] }]

/-- The second page of two, with two questions on a page. -/
def lastPage : GetQuestionListRequest where
  page := { page := 2, pageSize := 2 }

theorem response_honest_of_last_page :
    (noPages.listQuestions describedSetting others false
      (fun _ => describedRemains) lastPage).1.Honest describedSetting.times
        (listedQuestions describedSetting.sql others lastPage.listRequest.query) ⟨3, 2, 2, 2⟩ ∧
    (noPages.listQuestions describedSetting others false
      (fun _ => describedRemains) lastPage).1.questions =
        [toProto describedSetting.times { described with id := [52] }] :=
  ⟨(response_honest_iff (by decide) noPages lastPage false
    (fun _ => describedRemains) (by decide +kernel) ⟨3, 2, 2, 2⟩ (by decide +kernel)).mpr
      (.inr (by decide +kernel)), by decide +kernel⟩

def secondPage : GetQuestionListRequest where
  page := { page := 2 }

/-- The response says that it is the second page of one, and has the question of the first. -/
theorem response_of_second_page :
    (noPages.listQuestions describedSetting [described] false
      (fun _ => describedRemains) secondPage).1.page = some ⟨1, 2, 20, 1⟩ ∧
    (noPages.listQuestions describedSetting [described] false
      (fun _ => describedRemains) secondPage).1.questions =
        [toProto describedSetting.times described] ∧
    pageAt (listedQuestions describedSetting.sql [described] secondPage.listRequest.query) 2 20 =
      [] := by
  decide +kernel

end OnlineJudge.Questions
