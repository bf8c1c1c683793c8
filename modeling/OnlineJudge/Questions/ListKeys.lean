import OnlineJudge.Questions.ListResponses

/-!
# The keys of the list cache

`QuestionQuery::ToString` (`comm.hpp`) joins the title and the difficulty of a query by the word
`,star:`, which a user may also type.
-/

namespace OnlineJudge.Questions

open Submissions (trim isSpace)

theorem trim_trim (s : Bytes) : trim (trim s) = trim s := by
  have front : (trim s).dropWhile isSpace = trim s := by
    cases trimmed : trim s with
    | nil => rfl
    | cons byte rest =>
      obtain ⟨after, whole⟩ := List.rdropWhile_prefix isSpace (s.dropWhile isSpace)
      have stays := List.head?_dropWhile_not isSpace s
      rw [← whole, show (s.dropWhile isSpace).rdropWhile isSpace = byte :: rest from trimmed]
        at stays
      exact List.dropWhile_cons_of_neg (Bool.eq_false_iff.mp stays)
  have back : (trim s).rdropWhile isSpace = trim s := List.rdropWhile_idempotent _ _
  calc
    trim (trim s) = ((trim s).dropWhile isSpace).rdropWhile isSpace := rfl
    _ = trim s := by rw [front, back]

theorem GetQuestionListRequest.listRequest_query (input : GetQuestionListRequest) :
    input.listRequest.query =
      { title := input.query.title, star := lowerAscii input.query.star } := by
  simp only [listRequest, normalizeQuestionQuery, query, trim_trim]
  rfl

def QuestionQuery.RunsInto (q q' : QuestionQuery) : Prop :=
  ∃ between, q.title = q'.title ++ text ",star:" ++ between ∧
    lowerAscii q'.star = between ++ text ",star:" ++ lowerAscii q.star

def QuestionQuery.Confused (q q' : QuestionQuery) : Prop :=
  (q.title = q'.title ∧ q.star ≠ q'.star ∧ lowerAscii q.star = lowerAscii q'.star) ∨
    q.RunsInto q' ∨ q'.RunsInto q

theorem QuestionQuery.title_ne_of_runsInto {q q' : QuestionQuery} (into : q.RunsInto q') :
    q.title ≠ q'.title := by
  obtain ⟨between, titles, -⟩ := into
  intro same
  have lengths := congrArg List.length (same ▸ titles)
  have word : (text ",star:").length = 6 := by decide +kernel
  simp only [List.length_append, word] at lengths
  omega

theorem star_word : text ",star:" = 44 :: [115, 116, 97, 114, 58] := by decide +kernel

theorem toText_listRequest_eq_iff (input input' : GetQuestionListRequest) :
    input.listRequest.query.toText = input'.listRequest.query.toText ↔
      (input.query.title = input'.query.title ∧ input.query.star = input'.query.star) ∨
        input.query.Confused input'.query := by
  have texts : ∀ q : QuestionQuery, q.id = [] →
      q.toText = text "id:" ++ text ",title:" ++ (q.title ++ text ",star:" ++ q.star) := by
    intro q none
    simp [QuestionQuery.toText, none]
  rw [texts _ (by rw [input.listRequest_query]), texts _ (by rw [input'.listRequest_query]),
    List.append_cancel_left_eq, input.listRequest_query, input'.listRequest_query]
  simp only [QuestionQuery.Confused, QuestionQuery.RunsInto, star_word]
  rw [Separators.append_word_eq_iff (by decide)]
  constructor
  · rintro (⟨titles, stars⟩ | into)
    · by_cases same : input.query.star = input'.query.star
      · exact .inl ⟨titles, same⟩
      · exact .inr (.inl ⟨titles, same, stars⟩)
    · exact .inr (.inr into)
  · rintro (⟨titles, stars⟩ | ⟨titles, -, stars⟩ | into)
    · exact .inl ⟨titles, congrArg lowerAscii stars⟩
    · exact .inl ⟨titles, stars⟩
    · exact .inr into

theorem listKey_eq_iff {request request' : ListRequest} {version version' : Nat} :
    listKey request version = listKey request' version' ↔
      SameKey request request' ∧ version = version' := by
  constructor
  · exact listKey_injective
  · rintro ⟨⟨queries, pages, sizes⟩, rfl⟩
    rw [listKey, listKey, queries, pages, sizes]

/-- The keys of different requests are different, unless page, size and version agree and the
queries are confused. -/
theorem listKey_differs_iff (input input' : GetQuestionListRequest) (version version' : Nat) :
    (¬ (input.query.title = input'.query.title ∧ input.query.star = input'.query.star ∧
          input.listRequest.page = input'.listRequest.page ∧
          input.listRequest.size = input'.listRequest.size ∧ version = version') →
        listKey input.listRequest version ≠ listKey input'.listRequest version') ↔
      ¬ (input.listRequest.page = input'.listRequest.page ∧
          input.listRequest.size = input'.listRequest.size ∧ version = version' ∧
          input.query.Confused input'.query) := by
  rw [ne_eq, listKey_eq_iff, SameKey, toText_listRequest_eq_iff]
  have apart : input.query.Confused input'.query →
      ¬ (input.query.title = input'.query.title ∧ input.query.star = input'.query.star) := by
    rintro (⟨-, stars, -⟩ | into | into) ⟨titles, stars'⟩
    · exact stars stars'
    · exact QuestionQuery.title_ne_of_runsInto into titles
    · exact QuestionQuery.title_ne_of_runsInto into titles.symm
  tauto

/-- A search for `a,star:b` among the questions of difficulty `c`. -/
def wordInSearch : GetQuestionListRequest where
  search := text "a,star:b"
  difficulty := text "c"

/-- A search for `a` among the questions of difficulty `b,star:c`. -/
def wordInDifficulty : GetQuestionListRequest where
  search := text "a"
  difficulty := text "b,star:c"

theorem listKey_of_word_in_search :
    wordInSearch.query.title ≠ wordInDifficulty.query.title ∧
      listKey wordInSearch.listRequest 1 = listKey wordInDifficulty.listRequest 1 := by
  decide +kernel

end OnlineJudge.Questions
