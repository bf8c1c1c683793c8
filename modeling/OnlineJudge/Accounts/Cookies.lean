import OnlineJudge.Common.Decimal
import OnlineJudge.Library.Separators

/-!
# The session cookie

`SessionManager::ParseCookie` (`oj_session.hpp`) and `SessionAdapter::CookieValue`
(`session_adapter.hpp`) look for one session id, but trim the items of the header differently.
-/

namespace OnlineJudge.Accounts

open Option List Separators

def sessionCookieName : Bytes := text "oj_session_id"

/-- `find('=')`, and what stands before and after it. -/
def cutAtEquals (item : Bytes) : Option (Bytes × Bytes) :=
  if 61 ∈ item then some (item.takeWhile (· ≠ 61), (item.dropWhile (· ≠ 61)).tail) else none

def namedValue (name item : Bytes) : Option Bytes :=
  match cutAtEquals item with
  | some (itemName, value) => if itemName = name then some value else none
  | none => none

def scanItems (read : Bytes → Option Bytes) : Bytes → Option Bytes
  | [] => none
  | byte :: rest =>
    let header := byte :: rest
    match read (header.takeWhile (· ≠ 59)) with
    | some value => some value
    | none =>
      -- without a semicolon this was the last item
      if 59 ∈ header then scanItems read (header.dropWhile (· ≠ 59)).tail else none
termination_by header => header.length
decreasing_by
  have shorter := (dropWhile_suffix (l := header) (· ≠ 59)).length_le
  rw [length_tail]
  simp only [header, length_cons] at shorter ⊢
  omega

def isSpace (byte : UInt8) : Bool := byte = 32

def isSpaceOrTab (byte : UInt8) : Bool := byte = 32 || byte = 9

/-- One round of `ParseCookie`. -/
def parseToken (token : Bytes) : Option Bytes :=
  let left := token.dropWhile isSpace
  if left = [] then none else namedValue sessionCookieName (left.rdropWhile isSpace)

variable (cookieHeader : Bytes)

/-- `ParseCookie`; `none` where it returns `false`. -/
def parseCookie : Option Bytes := scanItems parseToken cookieHeader

/-- One round of `CookieValue`. -/
def itemValue (name item : Bytes) : Option Bytes :=
  let left := item.dropWhile isSpaceOrTab
  if left = [] then none else namedValue name left

def cookieValue (cookieHeader name : Bytes) : Bytes :=
  (scanItems (itemValue name) cookieHeader).getD []

variable {read : Bytes → Option Bytes} {item value : Bytes}

theorem scanItems_of_ne_nil {header : Bytes} (some_byte : header ≠ []) :
    scanItems read header = (read (header.takeWhile (· ≠ 59))).or
      (if 59 ∈ header then scanItems read (header.dropWhile (· ≠ 59)).tail else none) := by
  obtain ⟨byte, rest, rfl⟩ := exists_cons_of_ne_nil some_byte
  rw [scanItems]
  cases read ((byte :: rest).takeWhile (· ≠ 59)) <;> rfl

theorem scanItems_last (plain : 59 ∉ item)
    (empty : read [] = none) : scanItems read item = read item := by
  rcases eq_or_ne item [] with rfl | some_byte
  · rw [scanItems, empty]
  · rw [scanItems_of_ne_nil some_byte, if_neg plain, takeWhile_of_not_mem plain,
      Option.or_none]

theorem scanItems_cut (plain : 59 ∉ item) (rest : Bytes) :
    scanItems read (item ++ 59 :: rest) = (read item).or (scanItems read rest) := by
  rw [scanItems_of_ne_nil (by simp), if_pos (by simp), takeWhile_append plain,
    dropWhile_append plain, tail_cons]

theorem scanItems_eq (empty : read [] = none) (header : Bytes) :
    scanItems read header = (header.splitOn 59).findSome? read := by
  induction header using cutInduction (59 : UInt8) with
  | last item plain =>
    rw [scanItems_last plain empty, splitOn_eq_singleton plain]
    simp
  | cut item rest plain ih =>
    rw [scanItems_cut plain, ih, splitOn_append_cons_self_of_not_mem plain, List.findSome?_cons]
    cases read item <;> rfl

theorem cutAtEquals_append {name : Bytes} (plain : 61 ∉ name) (value : Bytes) :
    cutAtEquals (name ++ 61 :: value) = some (name, value) := by
  rw [cutAtEquals, if_pos (by simp), takeWhile_append plain, dropWhile_append plain, tail_cons]

theorem namedValue_eq_some_iff {name : Bytes} (plain : 61 ∉ name) :
    namedValue name item = some value ↔ item = name ++ 61 :: value := by
  obtain ⟨first, clean, -, same | ⟨rest, rfl⟩⟩ := exists_cut 61 item
  · have uncut : cutAtEquals item = none := by rw [cutAtEquals, if_neg (same ▸ clean)]
    simp only [namedValue, uncut, reduceCtorEq, false_iff]
    rintro rfl
    exact clean (same ▸ by simp)
  · simp only [namedValue, cutAtEquals_append clean, ite_none_right_eq_some,
      Option.some.injEq]
    constructor
    · rintro ⟨rfl, rfl⟩
      rfl
    · exact eq_of_append_separator_eq clean plain

theorem not_mem_sessionCookieName : 61 ∉ sessionCookieName := by decide +kernel

theorem namedValue_rdropWhile (name item : Bytes) :
    namedValue name (item.rdropWhile isSpace) =
      (namedValue name item).map (·.rdropWhile isSpace) := by
  obtain ⟨first, clean, -, same | ⟨rest, rfl⟩⟩ := exists_cut 61 item
  · have uncut : cutAtEquals item = none := by rw [cutAtEquals, if_neg (same ▸ clean)]
    have shorter : 61 ∉ item.rdropWhile isSpace :=
      fun mem => clean (same ▸ ( rdropWhile_prefix isSpace item).subset mem)
    have uncut' : cutAtEquals (item.rdropWhile isSpace) = none := by
      rw [cutAtEquals, if_neg shorter]
    simp only [namedValue, uncut, uncut', map_none]
  · rw [rdropWhile_append_cons (by decide)]
    simp only [namedValue, cutAtEquals_append clean]
    split
    · rfl
    · rfl

def ledValue (lead : UInt8 → Bool) (item : Bytes) : Option Bytes :=
  namedValue sessionCookieName (item.dropWhile lead)

theorem itemValue_eq (item : Bytes) :
    itemValue sessionCookieName item = ledValue isSpaceOrTab item := by
  simp only [itemValue, ledValue]
  split
  case isTrue empty =>
    rw [empty]
    rfl
  case isFalse => rfl

theorem parseToken_eq (token : Bytes) :
    parseToken token = (ledValue isSpace token).map (·.rdropWhile isSpace) := by
  simp only [parseToken, ledValue]
  split
  case isTrue empty =>
    rw [empty]
    rfl
  case isFalse => exact namedValue_rdropWhile _ _

theorem ledValue_of_isSpace (found : ledValue isSpace item = some value) :
    ledValue isSpaceOrTab item = some value := by
  rw [ledValue, namedValue_eq_some_iff not_mem_sessionCookieName] at found ⊢
  have spaces : ∀ byte ∈ item.takeWhile isSpace, isSpaceOrTab byte = true := by
    intro byte mem
    have space : isSpace byte = true := mem_takeWhile_imp mem
    simp only [isSpace, decide_eq_true_eq] at space
    simp [isSpaceOrTab, space]
  have start : sessionCookieName ++ 61 :: value =
      111 :: (sessionCookieName.tail ++ 61 :: value) := by
    have head : sessionCookieName = 111 :: sessionCookieName.tail := by decide +kernel
    nth_rewrite 1 [head]
    rfl
  have whole := takeWhile_append_dropWhile (p := isSpace) (l := item)
  rw [found] at whole
  rw [← whole, dropWhile_append_of_pos spaces, start, dropWhile_cons_of_neg (by decide)]

theorem rdropWhile_eq_self_iff_of_ledValue (found : ledValue isSpace item = some value) :
    value.rdropWhile isSpace = value ↔ item.getLast? ≠ some 32 := by
  rw [ledValue, namedValue_eq_some_iff not_mem_sessionCookieName] at found
  have whole := takeWhile_append_dropWhile (p := isSpace) (l := item)
  rw [found] at whole
  rw [← whole]
  rcases eq_nil_or_concat' value with rfl | ⟨front, last, rfl⟩
  · simp
  have ends : (item.takeWhile isSpace ++
      (sessionCookieName ++ 61 :: (front ++ [last]))).getLast? = some last := by
    rw [← cons_append, ← append_assoc, ← append_assoc, List.getLast?_concat]
  rw [ends, rdropWhile_eq_self_iff]
  simp [isSpace]

/-- They agree on the first session cookie unless a space follows it.  A tab before it hides it from
`ParseCookie` alone, and a later cookie may have the same value. -/
def cookiesAgree : Bool :=
  let items := cookieHeader.splitOn 59
  match items.find? (fun item => (ledValue isSpaceOrTab item).isSome) with
  | none => true
  | some item =>
    if (ledValue isSpace item).isSome then item.getLast? ≠ some 32
    else
      let seen := (items.findSome? (ledValue isSpace)).getD []
      ledValue isSpaceOrTab item = some (seen.rdropWhile isSpace)

theorem parseCookie_eq :
    parseCookie cookieHeader =
      ((cookieHeader.splitOn 59).findSome? (ledValue isSpace)).map (·.rdropWhile isSpace) := by
  have reads : parseToken = fun token => (ledValue isSpace token).map (·.rdropWhile isSpace) :=
    funext parseToken_eq
  rw [parseCookie, scanItems_eq (parseToken_eq []), reads, map_findSome?]
  rfl

theorem cookieValue_eq :
    cookieValue cookieHeader sessionCookieName =
      ((cookieHeader.splitOn 59).findSome? (ledValue isSpaceOrTab)).getD [] := by
  rw [cookieValue, scanItems_eq (itemValue_eq []), funext itemValue_eq]

theorem findSome?_of_find? {α β : Type} {sees finds : α → Option β} {items : List α} {item : α}
    {value : β} (first : items.find? (fun item => (sees item).isSome) = some item)
    (unseen : ∀ item, sees item = none → finds item = none) (found : finds item = some value) :
    items.findSome? finds = some value := by
  obtain ⟨-, before, after, rfl, none_before⟩ := List.find?_eq_some_iff_append.mp first
  refine List.findSome?_eq_some_iff.mpr ⟨before, item, after, rfl, found, fun other mem => ?_⟩
  exact unseen other (by simpa using none_before other mem)

theorem ledValue_isSpace_eq_none (unseen : ledValue isSpaceOrTab item = none) :
    ledValue isSpace item = none := by
  cases found : ledValue isSpace item with
  | none => rfl
  | some => exact absurd (ledValue_of_isSpace found) (by simp [unseen])

/-- A logout destroys the session that authenticates for these headers and no others. -/
theorem cookies_agree_iff (cookieHeader : Bytes) :
    ((∀ sessionId, parseCookie cookieHeader = some sessionId →
        cookieValue cookieHeader sessionCookieName = sessionId) ∧
      (parseCookie cookieHeader = none → cookieValue cookieHeader sessionCookieName = [])) ↔
    cookiesAgree cookieHeader = true := by
  have same : ((∀ sessionId, parseCookie cookieHeader = some sessionId →
        cookieValue cookieHeader sessionCookieName = sessionId) ∧
      (parseCookie cookieHeader = none → cookieValue cookieHeader sessionCookieName = [])) ↔
      cookieValue cookieHeader sessionCookieName = (parseCookie cookieHeader).getD [] := by
    cases parseCookie cookieHeader <;> simp
  rw [same, parseCookie_eq, cookieValue_eq, cookiesAgree]
  generalize cookieHeader.splitOn 59 = items
  cases first : items.find? (fun item => (ledValue isSpaceOrTab item).isSome) with
  | none =>
    have unseen : ∀ item ∈ items, ledValue isSpaceOrTab item = none := by
      simpa using first
    have unseen' : ∀ item ∈ items, ledValue isSpace item = none :=
      fun item mem => ledValue_isSpace_eq_none (unseen item mem)
    rw [List.findSome?_eq_none_iff.mpr unseen, List.findSome?_eq_none_iff.mpr unseen']
    simp
  | some item =>
    obtain ⟨value, seen⟩ : ∃ value, ledValue isSpaceOrTab item = some value :=
      isSome_iff_exists.mp (by simpa using List.find?_some first)
    rw [findSome?_of_find? first (fun _ unseen => unseen) seen]
    cases found : ledValue isSpace item with
    | some value' =>
      obtain rfl : value = value' := by simpa [seen] using ledValue_of_isSpace found
      rw [findSome?_of_find? first (fun _ => ledValue_isSpace_eq_none) found]
      simp only [map_some, getD_some, isSome_some, found, if_true,
        decide_eq_true_eq, ← rdropWhile_eq_self_iff_of_ledValue found]
      exact eq_comm
    | none =>
      -- `ParseCookie` sees a later item here, or none
      cases items.findSome? (ledValue isSpace) <;> simp [found, seen]

/-- A space before the semicolon. -/
theorem cookies_differ_of_space :
    parseCookie (text "oj_session_id=abc ; theme=dark") = some (text "abc") ∧
      cookieValue (text "oj_session_id=abc ; theme=dark") sessionCookieName = text "abc " := by
  rw [parseCookie_eq, cookieValue_eq]
  decide +kernel

end OnlineJudge.Accounts
