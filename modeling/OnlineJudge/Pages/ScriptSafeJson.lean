import OnlineJudge.Common.Decimal

/-!
# User information in a page

`ScriptSafeJson` and `InjectScript` (`static_http_service.cpp`) put a JSON text into a script
element.  The lexer reads a byte that is replaced inside a string literal or not at all.
-/

namespace OnlineJudge.Pages

/-- A part of a string literal: a byte, or an escape of a code unit above 127. -/
inductive CodeUnit
  | byte (value : UInt8)
  | escape (value : UInt16)
  deriving DecidableEq

/-- A string literal, or a byte between two of them. -/
inductive Token
  | byte (value : UInt8)
  | string (units : List CodeUnit)
  deriving DecidableEq

inductive Mode
  | outside
  | inside (units : List CodeUnit)
  /-- After a backslash. -/
  | escape (units : List CodeUnit)
  /-- After `\u` and `count` digits that stand for `value`. -/
  | hex (units : List CodeUnit) (count : Nat) (value : UInt16)
  deriving DecidableEq

/-- The bytes of white space, punctuation, numbers and `true`, `false`, `null`. -/
def isPlain (ch : UInt8) : Bool := (text " \t\n\r[]\x7b\x7d,:+-.0123456789eEtrufalsn").contains ch

/-- What a byte other than `u` stands for after a backslash. -/
def escaped? (ch : UInt8) : Option UInt8 :=
  if ch = 34 ∨ ch = 92 ∨ ch = 47 then some ch
  else if ch = 98 then some 8
  else if ch = 102 then some 12
  else if ch = 110 then some 10
  else if ch = 114 then some 13
  else if ch = 116 then some 9
  else none

def codeUnit (value : UInt16) : CodeUnit :=
  if value < 128 then .byte value.toUInt8 else .escape value

/-- One byte of a JSON text, with the tokens before it in reverse; `none` where no JSON text has
that byte there. -/
def lexByte : List Token × Mode → UInt8 → Option (List Token × Mode)
  | (tokens, .outside), ch =>
    if ch = 34 then some (tokens, .inside [])
    else if isPlain ch then some (.byte ch :: tokens, .outside)
    else none
  | (tokens, .inside units), ch =>
    if ch = 34 then some (.string units.reverse :: tokens, .outside)
    else if ch = 92 then some (tokens, .escape units)
    else if ch < 32 then none
    else some (tokens, .inside (.byte ch :: units))
  | (tokens, .escape units), ch =>
    if ch = 117 then some (tokens, .hex units 0 0)
    else (escaped? ch).map fun value => (tokens, .inside (.byte value :: units))
  | (tokens, .hex units count value), ch =>
    (hexValue? ch).map fun digit =>
      let value := value * 16 + digit.toUInt16
      (tokens, if count = 3 then .inside (codeUnit value :: units)
        else .hex units (count + 1) value)

def lex (json : Bytes) : Option (List Token) :=
  (json.foldlM lexByte ([], .outside)).bind fun (tokens, mode) =>
    if mode = .outside then some tokens.reverse else none

/-- A JSON text whose tokens are read by a grammar. -/
def parse {Value : Type} (grammar : List Token → Option Value) (json : Bytes) : Option Value :=
  (lex json).bind grammar

def replaced (ch : UInt8) : Bytes :=
  if ch = 60 then text "\\u003c"
  else if ch = 62 then text "\\u003e"
  else if ch = 38 then text "\\u0026"
  else [ch]

variable {Value : Type}

/-- `ScriptSafeJson`, where `write` is `Json::writeString`. -/
def scriptSafeJson (write : Value → Bytes) (value : Value) : Bytes := (write value).flatMap replaced

def find (html needle : Bytes) : Option Nat := html.tails.findIdx? (needle.isPrefixOf ·)

def injectScript (write : Value → Bytes) (html : Bytes) (userInfo : Value) : Bytes :=
  let script := text "<script>var SERVER_USER_INFO = " ++ scriptSafeJson write userInfo ++
    text ";</script>"
  match find html (text "</body>") with
  | none => html ++ script
  | some body => html.take body ++ script ++ html.drop body

def special (ch : UInt8) : Prop := ch = 60 ∨ ch = 62 ∨ ch = 38

variable {ch : UInt8}

theorem replaced_special : replaced 60 = [92, 117, 48, 48, 51, 99] ∧
    replaced 62 = [92, 117, 48, 48, 51, 101] ∧ replaced 38 = [92, 117, 48, 48, 50, 54] := by
  decide +kernel

theorem replaced_of_not_special (other : ¬ special ch) : replaced ch = [ch] := by
  simp only [special, not_or] at other
  simp [replaced, other]

theorem not_special_of_mem_replaced {ch' : UInt8} (mem : ch' ∈ replaced ch) : ¬ special ch' := by
  by_cases is : special ch
  · have plain : ∀ bytes ∈ [replaced 60, replaced 62, replaced 38], ∀ c ∈ bytes, ¬ special c := by
      simp [replaced_special, special]
    rcases is with rfl | rfl | rfl <;> exact plain _ (by simp) ch' mem
  · rw [replaced_of_not_special is, List.mem_singleton] at mem
    rwa [mem]

theorem lexByte_of_special {tokens : List Token} {mode : Mode} {next : List Token × Mode}
    (is : special ch) (read : lexByte (tokens, mode) ch = some next) :
    ∃ units, mode = .inside units ∧ next = (tokens, .inside (.byte ch :: units)) := by
  have notPlain : isPlain 60 = false ∧ isPlain 62 = false ∧ isPlain 38 = false := by decide +kernel
  cases mode with
  | outside => rcases is with rfl | rfl | rfl <;> simp [lexByte, notPlain] at read
  | inside units =>
    refine ⟨units, rfl, ?_⟩
    rcases is with rfl | rfl | rfl <;> exact (Option.some.inj read).symm
  | escape => rcases is with rfl | rfl | rfl <;> cases read
  | hex => rcases is with rfl | rfl | rfl <;> cases read

theorem lex_replaced (is : special ch) (tokens : List Token) (units : List CodeUnit) :
    (replaced ch).foldlM lexByte (tokens, .inside units) =
      some (tokens, .inside (.byte ch :: units)) := by
  obtain ⟨less, greater, ampersand⟩ := replaced_special
  rcases is with rfl | rfl | rfl
  · rw [less]; rfl
  · rw [greater]; rfl
  · rw [ampersand]; rfl

theorem lex_flatMap_replaced {json : Bytes} {state final : List Token × Mode}
    (read : json.foldlM lexByte state = some final) :
    (json.flatMap replaced).foldlM lexByte state = some final := by
  induction json generalizing state with
  | nil => exact read
  | cons ch rest ih =>
    obtain ⟨next, first, later⟩ := Option.bind_eq_some_iff.mp read
    rw [List.flatMap_cons, List.foldlM_append]
    refine Option.bind_eq_some_iff.mpr ⟨next, ?_, ih later⟩
    by_cases is : special ch
    · obtain ⟨tokens, mode⟩ := state
      obtain ⟨units, rfl, rfl⟩ := lexByte_of_special is first
      exact lex_replaced is tokens units
    · rw [replaced_of_not_special is, List.foldlM_cons, first]
      rfl

theorem script_not_closed_early (grammar : List Token → Option Value) (write : Value → Bytes)
    (value : Value) (written : parse grammar (write value) = some value) (html : Bytes) :
    (∀ ch ∈ scriptSafeJson write value, ¬ special ch) ∧
      parse grammar (scriptSafeJson write value) = some value ∧
      ∃ before after body, html = before ++ after ∧
        injectScript write html value =
          before ++ text "<script>" ++ body ++ text "</script>" ++ after ∧
        60 ∉ body := by
  have clean : ∀ ch ∈ scriptSafeJson write value, ¬ special ch := by
    intro ch mem
    obtain ⟨ch', -, mem'⟩ := List.mem_flatMap.mp mem
    exact not_special_of_mem_replaced mem'
  refine ⟨clean, ?_, ?_⟩
  · obtain ⟨tokens, read, reads⟩ := Option.bind_eq_some_iff.mp written
    obtain ⟨final, lexed, ends⟩ := Option.bind_eq_some_iff.mp read
    rw [parse, lex, scriptSafeJson, lex_flatMap_replaced lexed, Option.bind_some, ends]
    exact reads
  · have opening : text "<script>var SERVER_USER_INFO = " =
        text "<script>" ++ text "var SERVER_USER_INFO = " := by decide +kernel
    have closing : text ";</script>" = text ";" ++ text "</script>" := by decide +kernel
    have plain : 60 ∉ text "var SERVER_USER_INFO = " ∧ 60 ∉ text ";" := by decide +kernel
    have inside :
        60 ∉ text "var SERVER_USER_INFO = " ++ scriptSafeJson write value ++ text ";" := by
      simp only [List.mem_append, not_or]
      exact ⟨⟨plain.1, fun mem => clean 60 mem (.inl rfl)⟩, plain.2⟩
    unfold injectScript
    cases find html (text "</body>") with
    | none => exact ⟨html, [], _, (List.append_nil html).symm, by simp [opening, closing], inside⟩
    | some body =>
      exact ⟨html.take body, html.drop body, _, (List.take_append_drop body html).symm,
        by simp [opening, closing], inside⟩

/-- The units of one string literal. -/
def stringGrammar : List Token → Option (List CodeUnit)
  | [.string units] => some units
  | _ => none

theorem script_not_closed_early_by_its_end :
    (∀ ch ∈ scriptSafeJson (fun _ => text "\"</script>\"") ((text "</script>").map CodeUnit.byte),
      ¬ special ch) ∧
      parse stringGrammar (scriptSafeJson (fun _ => text "\"</script>\"")
        ((text "</script>").map CodeUnit.byte)) = some ((text "</script>").map CodeUnit.byte) :=
  have result := script_not_closed_early stringGrammar (fun _ => text "\"</script>\"")
    ((text "</script>").map CodeUnit.byte) (by decide +kernel) []
  ⟨result.1, result.2.1⟩

end OnlineJudge.Pages
