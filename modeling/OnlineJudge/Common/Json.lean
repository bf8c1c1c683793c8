import Mathlib.Data.List.Forall2
import OnlineJudge.Common.Decimal
import OnlineJudge.Common.Utf8
import OnlineJudge.Library.Separators

/-!
# JSON documents

The values that the server builds with jsoncpp and keeps as texts in Redis.  The source reads a
document only by the names of its members, so a document is a list of named members, and two
documents with the same member under every name are as good as equal.

jsoncpp itself is a parameter, `JsonCodec`.  `JsonCodec.Faithful` is what is assumed of it: of a
document with distinct names every member comes back under its name, where a string that is not
UTF-8 may come back as another one.  Nothing is said about the order of the members, since jsoncpp
sorts them.

## Main definitions

* `Scalar`, `Json`, `Document`: the values, down to the arrays of objects that list pages hold.
* `Document.read`: a member that is checked for its type (`isString`, `isInt`, ...) and read.
* `Document.assign`: assignments `value["name"] = ...`.
* `countedJson`: an instance of a faithful codec.

## Main results

* `Document.read_back`: what is read of a document that was written and parsed.
* `countedJson_faithful`: `countedJson` gives every document back.
-/

namespace OnlineJudge

open List

/-! ## Values -/

/-- A `Json::Value` without parts. -/
inductive Scalar
  | null
  | bool (value : Bool)
  | int (value : Int)
  | string (value : Bytes)
  deriving DecidableEq

/-- A member of a document: a scalar, or an array of objects with scalar members. -/
inductive Json
  | scalar (value : Scalar)
  | array (items : List (List (String × Scalar)))
  deriving DecidableEq

/-- An object, by the names of its members. -/
abbrev Document := List (String × Json)

namespace Scalar

/-- `isString` and `asString`. -/
def string? : Scalar → Option Bytes
  | .string value => some value
  | _ => none

/-- `isBool` and `asBool`. -/
def bool? : Scalar → Option Bool
  | .bool value => some value
  | _ => none

/-- `isInt`, `isUInt`, `isInt64` and `isUInt64`, which ask for the range of an integer. -/
def intIn? (least greatest : Int) : Scalar → Option Int
  | .int value => if least ≤ value ∧ value ≤ greatest then some value else none
  | _ => none

/-- `isInt`. -/
def int? : Scalar → Option Int := intIn? (-2147483648) 2147483647

/-- `isUInt`. -/
def uint? : Scalar → Option Int := intIn? 0 4294967295

/-- `isInt64`. -/
def int64? : Scalar → Option Int := intIn? (-9223372036854775808) 9223372036854775807

/-- `isUInt64`. -/
def uint64? : Scalar → Option Int := intIn? 0 18446744073709551615

/-- A member that may be null. -/
def nullable {α : Type} (read : Scalar → Option α) : Scalar → Option (Option α)
  | .null => some none
  | value => (read value).map some

/-- The value is one that jsoncpp gives back: a string is UTF-8, an integer has 64 bits. -/
def plain : Scalar → Bool
  | .string value => validUtf8 value
  | .int value => -9223372036854775808 ≤ value && value ≤ 18446744073709551615
  | .null | .bool _ => true

/-- `Json::Value()` for a null, and the value otherwise. -/
def ofOption {α : Type} (scalar : α → Scalar) : Option α → Scalar
  | none => .null
  | some value => scalar value

/-- An integer is read by a check whose range holds it. -/
theorem int_kept {value least greatest : Int} (low : least ≤ value) (high : value ≤ greatest)
    (fits : -9223372036854775808 ≤ value) (fits' : value ≤ 18446744073709551615) :
    (Scalar.int value).plain = true ∧ intIn? least greatest (.int value) = some value := by
  constructor
  · simp only [plain, Bool.and_eq_true, decide_eq_true_eq]
    exact ⟨fits, fits'⟩
  · rw [intIn?, if_pos ⟨low, high⟩]

theorem nullable_ofOption {α β : Type} {scalar : α → Scalar} {read : Scalar → Option β}
    {value : Option α} {f : α → β} (notNull : ∀ a, scalar a ≠ .null)
    (kept : ∀ a ∈ value, read (scalar a) = some (f a)) :
    nullable read (ofOption scalar value) = some (value.map f) := by
  cases value with
  | none => rfl
  | some a =>
    have value := kept a rfl
    cases shape : scalar a with
    | null => exact absurd shape (notNull a)
    | _ =>
      rw [shape] at value
      simp [ofOption, nullable, shape, value]

theorem plain_ofOption {α : Type} {scalar : α → Scalar} {value : Option α}
    (kept : ∀ a ∈ value, (scalar a).plain = true) : (ofOption scalar value).plain = true := by
  cases value with
  | none => rfl
  | some a => exact kept a rfl

end Scalar

open Scalar

/-- A document whose members are scalars. -/
def Document.flat (members : List (String × Scalar)) : Document :=
  members.map fun (name, value) => (name, .scalar value)

/-- `document["name"]`, checked and read; a missing member is null. -/
def Document.read {α : Type} (document : Document) (name : String) (check : Scalar → Option α) :
    Option α :=
  match document.lookup name with
  | some (.scalar value) => check value
  | some (.array _) => none
  | none => check .null

/-- An assignment to a name, in a list of named values. -/
def put {κ β : Type} [BEq κ] (members : List (κ × β)) (name : κ) (value : β) : List (κ × β) :=
  (name, value) :: members.filter (·.1 != name)

theorem lookup_put {κ β : Type} [BEq κ] [LawfulBEq κ] (members : List (κ × β)) (name other : κ)
    (value : β) :
    (put members name value).lookup other =
      if other == name then some value else members.lookup other := by
  rw [put, lookup_cons]
  cases same : other == name with
  | true => rfl
  | false =>
    rw [if_neg Bool.false_ne_true]
    dsimp only
    induction members with
    | nil => rfl
    | cons member members ih =>
      cases here : member.1 == name with
      | true =>
        have apart : (other == member.1) = false := by rw [eq_of_beq here, same]
        rw [filter_cons_of_neg (by simp [bne, here]), ih, lookup_cons, apart]
      | false => rw [filter_cons_of_pos (by simp [bne, here]), lookup_cons, lookup_cons, ih]

/-- `document["name"] = value`, for each of the members. -/
def Document.assign (document : Document) (members : List (String × Scalar)) : Document :=
  members.foldl (fun document (name, value) => put document name (.scalar value)) document

/-- `document.get("name", "").asString()`; a member of another type, which the source does not write
under the name, is taken for a missing one. -/
def Document.stringAt (document : Document) (name : String) : Bytes :=
  (document.read name string?).getD []

section Assign

variable {document : Document} {members : List (String × Scalar)} {name : String}

theorem Document.nodup_assign (distinct : (document.map Prod.fst).Nodup)
    (members : List (String × Scalar)) : ((document.assign members).map Prod.fst).Nodup := by
  induction members generalizing document with
  | nil => exact distinct
  | cons member members ih =>
    refine ih ?_
    dsimp only [put]
    rw [map_cons, nodup_cons]
    exact ⟨by simp, distinct.sublist (filter_sublist.map _)⟩

theorem Document.lookup_assign_of_not_mem (other : name ∉ members.map Prod.fst) :
    (document.assign members).lookup name = document.lookup name := by
  induction members generalizing document with
  | nil => rfl
  | cons member members ih =>
    rw [map_cons, mem_cons, not_or] at other
    exact (ih other.2).trans (by rw [lookup_put, if_neg (by simpa using other.1)])

theorem Document.lookup_assign_of_mem {value : Scalar} (distinct : (members.map Prod.fst).Nodup)
    (member : (name, value) ∈ members) :
    (document.assign members).lookup name = some (.scalar value) := by
  induction members generalizing document with
  | nil => cases member
  | cons first members ih =>
    rw [map_cons, nodup_cons] at distinct
    rcases mem_cons.mp member with rfl | later
    · refine (lookup_assign_of_not_mem distinct.1).trans ?_
      rw [lookup_put, if_pos (beq_self_eq_true _)]
    · exact ih distinct.2 later

end Assign

/-! ## Texts -/

/-- A writer and a reader of jsoncpp; `none` for a text that is not a document. -/
structure JsonCodec where
  write : Document → Bytes
  read : Bytes → Option Document

/-- The second value is what the first one may be read as. -/
def Scalar.Back (written back : Scalar) : Prop := written.plain = true → back = written

@[inherit_doc Scalar.Back]
def Json.Back : Json → Json → Prop
  | .scalar written, .scalar back => written.Back back
  | .array written, .array back =>
    Forall₂ (fun item item' => (item.map Prod.fst).Nodup →
      ∀ name, Option.Rel Scalar.Back (item.lookup name) (item'.lookup name)) written back
  | _, _ => False

theorem Json.back_self (value : Json) : value.Back value := by
  cases value with
  | scalar value => exact fun _ => rfl
  | array items =>
    refine forall₂_same.mpr fun item _ _ name => ?_
    cases item.lookup name with
    | none => exact .none
    | some value => exact .some fun _ => rfl

/-- **What is assumed of jsoncpp**: names are distinct in what it reads, and the members of what it
wrote come back under their names. -/
structure JsonCodec.Faithful (json : JsonCodec) : Prop where
  distinct : ∀ {encoded document}, json.read encoded = some document → (document.map Prod.fst).Nodup
  back : ∀ {document : Document}, (document.map Prod.fst).Nodup →
    ∃ other : Document, json.read (json.write document) = some other ∧
      ∀ name, Option.Rel Json.Back (document.lookup name) (other.lookup name)

theorem Document.lookup_back {document other : Document} {name : String} {value : Scalar}
    (back : Option.Rel Json.Back (document.lookup name) (other.lookup name))
    (written : document.lookup name = some (.scalar value)) :
    ∃ value', other.lookup name = some (.scalar value') ∧ value.Back value' := by
  rw [written] at back
  generalize other.lookup name = read at back ⊢
  cases back with
  | some same =>
    rename_i json
    cases json with
    | scalar value' => exact ⟨value', rfl, same⟩
    | array => exact same.elim

/-- A scalar member of a document that was written is read as it was. -/
theorem Document.read_back {document other : Document} {name : String} {value : Scalar}
    (back : Option.Rel Json.Back (document.lookup name) (other.lookup name))
    (written : document.lookup name = some (.scalar value)) (plain : value.plain = true)
    {α : Type} (check : Scalar → Option α) : other.read name check = check value := by
  obtain ⟨value', read, same⟩ := lookup_back back written
  rw [Document.read, read, same plain]

theorem Document.read_int {document other : Document} {name : String} {value least greatest : Int}
    (back : Option.Rel Json.Back (document.lookup name) (other.lookup name))
    (written : document.lookup name = some (.scalar (.int value))) (low : least ≤ value)
    (high : value ≤ greatest) (fits : -9223372036854775808 ≤ value)
    (fits' : value ≤ 18446744073709551615) :
    other.read name (intIn? least greatest) = some value := by
  obtain ⟨plain, read⟩ := int_kept low high fits fits'
  exact (read_back back written plain _).trans read

/-- A member that was read before the document was written is read again. -/
theorem Document.read_again {document other : Document} {name : String} {α : Type} {value : α}
    {check : Scalar → Option α}
    (back : Option.Rel Json.Back (document.lookup name) (other.lookup name))
    (read : document.read name check = some value) (null : check .null = none)
    (plain : ∀ scalar, check scalar = some value → scalar.plain = true) :
    other.read name check = some value := by
  unfold Document.read at read
  split at read
  case h_1 scalar found => exact (read_back back found (plain scalar read) check).trans read
  case h_2 => cases read
  case h_3 =>
    rw [null] at read
    cases read

/-- What is read of a document in which members were assigned. -/
theorem JsonCodec.Faithful.read_assign {json : JsonCodec} (faithful : json.Faithful)
    (document : Document) (distinct : (document.map Prod.fst).Nodup)
    {members : List (String × Scalar)} (names : (members.map Prod.fst).Nodup) :
    ∃ other : Document, json.read (json.write (document.assign members)) = some other ∧
      (∀ name value, (name, value) ∈ members →
        ∃ value', other.lookup name = some (.scalar value') ∧ value.Back value') ∧
      ∀ name ∉ members.map Prod.fst,
        Option.Rel Json.Back (document.lookup name) (other.lookup name) := by
  obtain ⟨other, read, back⟩ := faithful.back (Document.nodup_assign distinct members)
  refine ⟨other, read, fun name value member => ?_, fun name absent => ?_⟩
  · exact Document.lookup_back (back name) (Document.lookup_assign_of_mem names member)
  · rw [← Document.lookup_assign_of_not_mem absent]
    exact back name

/-! ## A faithful codec -/

/-- A way to write values such that the reader finds their end. -/
structure Format (α : Type) where
  write : α → Bytes
  read : Bytes → Option (α × Bytes)
  sound : ∀ value rest, read (write value ++ rest) = some (value, rest)

namespace Format

variable {α β : Type}

/-- A number with a colon behind it. -/
def number : Format Nat where
  write n := decimal n ++ [58]
  read encoded :=
    (parseDecimal (encoded.takeWhile (· ≠ 58))).map (·, (encoded.dropWhile (· ≠ 58)).tail)
  sound n rest := by
    have plain : 58 ∉ decimal n := fun mem => absurd (bounds_of_mem_decimal mem).2 (by decide)
    rw [append_assoc, singleton_append, Separators.takeWhile_append plain,
      Separators.dropWhile_append plain, parseDecimal_decimal]
    rfl

def byte : Format UInt8 where
  write value := [value]
  read
    | [] => none
    | value :: rest => some (value, rest)
  sound _ _ := rfl

def both (first : Format α) (second : Format β) : Format (α × β) where
  write value := first.write value.1 ++ second.write value.2
  read encoded :=
    (first.read encoded).bind fun (value, rest) =>
      (second.read rest).map fun (value', rest) => ((value, value'), rest)
  sound value rest := by simp [first.sound, second.sound]

def readItems (item : Format α) : Nat → Bytes → Option (List α × Bytes)
  | 0, rest => some ([], rest)
  | n + 1, encoded =>
    (item.read encoded).bind fun (first, rest) =>
      (readItems item n rest).map fun (items, rest) => (first :: items, rest)

theorem readItems_write (item : Format α) (items : List α) (rest : Bytes) :
    item.readItems items.length (items.flatMap item.write ++ rest) = some (items, rest) := by
  induction items with
  | nil => rfl
  | cons first items ih => simp [readItems, item.sound, ih]

/-- The items, with their number before them. -/
def list (item : Format α) : Format (List α) where
  write items := number.write items.length ++ items.flatMap item.write
  read encoded := (number.read encoded).bind fun (n, rest) => item.readItems n rest
  sound items rest := by
    rw [append_assoc, number.sound]
    exact item.readItems_write items rest

/-- Values of another type, written as values of this one. -/
def via (format : Format α) (write : β → α) (read : α → Option β)
    (inverse : ∀ value, read (write value) = some value) : Format β where
  write value := format.write (write value)
  read encoded := (format.read encoded).bind fun (value, rest) => (read value).map (·, rest)
  sound value rest := by simp [format.sound, inverse]

def name : Format String :=
  byte.list.via (·.toUTF8.data.toList) (String.fromUTF8? ·.toByteArray) fun name => by
    have same : name.toUTF8.data.toList.toByteArray = name.toUTF8 :=
      ByteArray.ext (Array.toList_inj.mp List.toList_data_toByteArray)
    rw [same]
    exact dif_pos name.isValidUTF8

def scalar : Format Scalar :=
  (number.both (number.both byte.list)).via
    (fun
      | .null => (0, 0, [])
      | .bool value => (1, value.toNat, [])
      | .int (.ofNat n) => (2, n, [])
      | .int (.negSucc n) => (3, n, [])
      | .string value => (4, 0, value))
    (fun
      | (0, _) => some .null
      | (1, n, _) => some (.bool (n ≠ 0))
      | (2, n, _) => some (.int (.ofNat n))
      | (3, n, _) => some (.int (.negSucc n))
      | (_, _, value) => some (.string value))
    (by rintro (_ | (_ | _) | (_ | _) | _) <;> rfl)

def object (value : Format α) : Format (List (String × α)) := (name.both value).list

def json : Format Json :=
  (scalar.list.both scalar.object.list).via
    (fun
      | .scalar value => ([value], [])
      | .array items => ([], items))
    (fun
      | ([value], _) => some (.scalar value)
      | (_, items) => some (.array items))
    (by rintro (_ | _) <;> rfl)

end Format

/-- A codec that writes the length of every string and list; names that occur twice are not read. -/
def countedJson : JsonCodec where
  write := Format.json.object.write
  read encoded :=
    (Format.json.object.read encoded).bind fun (document, _) =>
      if (document.map Prod.fst).Nodup then some document else none

theorem countedJson_faithful : countedJson.Faithful where
  distinct read := by
    obtain ⟨_, -, kept⟩ := Option.bind_eq_some_iff.mp read
    obtain ⟨distinct, same⟩ := Option.ite_none_right_eq_some.mp kept
    cases same
    exact distinct
  back {document} distinct := by
    have read := Format.json.object.sound document []
    rw [append_nil] at read
    refine ⟨document, by simp [countedJson, read, distinct], fun name => ?_⟩
    cases document.lookup name with
    | none => exact .none
    | some value => exact .some value.back_self

end OnlineJudge
