import OnlineJudge.Common.DateTime
import OnlineJudge.Common.Json
import OnlineJudge.Discussions.Tables

/-!
# Comments in the cache

`CommentJson` and `CommentFromJson` (`model_comment.hpp`), between which `GetCommentById` keeps a
row as a JSON text for the next callers.  `CommentFromJson` asks for a `user_id` of 32 bits without
a sign and then reads it by `asInt`, which throws from `2 ^ 31` on.

## Main definitions

* `Comment`: `oj::db::Comment` with the widths of its fields; `Comment.row` is the row of the
  tables that it is.
* `commentJson`, `commentFromJson`: the two functions of the source.
* `Stored`: what `CreateComment` stores.

## Main results

* `comment_kept_iff`: a comment comes back from the cache exactly if its user id is below `2 ^ 31`.
* `row_mem_past`: what comes back is a version that the tables have had.
-/

namespace OnlineJudge.Discussions.CommentCache

/-- `oj::db::Comment`, with the widths of its fields. -/
structure Comment where
  id : UInt32
  parentId : Option UInt64 := none
  replyToUserId : Option UInt32 := none
  likeCount : UInt32 := 0
  favoriteCount : UInt32 := 0
  solutionId : UInt32
  userId : UInt32
  content : Bytes := []
  isEdited : Option Bool := some false
  createdAt : Option MysqlTime := none
  updatedAt : Option MysqlTime := none
  deriving DecidableEq

/-- The row of the table of comments; times are in microseconds there. -/
def Comment.row (comment : Comment) : Discussions.Comment where
  id := comment.id.toNat
  parentId := comment.parentId.map UInt64.toNat
  replyToUserId := comment.replyToUserId.map UInt32.toNat
  likeCount := comment.likeCount.toNat
  favoriteCount := comment.favoriteCount.toNat
  solutionId := comment.solutionId.toNat
  userId := comment.userId.toNat
  content := comment.content
  isEdited := comment.isEdited
  createdAt := comment.createdAt.map MysqlTime.micros
  updatedAt := comment.updatedAt.map MysqlTime.micros

open Scalar

def commentJson (comment : Comment) : Document :=
  .flat [("id", .int comment.id.toNat), ("solution_id", .int comment.solutionId.toNat),
    ("user_id", .int comment.userId.toNat), ("content", .string comment.content),
    ("is_edited", ofOption .bool comment.isEdited),
    ("parent_id", ofOption (fun id => .int id.toNat) comment.parentId),
    ("reply_to_user_id", ofOption (fun id => .int id.toNat) comment.replyToUserId),
    ("like_count", .int comment.likeCount.toNat),
    ("favorite_count", .int comment.favoriteCount.toNat),
    ("created_at", ofOption (fun t => .int (dateTimeToInt t)) comment.createdAt),
    ("updated_at", ofOption (fun t => .int (dateTimeToInt t)) comment.updatedAt)]

/-- The members that `CommentFromJson` checks, as the fields that it assigns. -/
def checkedComment (item : Document) : Option Comment := do
  let id ← item.read "id" uint64?
  let solutionId ← item.read "solution_id" uint64?
  let userId ← item.read "user_id" uint?
  let content ← item.read "content" string?
  let likeCount ← item.read "like_count" uint?
  let favoriteCount ← item.read "favorite_count" uint?
  let isEdited ← item.read "is_edited" (nullable bool?)
  let parentId ← item.read "parent_id" (nullable uint64?)
  let replyToUserId ← item.read "reply_to_user_id" (nullable uint?)
  let createdAt ← item.read "created_at" (nullable int64?)
  let updatedAt ← item.read "updated_at" (nullable int64?)
  return {
    id := .ofNat id.toNat
    solutionId := .ofNat solutionId.toNat
    userId := .ofNat userId.toNat
    content
    isEdited
    parentId := parentId.map fun value => .ofNat value.toNat
    replyToUserId := replyToUserId.map fun value => .ofNat value.toNat
    likeCount := .ofNat likeCount.toNat
    favoriteCount := .ofNat favoriteCount.toNat
    createdAt := createdAt.map intToDateTime
    updatedAt := updatedAt.map intToDateTime }

/-- `CommentFromJson`: `none` where it returns false, and an error where `asInt` throws because the
user id is not in the range of an `int`. -/
def commentFromJson (item : Document) : Except Unit (Option Comment) :=
  match checkedComment item with
  | none => .ok none
  | some comment => if comment.userId.toNat < 2147483648 then .ok (some comment) else .error ()

/-- A valid time of a `DATETIME` column, from 1970 on. -/
def StoredTime (t : MysqlTime) : Prop := t.Valid ∧ 1970 ≤ t.year.toNat ∧ t.year.toNat ≤ 9999

/-- A row that `CreateComment` can store. -/
structure Stored (comment : Comment) : Prop where
  content : validUtf8 comment.content = true
  createdAt : ∀ t ∈ comment.createdAt, StoredTime t
  updatedAt : ∀ t ∈ comment.updatedAt, StoredTime t

theorem StoredTime.fits {t : MysqlTime} (stored : StoredTime t) : t.micros < 2 ^ 63 := by
  obtain ⟨⟨fields, micros⟩, -, year⟩ := stored
  have bound := fields.date.dayNumber_bounds.2
  have ⟨_, _, _, _⟩ := fields
  have year' : (t.fields t.year.toNat).date.year ≤ 9999 := Int.ofNat_le.mpr year
  unfold MysqlTime.micros Calendar.Tm.seconds
  unfold Calendar.daysBeforeYear at bound
  omega

theorem StoredTime.positive {t : MysqlTime} (stored : StoredTime t) : 0 ≤ t.micros := by
  obtain ⟨⟨fields, micros⟩, late, -⟩ := stored
  have seconds := (year_bounds fields).1.mpr (Int.ofNat_le.mpr late)
  unfold MysqlTime.micros
  omega

/-! ## The members of a document that was written -/

section Back

variable {comment : Comment} {other : Document}

theorem read_uint {name : String} (back : Option.Rel Json.Back
      ((commentJson comment).lookup name) (other.lookup name)) {value : UInt32}
    (written : (commentJson comment).lookup name = some (.scalar (.int value.toNat))) :
    other.read name uint? = some (value.toNat : Int) ∧
      other.read name uint64? = some (value.toNat : Int) := by
  have bound := value.toNat_lt
  constructor
  · exact Document.read_int back written (by omega) (by omega) (by omega) (by omega)
  · exact Document.read_int back written (by omega) (by omega) (by omega) (by omega)

theorem read_nullable {α β : Type} {name : String} {scalar : α → Scalar} {value : Option α}
    {read : Scalar → Option β} {f : α → β}
    (back : Option.Rel Json.Back ((commentJson comment).lookup name) (other.lookup name))
    (written : (commentJson comment).lookup name = some (.scalar (ofOption scalar value)))
    (notNull : ∀ a, scalar a ≠ .null)
    (kept : ∀ a ∈ value, (scalar a).plain = true ∧ read (scalar a) = some (f a)) :
    other.read name (nullable read) = some (value.map f) := by
  rw [Document.read_back back written (plain_ofOption fun a mem => (kept a mem).1)]
  exact nullable_ofOption notNull fun a mem => (kept a mem).2

theorem read_time {name : String} {time : Option MysqlTime}
    (stored : ∀ t ∈ time, StoredTime t)
    (back : Option.Rel Json.Back ((commentJson comment).lookup name) (other.lookup name))
    (written : (commentJson comment).lookup name =
      some (.scalar (ofOption (fun t => .int (dateTimeToInt t)) time))) :
    (other.read name (nullable int64?)).map (Option.map intToDateTime) = some time := by
  have read : other.read name (nullable int64?) = some (time.map dateTimeToInt) := by
    refine read_nullable back written (fun _ => Scalar.noConfusion) fun t mem => ?_
    obtain ⟨valid, late, -⟩ := stored t mem
    have positive := (stored t mem).positive
    have fits := (stored t mem).fits
    rw [dateTimeToInt_of_valid valid late fits]
    exact int_kept (by omega) (by omega) (by omega) (by omega)
  rw [read, Option.map_some, Option.map_map]
  have same : time.map (intToDateTime ∘ dateTimeToInt) = time.map id := by
    refine Option.map_congr fun t mem => ?_
    obtain ⟨valid, late, -⟩ := stored t mem
    exact intToDateTime_dateTimeToInt valid late (stored t mem).fits
  rw [same, Option.map_id, id]

end Back

theorem checkedComment_back {comment : Comment} (stored : Stored comment) {other : Document}
    (back : ∀ name, Option.Rel Json.Back ((commentJson comment).lookup name)
      (other.lookup name)) : checkedComment other = some comment := by
  have id := (read_uint (back "id") rfl).2
  have solutionId := (read_uint (back "solution_id") rfl).2
  have userId := (read_uint (back "user_id") rfl).1
  have content : other.read "content" string? = some comment.content :=
    Document.read_back (back "content") rfl stored.content string?
  have likeCount := (read_uint (back "like_count") rfl).1
  have favoriteCount := (read_uint (back "favorite_count") rfl).1
  have isEdited : other.read "is_edited" (nullable bool?) = some (comment.isEdited.map (·)) :=
    read_nullable (back "is_edited") rfl (fun _ => Scalar.noConfusion) fun _ _ => ⟨rfl, rfl⟩
  have parentId : other.read "parent_id" (nullable uint64?) =
      some (comment.parentId.map fun id => (id.toNat : Int)) := by
    refine read_nullable (back "parent_id") rfl (fun _ => Scalar.noConfusion) fun id _ => ?_
    have bound := id.toNat_lt
    exact int_kept (by omega) (by omega) (by omega) (by omega)
  have replyToUserId : other.read "reply_to_user_id" (nullable uint?) =
      some (comment.replyToUserId.map fun id => (id.toNat : Int)) := by
    refine read_nullable (back "reply_to_user_id") rfl (fun _ => Scalar.noConfusion) fun id _ => ?_
    have bound := id.toNat_lt
    exact int_kept (by omega) (by omega) (by omega) (by omega)
  obtain ⟨created, createdAt, sameCreated⟩ := Option.map_eq_some_iff.mp
    (read_time stored.createdAt (back "created_at") rfl)
  obtain ⟨updated, updatedAt, sameUpdated⟩ := Option.map_eq_some_iff.mp
    (read_time stored.updatedAt (back "updated_at") rfl)
  simp [checkedComment, id, solutionId, userId, content, likeCount, favoriteCount, isEdited,
    parentId, replyToUserId, createdAt, updatedAt, sameCreated, sameUpdated, Function.comp_def]

theorem commentFromJson_write {json : JsonCodec} (faithful : json.Faithful) {comment : Comment}
    (stored : Stored comment) :
    (json.read (json.write (commentJson comment))).map commentFromJson =
      some (if comment.userId.toNat < 2 ^ 31 then .ok (some comment) else .error ()) := by
  have distinct : ((commentJson comment).map Prod.fst).Nodup := by
    simp [commentJson, Document.flat]
  obtain ⟨other, read, back⟩ := faithful.back distinct
  rw [read, Option.map_some, commentFromJson, checkedComment_back stored back]
  rfl

/-- **A comment in the cache** comes back, and without an exception, exactly if its user id is in
the range of an `int`. -/
theorem comment_kept_iff (json : JsonCodec) (faithful : json.Faithful) {comment : Comment}
    (stored : Stored comment) :
    (json.read (json.write (commentJson comment))).map commentFromJson =
        some (.ok (some comment)) ↔
      comment.userId.toNat < 2 ^ 31 := by
  rw [commentFromJson_write faithful stored]
  split
  case isTrue small => exact iff_of_true rfl small
  case isFalse large => exact iff_of_false (by simp) large

/-- A comment that `GetCommentById` takes from the cache is a version that the tables have had. -/
theorem row_mem_past {json : JsonCodec} (faithful : json.Faithful) {comment other : Comment}
    (stored : Stored comment) {db : Tables} (seen : comment.row ∈ db.past)
    (read : (json.read (json.write (commentJson comment))).map commentFromJson =
      some (.ok (some other))) : other.row ∈ db.past := by
  rw [commentFromJson_write faithful stored] at read
  split at read
  · cases read
    exact seen
  · cases read

/-- A reply of the user `userId`, with an edit. -/
def sampleComment (userId : UInt32) : Comment where
  id := 12
  parentId := some 10
  replyToUserId := some 4
  likeCount := 3
  solutionId := 6
  userId
  content := text "x + 1"
  isEdited := some true
  createdAt := some { year := 2026, month := 3, day := 1, hour := 12, minute := 30, second := 5 }

theorem sampleComment_stored (userId : UInt32) : Stored (sampleComment userId) where
  content := by
    change validUtf8 (text "x + 1") = true
    decide +kernel
  createdAt := by
    rintro _ ⟨⟩
    exact ⟨⟨⟨⟨by decide, by decide⟩, by decide, by decide, by decide⟩, by decide⟩, by decide,
      by decide⟩
  updatedAt := by
    rintro _ ⟨⟩

theorem comment_kept_of_small_id :
    (countedJson.read (countedJson.write (commentJson (sampleComment 7)))).map commentFromJson =
      some (.ok (some (sampleComment 7))) :=
  (comment_kept_iff countedJson countedJson_faithful (sampleComment_stored 7)).mpr (by decide)

theorem comment_of_large_id_throws : Stored (sampleComment 2147483648) ∧
    (countedJson.read (countedJson.write (commentJson (sampleComment 2147483648)))).map
      commentFromJson = some (.error ()) :=
  ⟨sampleComment_stored _, commentFromJson_write countedJson_faithful (sampleComment_stored _)⟩

end OnlineJudge.Discussions.CommentCache
