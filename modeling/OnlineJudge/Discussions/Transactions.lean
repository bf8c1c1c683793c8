import OnlineJudge.Accounts.UserTable
import OnlineJudge.Discussions.Tables
import OnlineJudge.Library.LockedTransactions
import OnlineJudge.Submissions.Creation

/-!
# The transactions of the discussions

The transactions of `model_comment.hpp`, `ToggleSolutionAction` (`model_solution.hpp`) and
`DeleteUserByEmail` (`model_user.hpp`), and what `PostComment` (`control_comment.hpp`) does before.
Rows that are read `FOR UPDATE` or written are locked to the end.
-/

namespace OnlineJudge.Discussions

open LockedTransactions Tables
open Store (DateTime)
open Accounts (Collation)

/-- Row locks.  Only rows of `users` are also locked in shared mode. -/
inductive Lock
  | comment (id : Nat)
  | solution (id : Nat)
  | user (uid : Nat) (exclusive : Bool)
  deriving DecidableEq

def Lock.conflict : Lock → Lock → Bool
  | .comment id, .comment id' => id = id'
  | .solution id, .solution id' => id = id'
  | .user uid exclusive, .user uid' exclusive' => uid = uid' && (exclusive || exclusive')
  | _, _ => false

inductive PostError
  | unauthorized
  | contentRequired
  | contentTooLong
  | solutionNotFound
  | parentNotFound
  | invalidParentSolution
  | createFailed
  deriving DecidableEq

def PostError.code : PostError → Bytes
  | .unauthorized => text "UNAUTHORIZED"
  | .contentRequired => text "CONTENT_REQUIRED"
  | .contentTooLong => text "CONTENT_TOO_LONG"
  | .solutionNotFound => text "SOLUTION_NOT_FOUND"
  | .parentNotFound => text "PARENT_NOT_FOUND"
  | .invalidParentSolution => text "INVALID_PARENT_SOLUTION"
  | .createFailed => text "CREATE_FAILED"

inductive Reply
  /-- `PostComment` returns `false` before it calls `CreateComment`. -/
  | refused (error : PostError)
  /-- `false`. -/
  | failed
  | done
  | created (id : Nat)
  | toggled (nowActive : Bool) (newCount : Nat)
  deriving DecidableEq

def Reply.errCode : Reply → Option Bytes
  | .refused error => some error.code
  | .failed => some PostError.createFailed.code
  | _ => none

abbrev Body := Transaction Tables Lock Reply

def maxCount : Nat := 4294967295

def fitsOdbId (id : Nat) : Bool := id ≤ maxCount

def lockComment (id : Nat) (next : Option Comment → Body) : Body :=
  .lock (fun _ => [.comment id]) (findComment id) next

def lockSolution (id : Nat) (next : Option Solution → Body) : Body :=
  .lock (fun _ => [.solution id]) (findSolution id) next

def lockChildren (id : Nat) (next : List Nat → Body) : Body :=
  .lock (fun db => (db.children id).map .comment) (children id) next

/-- What `CreateComment` reads of its argument. -/
structure CommentDraft where
  parentId : Option Nat := none
  replyToUserId : Option Nat := none
  solutionId : Nat
  userId : Nat
  content : Bytes := []
  deriving DecidableEq

def nonZero (id : Nat) : Option Nat := if id = 0 then none else some id

def CommentDraft.row (draft : CommentDraft) (id : Nat) (now : DateTime) : Comment where
  id := id
  parentId := nonZero (draft.parentId.getD 0)
  replyToUserId := nonZero (draft.replyToUserId.getD 0)
  solutionId := draft.solutionId
  userId := draft.userId
  content := draft.content
  createdAt := some now
  updatedAt := some now

/-- `CreateComment` once the parent has been found. -/
def insertUnderSolution (draft : CommentDraft) (now : DateTime) : Body :=
  lockSolution draft.solutionId fun
    | none => .rollback .failed
    | some solution =>
      -- AUTO_INCREMENT columns start at 1
      .choose fun number =>
        let id := number + 1
        .lock (fun _ => [.user draft.userId false, .comment id])
          (fun db => db.hasUser draft.userId && !db.used id) fun inserted =>
            if !inserted then .raise
            else .write (insertComment (draft.row id now))
              (if draft.parentId.getD 0 = 0 then
                if solution.commentCount = maxCount then .rollback .failed
                else
                  .write (updateSolution
                    { solution with commentCount := solution.commentCount + 1 })
                    (.commit (.created id))
              else .commit (.created id))

def createComment (draft : CommentDraft) (now : DateTime) : Body :=
  if draft.solutionId = 0 || draft.userId = 0 || !fitsOdbId draft.solutionId ||
      !draft.parentId.all fitsOdbId || !fitsOdbId draft.userId ||
      !draft.replyToUserId.all fitsOdbId then .rollback .failed
  else if 0 < draft.parentId.getD 0 then
    lockComment (draft.parentId.getD 0) fun
      | none => .rollback .failed
      | some parent =>
        if parent.solutionId ≠ draft.solutionId then .rollback .failed
        else insertUnderSolution draft now
  else insertUnderSolution draft now

def Comment.edited (content : Bytes) (now : DateTime) (row : Comment) : Comment :=
  { row with content := content, isEdited := some true, updatedAt := some now }

def updateComment (id : Nat) (uid : Int) (content : Bytes) (now : DateTime) : Body :=
  if id = 0 || !fitsOdbId id || uid ≤ 0 then .rollback .failed
  else lockComment id fun
    | none => .rollback .failed
    | some row =>
      if row.userId ≠ uid.toNat then .rollback .failed
      else .write (Tables.updateComment (row.edited content now)) (.commit .done)

/-- `DeleteComment` from its query for the children on. -/
def eraseThread (row : Comment) (solution : Solution) : Body :=
  lockChildren row.id fun childIds =>
    .write (fun db => childIds.foldl (fun db child => db.eraseActionsOn (.comment child)) db)
      -- `erase_query<Comment>(parent_id == comment_id)` looks for the children again
      (lockChildren row.id fun erased =>
        .write (eraseComments erased)
          (.write (eraseActionsOn (.comment row.id))
            (.write (eraseComments [row.id])
              (if row.parentId.getD 0 = 0 then
                .write (updateSolution
                  { solution with commentCount := solution.commentCount - 1 })
                  (.commit .done)
              else .commit .done))))

def deleteComment (id : Nat) (uid : Int) (isAdmin : Bool) : Body :=
  if id = 0 || !fitsOdbId id || (!isAdmin && uid ≤ 0) then .rollback .failed
  else lockComment id fun
    | none => .rollback .failed
    | some row =>
      if !isAdmin && row.userId ≠ uid.toNat then .rollback .failed
      else lockSolution row.solutionId fun
        | none => .rollback .failed
        | some solution => eraseThread row solution

def ActionType.parse (name : Bytes) : Option ActionType :=
  if name = text "like" then some .like
  else if name = text "favorite" then some .favorite
  else none

/-- What the two toggles do once the row of the target is locked: `count` is its counter
and `save` writes all its columns back with another counter. -/
def toggleLocked (action : ActionRow) (count : Nat) (save : Nat → Tables → Tables) : Body :=
  .read (fun db => decide (action ∈ db.actions)) fun
    | true =>
      .lock (fun _ => []) (fun db => decide (action ∈ db.actions)) fun found =>
        if !found then .raise
        else .write (eraseAction action)
          (if 0 < count then .write (save (count - 1)) (.commit (.toggled false (count - 1)))
          -- the branch that keeps the counter
          else .mark (.write (save count) (.commit (.toggled false count))))
    | false =>
      if count = maxCount then .rollback .failed
      else
        .lock (fun _ => [.user action.userId false])
          (fun db => db.hasUser action.userId && decide (action ∉ db.actions)) fun inserted =>
            if !inserted then .raise
            else .write (insertAction action)
              (.write (save (count + 1)) (.commit (.toggled true (count + 1))))

def toggleCommentAction (id : Nat) (uid : Int) (actionType : Bytes) : Body :=
  match ActionType.parse actionType with
  | none => .rollback .failed
  | some actionType =>
    if id = 0 || !fitsOdbId id || uid ≤ 0 then .rollback .failed
    else lockComment id fun
      | none => .rollback .failed
      | some comment =>
        toggleLocked ⟨.comment id, uid.toNat, actionType⟩ (comment.actionCount actionType)
          fun count => Tables.updateComment (comment.setActionCount count actionType)

def toggleSolutionAction (id uid : Int) (actionType : Bytes) : Body :=
  match ActionType.parse actionType with
  | none => .rollback .failed
  | some actionType =>
    if id ≤ 0 || uid ≤ 0 || !fitsOdbId id.toNat then .rollback .failed
    else lockSolution id.toNat fun
      | none => .rollback .failed
      | some solution =>
        toggleLocked ⟨.solution id.toNat, uid.toNat, actionType⟩
          (solution.actionCount actionType)
          fun count => updateSolution (solution.setActionCount count actionType)

/-- How the database compares emails, and whether the foreign key of `solution_actions` on
`users` cascades (`sql/migrations`) or restricts (`sql/solution_actions.sql`). -/
structure Setting where
  collation : Collation
  solutionActionsCascade : Bool

def Setting.restricts (setting : Setting) (uid : Nat) (db : Tables) : Bool :=
  db.solutions.rows.any (fun row => row.userId = uid) ||
    (!setting.solutionActionsCascade && db.actions.any fun action =>
      action.userId = uid && match action.target with
        | .solution _ => true
        | .comment _ => false)

def deleteUserByEmail (setting : Setting) (email : Bytes) : Body :=
  .read (fun db => db.accounts.rows.find? fun account =>
    setting.collation.equal account.email email) fun
    | none => .commit .done
    | some account =>
      .lock (fun db => .user account.uid true :: (db.commentsOf account.uid).map .comment)
        (fun db => (db.hasUser account.uid && !setting.restricts account.uid db,
          db.commentsOf account.uid)) fun erased =>
            if !erased.1 then .raise
            else .write (eraseUser account.uid erased.2) (.commit .done)

structure PostRequest where
  solutionId : Nat
  uid : Nat
  content : Bytes
  parentId : Nat := 0
  deriving DecidableEq

/-- What `PostComment` passes to `CreateComment`.  `isPublic` is what `GetPublicSolution`
returns, `parent` what `GetCommentById` returns for the parent. -/
def PostRequest.draft (request : PostRequest) (isPublic : Bool) (parent : Option Comment) :
    Except PostError CommentDraft :=
  let trimmed := Submissions.trim request.content
  if request.uid = 0 then .error .unauthorized
  else if trimmed = [] then .error .contentRequired
  else if 1000 < trimmed.length then .error .contentTooLong
  else if !isPublic then .error .solutionNotFound
  else
    -- the id of a public solution fits into the column
    let draft : CommentDraft :=
      { parentId := some request.parentId
        replyToUserId := some 0
        solutionId := request.solutionId % (maxCount + 1)
        userId := request.uid
        content := trimmed }
    if request.parentId = 0 then .ok draft
    else match parent with
      | none => .error .parentNotFound
      | some parent =>
        if parent.solutionId ≠ request.solutionId then .error .invalidParentSolution
        else .ok { draft with
          replyToUserId := some parent.userId
          -- an answer to a reply becomes an answer to the comment above
          parentId := if 0 < parent.parentId.getD 0 then parent.parentId
            else some request.parentId }

def postComment (request : PostRequest) (isPublic : Bool) (parent : Option Comment)
    (now : DateTime) : Body :=
  match request.draft isPublic parent with
  | .error error => .rollback (.refused error)
  | .ok draft => createComment draft now

inductive Call
  | postComment (request : PostRequest) (isPublic : Bool) (parent : Option Comment)
      (now : DateTime)
  | createComment (draft : CommentDraft) (now : DateTime)
  | updateComment (id : Nat) (uid : Int) (content : Bytes) (now : DateTime)
  | deleteComment (id : Nat) (uid : Int) (isAdmin : Bool)
  | toggleSolutionAction (id uid : Int) (actionType : Bytes)
  | toggleCommentAction (id : Nat) (uid : Int) (actionType : Bytes)
  | deleteUserByEmail (email : Bytes)

def Call.body (setting : Setting) : Call → Body
  | .postComment request isPublic parent now => Discussions.postComment request isPublic parent now
  | .createComment draft now => Discussions.createComment draft now
  | .updateComment id uid content now => Discussions.updateComment id uid content now
  | .deleteComment id uid isAdmin => Discussions.deleteComment id uid isAdmin
  | .toggleSolutionAction id uid actionType => Discussions.toggleSolutionAction id uid actionType
  | .toggleCommentAction id uid actionType => Discussions.toggleCommentAction id uid actionType
  | .deleteUserByEmail email => Discussions.deleteUserByEmail setting email

end OnlineJudge.Discussions
