import OnlineJudge.Library.Table
import OnlineJudge.Store.Tables

/-!
# The tables of the discussions

The rows of `ModelComment` (`model_comment.hpp`) and `ModelSolution` (`model_solution.hpp`), and
their writes with what the foreign keys of `sql/` add to them.  `past` is no table: it holds every
version of a comment, which is what `GetCommentById` can return.
-/

namespace OnlineJudge.Discussions

open Table

open Store (DateTime)

inductive ActionType
  | like
  | favorite
  deriving DecidableEq

structure Comment where
  id : Nat
  parentId : Option Nat := none
  replyToUserId : Option Nat := none
  likeCount : Nat := 0
  favoriteCount : Nat := 0
  solutionId : Nat
  userId : Nat
  content : Bytes := []
  isEdited : Option Bool := some false
  createdAt : Option DateTime := none
  updatedAt : Option DateTime := none
  deriving DecidableEq

structure Solution where
  id : Nat
  questionId : Bytes := []
  userId : Nat
  title : Bytes := []
  contentMd : Bytes := []
  likeCount : Nat := 0
  favoriteCount : Nat := 0
  commentCount : Nat := 0
  status : Bytes := []
  createdAt : DateTime := 0
  updatedAt : DateTime := 0
  deriving DecidableEq

/-- What an action is on: the two tables `solution_actions` and `comment_actions`. -/
inductive ActionTarget
  | solution (id : Nat)
  | comment (id : Nat)
  deriving DecidableEq

structure ActionRow where
  target : ActionTarget
  userId : Nat
  actionType : ActionType
  deriving DecidableEq

structure Account where
  uid : Nat
  email : Bytes
  deriving DecidableEq

def Comment.actionCount (comment : Comment) : ActionType → Nat
  | .like => comment.likeCount
  | .favorite => comment.favoriteCount

def Comment.setActionCount (comment : Comment) (count : Nat) : ActionType → Comment
  | .like => { comment with likeCount := count }
  | .favorite => { comment with favoriteCount := count }

def Solution.actionCount (solution : Solution) : ActionType → Nat
  | .like => solution.likeCount
  | .favorite => solution.favoriteCount

def Solution.setActionCount (solution : Solution) (count : Nat) : ActionType → Solution
  | .like => { solution with likeCount := count }
  | .favorite => { solution with favoriteCount := count }

def Comment.isTopLevelOf (solutionId : Nat) (comment : Comment) : Bool :=
  comment.solutionId = solutionId && comment.parentId = none

theorem Comment.isTopLevelOf_iff {solutionId : Nat} {comment : Comment} :
    comment.isTopLevelOf solutionId = true ↔
      comment.solutionId = solutionId ∧ comment.parentId = none := by
  simp [isTopLevelOf]

structure Comment.SameIdentity (first second : Comment) : Prop where
  id : first.id = second.id
  parentId : first.parentId = second.parentId
  solutionId : first.solutionId = second.solutionId
  userId : first.userId = second.userId

theorem Comment.sameIdentity_setActionCount (comment : Comment) (count : Nat)
    (actionType : ActionType) : (comment.setActionCount count actionType).SameIdentity comment := by
  cases actionType <;> exact ⟨rfl, rfl, rfl, rfl⟩

theorem Comment.actionCount_setActionCount (comment : Comment) (count : Nat)
    (actionType other : ActionType) :
    (comment.setActionCount count actionType).actionCount other =
      if other = actionType then count else comment.actionCount other := by
  cases actionType <;> cases other <;> rfl

theorem Solution.id_setActionCount (solution : Solution) (count : Nat) (actionType : ActionType) :
    (solution.setActionCount count actionType).id = solution.id := by
  cases actionType <;> rfl

theorem Solution.actionCount_setActionCount (solution : Solution) (count : Nat)
    (actionType other : ActionType) :
    (solution.setActionCount count actionType).actionCount other =
      if other = actionType then count else solution.actionCount other := by
  cases actionType <;> cases other <;> rfl

@[ext]
structure Tables where
  accounts : Table Account Account.uid
  solutions : Table Solution Solution.id
  comments : Table Comment Comment.id
  actions : List ActionRow
  past : List Comment

namespace Tables

def findComment (id : Nat) (db : Tables) : Option Comment := db.comments.find id

def findSolution (id : Nat) (db : Tables) : Option Solution := db.solutions.find id

def hasUser (uid : Nat) (db : Tables) : Bool := (db.accounts.find uid).isSome

def used (id : Nat) (db : Tables) : Bool := db.past.any fun version => version.id = id

def children (id : Nat) (db : Tables) : List Nat :=
  (db.comments.rows.filter fun row => row.parentId = some id).map Comment.id

def commentsOf (uid : Nat) (db : Tables) : List Nat :=
  (db.comments.rows.filter fun row => row.userId = uid).map Comment.id

def actionsOn (target : ActionTarget) (db : Tables) : List ActionRow :=
  db.actions.filter fun action => action.target = target

def countActions (target : ActionTarget) (actionType : ActionType) (db : Tables) : Nat :=
  (db.actionsOn target).countP fun action => action.actionType = actionType

variable {db : Tables} {id : Nat} {action : ActionRow} {row : Comment} {target : ActionTarget}

theorem mem_children {child : Nat} :
    child ∈ db.children id ↔
      ∃ row, db.findComment child = some row ∧ row.parentId = some id := by
  simp only [children, mem_map_filter, decide_eq_true_eq, findComment]

theorem mem_commentsOf {uid : Nat} :
    id ∈ db.commentsOf uid ↔ ∃ row, db.findComment id = some row ∧ row.userId = uid := by
  simp only [commentsOf, mem_map_filter, decide_eq_true_eq, findComment]

theorem mem_actions_iff : action ∈ db.actions ↔ action ∈ db.actionsOn action.target := by
  simp [actionsOn]

theorem used_of_mem {version : Comment} (mem : version ∈ db.past) : db.used version.id = true := by
  simp only [used, List.any_eq_true, decide_eq_true_eq]
  exact ⟨version, mem, rfl⟩

theorem findComment_eq_none_of_unused (remembered : ∀ row ∈ db.comments.rows, row ∈ db.past)
    (new : db.used id = false) :
    db.findComment id = none := by
  refine Table.find_eq_none_iff.mpr fun row mem same => ?_
  have used := used_of_mem (remembered row mem)
  rw [same, new] at used
  cases used

def insertComment (row : Comment) (db : Tables) : Tables :=
  { db with comments := db.comments.insert row, past := row :: db.past }

def updateComment (row : Comment) (db : Tables) : Tables :=
  { db with comments := db.comments.update row, past := row :: db.past }

def updateSolution (row : Solution) (db : Tables) : Tables :=
  { db with solutions := db.solutions.update row }

def insertAction (action : ActionRow) (db : Tables) : Tables :=
  { db with actions := action :: db.actions }

def eraseAction (action : ActionRow) (db : Tables) : Tables :=
  { db with actions := db.actions.erase action }

def eraseActionsOn (target : ActionTarget) (db : Tables) : Tables :=
  { db with actions := db.actions.filter fun action => action.target ≠ target }

def eraseComments (ids : List Nat) (db : Tables) : Tables :=
  { db with
    comments := db.comments.keep fun row => row.id ∉ ids
    actions := db.actions.filter fun action => ∀ id ∈ ids, action.target ≠ .comment id }

/-- A user goes with the comments `ids` of theirs and with their actions. -/
def eraseUser (uid : Nat) (ids : List Nat) (db : Tables) : Tables :=
  let db := db.eraseComments ids
  { db with
    accounts := db.accounts.keep fun account => account.uid ≠ uid
    actions := db.actions.filter fun action => action.userId ≠ uid }

theorem findComment_insertComment (fresh : db.findComment row.id = none) (other : id ≠ row.id) :
    (db.insertComment row).findComment id = db.findComment id :=
  find_insert_of_ne fresh other

theorem findComment_insertComment_self (fresh : db.findComment row.id = none) :
    (db.insertComment row).findComment row.id = some row :=
  find_insert_self fresh

variable {old : Comment} {ids : List Nat}

theorem findComment_updateComment (found : db.findComment row.id = some old) (other : id ≠ row.id) :
    (db.updateComment row).findComment id = db.findComment id :=
  find_update_of_ne found other

theorem findComment_updateComment_self (found : db.findComment row.id = some old) :
    (db.updateComment row).findComment row.id = some row :=
  find_update_self found

theorem findSolution_updateSolution {row old : Solution} (found : db.findSolution row.id = some old)
    (other : id ≠ row.id) :
    (db.updateSolution row).findSolution id = db.findSolution id :=
  find_update_of_ne found other

theorem findSolution_updateSolution_self {row old : Solution}
    (found : db.findSolution row.id = some old) :
    (db.updateSolution row).findSolution row.id = some row :=
  find_update_self found

theorem findComment_eraseComments :
    (db.eraseComments ids).findComment id = some row ↔
      db.findComment id = some row ∧ id ∉ ids := by
  simp only [findComment, find_eq_some_iff, eraseComments, mem_keep, decide_eq_true_eq]
  constructor
  · rintro ⟨⟨mem, kept⟩, rfl⟩
    exact ⟨⟨mem, rfl⟩, kept⟩
  · rintro ⟨⟨mem, rfl⟩, kept⟩
    exact ⟨⟨mem, kept⟩, rfl⟩

theorem actionsOn_insertAction (other : action.target ≠ target) :
    (db.insertAction action).actionsOn target = db.actionsOn target := by
  simp [actionsOn, insertAction, other]

theorem actionsOn_eraseAction (other : action.target ≠ target) :
    (db.eraseAction action).actionsOn target = db.actionsOn target := by
  rw [actionsOn, eraseAction, ← List.erase_filter, actionsOn]
  refine List.erase_of_not_mem fun mem => other ?_
  simpa using (List.mem_filter.mp mem).2

theorem actionsOn_eraseComments (other : ∀ id ∈ ids, target ≠ .comment id) :
    (db.eraseComments ids).actionsOn target = db.actionsOn target := by
  rw [actionsOn, eraseComments, List.filter_filter, actionsOn]
  refine List.filter_congr fun action _ => ?_
  by_cases mine : action.target = target
  · simpa [mine] using other
  · simp [mine]

end Tables

end OnlineJudge.Discussions
