import OnlineJudge.Discussions.Transactions

/-!
# What the row locks of the discussions protect

`Agree` says, for each lock, what stays as it is while a transaction holds it and others commit.
The lock of a comment also keeps new answers away, although answers may be erased without it.
-/

namespace OnlineJudge.Discussions

open Tables

/-- The lock of a comment protects its row, whether its number is used, and its action rows;
and no other transaction adds answers to it. -/
structure CommentKept (tracked : Bool) (id : Nat) (db db' : Tables) : Prop where
  found : db'.findComment id = db.findComment id
  used : db'.used id = db.used id
  children : db'.children id ⊆ db.children id
  actions : tracked = true → db'.actionsOn (.comment id) = db.actionsOn (.comment id)

structure SolutionKept (tracked : Bool) (id : Nat) (db db' : Tables) : Prop where
  found : db'.findSolution id = db.findSolution id
  actions : tracked = true → db'.actionsOn (.solution id) = db.actionsOn (.solution id)

/-- The lock of a user protects the row; under an exclusive lock the user does not get new
comments. -/
structure UserKept (exclusive : Bool) (uid : Nat) (db db' : Tables) : Prop where
  found : db'.hasUser uid = db.hasUser uid
  comments : exclusive = true → db'.commentsOf uid ⊆ db.commentsOf uid

/-- What stays while a lock is held.  The erasure of a user erases the user's actions
without the locks of their targets, so the action rows are `tracked` only where accounts
are not deleted. -/
def Agree (tracked : Bool) : Lock → Tables → Tables → Prop
  | .comment id => CommentKept tracked id
  | .solution id => SolutionKept tracked id
  | .user uid exclusive => UserKept exclusive uid

structure Grows (db db' : Tables) : Prop where
  past : db.past ⊆ db'.past
  accounts : db'.accounts.rows ⊆ db.accounts.rows

theorem Agree.refl (tracked : Bool) (lock : Lock) (db : Tables) : Agree tracked lock db db := by
  cases lock with
  | comment => exact ⟨rfl, rfl, List.Subset.refl _, fun _ => rfl⟩
  | solution => exact ⟨rfl, fun _ => rfl⟩
  | user => exact ⟨rfl, fun _ => List.Subset.refl _⟩

theorem Agree.trans {tracked : Bool} {lock : Lock} {db db' db'' : Tables}
    (first : Agree tracked lock db db') (second : Agree tracked lock db' db'') :
    Agree tracked lock db db'' := by
  cases lock with
  | comment =>
    exact ⟨second.found.trans first.found, second.used.trans first.used,
      List.Subset.trans second.children first.children,
      fun isTracked => (second.actions isTracked).trans (first.actions isTracked)⟩
  | solution =>
    exact ⟨second.found.trans first.found,
      fun isTracked => (second.actions isTracked).trans (first.actions isTracked)⟩
  | user =>
    exact ⟨second.found.trans first.found,
      fun isExclusive =>
        List.Subset.trans (second.comments isExclusive) (first.comments isExclusive)⟩

theorem Grows.refl (db : Tables) : Grows db db := ⟨List.Subset.refl _, List.Subset.refl _⟩

def ActionTarget.lock : ActionTarget → Lock
  | .solution id => .solution id
  | .comment id => .comment id

section Writes

variable {tracked : Bool} {lock : Lock} {db : Tables} {row : Comment} {id : Nat}
    {found old : Comment} {ids : List Nat} {action : ActionRow}

theorem findComment_of_insertComment (fresh : db.findComment row.id = none)
    (isFound : (db.insertComment row).findComment id = some found) :
    found = row ∨ db.findComment id = some found := by
  by_cases new : id = row.id
  · subst new
    rw [findComment_insertComment_self fresh] at isFound
    exact .inl (Option.some.inj isFound).symm
  · rw [findComment_insertComment fresh new] at isFound
    exact .inr isFound

theorem agree_insertComment (fresh : db.findComment row.id = none) (self : lock ≠ .comment row.id)
    (parent : ∀ id, row.parentId = some id → lock ≠ .comment id)
    (author : lock ≠ .user row.userId true) : Agree tracked lock db (db.insertComment row) := by
  cases lock with
  | comment id =>
    have other : id ≠ row.id := fun same => self (congrArg Lock.comment same)
    refine ⟨findComment_insertComment fresh other, ?_, ?_, fun _ => rfl⟩
    · simp [used, insertComment, other.symm]
    · intro child member
      obtain ⟨found, isFound, isChild⟩ := mem_children.mp member
      rcases findComment_of_insertComment fresh isFound with rfl | before
      · exact absurd rfl (parent id isChild)
      · exact mem_children.mpr ⟨found, before, isChild⟩
  | solution => exact ⟨rfl, fun _ => rfl⟩
  | user =>
    refine ⟨rfl, fun isExclusive id member => ?_⟩
    subst isExclusive
    obtain ⟨found, isFound, written⟩ := mem_commentsOf.mp member
    rcases findComment_of_insertComment fresh isFound with rfl | before
    · exact absurd (congrArg (Lock.user · true) written.symm) author
    · exact mem_commentsOf.mpr ⟨found, before, written⟩

theorem findComment_of_updateComment (known : db.findComment row.id = some old)
    (same : row.SameIdentity old) (isFound : (db.updateComment row).findComment id = some found) :
    ∃ before, db.findComment id = some before ∧ found.SameIdentity before := by
  by_cases updated : id = row.id
  · subst updated
    rw [findComment_updateComment_self known] at isFound
    cases isFound
    exact ⟨old, known, same⟩
  · rw [findComment_updateComment known updated] at isFound
    exact ⟨found, isFound, rfl, rfl, rfl, rfl⟩

theorem agree_updateComment (known : db.findComment row.id = some old) (same : row.SameIdentity old)
    (self : lock ≠ .comment row.id) :
    Agree tracked lock db (db.updateComment row) := by
  cases lock with
  | comment id =>
    have other : id ≠ row.id := fun same => self (congrArg Lock.comment same)
    refine ⟨findComment_updateComment known other, ?_, ?_, fun _ => rfl⟩
    · simp [used, Tables.updateComment, other.symm]
    · intro child member
      obtain ⟨found, isFound, isChild⟩ := mem_children.mp member
      obtain ⟨before, wasFound, alike⟩ := findComment_of_updateComment known same isFound
      exact mem_children.mpr ⟨before, wasFound, alike.parentId.symm.trans isChild⟩
  | solution => exact ⟨rfl, fun _ => rfl⟩
  | user =>
    refine ⟨rfl, fun _ id member => ?_⟩
    obtain ⟨found, isFound, written⟩ := mem_commentsOf.mp member
    obtain ⟨before, wasFound, alike⟩ := findComment_of_updateComment known same isFound
    exact mem_commentsOf.mpr ⟨before, wasFound, alike.userId.symm.trans written⟩

theorem agree_updateSolution {row old : Solution} (known : db.findSolution row.id = some old)
    (self : lock ≠ .solution row.id) : Agree tracked lock db (db.updateSolution row) := by
  cases lock with
  | comment => exact ⟨rfl, rfl, List.Subset.refl _, fun _ => rfl⟩
  | solution id =>
    have other : id ≠ row.id := fun same => self (congrArg Lock.solution same)
    exact ⟨findSolution_updateSolution known other, fun _ => rfl⟩
  | user => exact ⟨rfl, fun _ => List.Subset.refl _⟩

theorem agree_eraseComments (erased : ∀ id ∈ ids, lock ≠ .comment id) :
    Agree tracked lock db (db.eraseComments ids) := by
  cases lock with
  | comment id =>
    have kept : id ∉ ids := fun member => erased id member rfl
    refine ⟨?_, rfl, ?_, fun _ => ?_⟩
    · ext row
      rw [findComment_eraseComments]
      exact and_iff_left kept
    · intro child member
      obtain ⟨row, isFound, isChild⟩ := mem_children.mp member
      exact mem_children.mpr ⟨row, (findComment_eraseComments.mp isFound).1, isChild⟩
    · refine actionsOn_eraseComments fun other member same => ?_
      cases same
      exact kept member
  | solution => exact ⟨rfl, fun _ => actionsOn_eraseComments fun _ _ => nofun⟩
  | user =>
    refine ⟨rfl, fun _ id member => ?_⟩
    obtain ⟨row, isFound, written⟩ := mem_commentsOf.mp member
    exact mem_commentsOf.mpr ⟨row, (findComment_eraseComments.mp isFound).1, written⟩

theorem agree_of_actions {db' : Tables} {target : ActionTarget} (self : lock ≠ target.lock)
    (comments : db'.comments = db.comments) (solutions : db'.solutions = db.solutions)
    (accounts : db'.accounts = db.accounts) (past : db'.past = db.past)
    (actions : ∀ other, target ≠ other → db'.actionsOn other = db.actionsOn other) :
    Agree tracked lock db db' := by
  cases lock with
  | comment =>
    refine ⟨?_, ?_, ?_, fun _ => actions _ ?_⟩
    · rw [findComment, comments, findComment]
    · rw [used, past, used]
    · rw [children, comments, children]
      exact List.Subset.refl _
    · rintro rfl
      exact self rfl
  | solution =>
    refine ⟨?_, fun _ => actions _ ?_⟩
    · rw [findSolution, solutions, findSolution]
    · rintro rfl
      exact self rfl
  | user =>
    refine ⟨?_, fun _ => ?_⟩
    · rw [hasUser, accounts, hasUser]
    · rw [commentsOf, comments, commentsOf]
      exact List.Subset.refl _

theorem agree_insertAction (self : lock ≠ action.target.lock) :
    Agree tracked lock db (db.insertAction action) :=
  agree_of_actions self rfl rfl rfl rfl fun _ => actionsOn_insertAction

theorem agree_eraseAction (self : lock ≠ action.target.lock) :
    Agree tracked lock db (db.eraseAction action) :=
  agree_of_actions self rfl rfl rfl rfl fun _ => actionsOn_eraseAction

theorem agree_eraseUser {uid : Nat} (self : ∀ exclusive, lock ≠ .user uid exclusive)
    (erased : ∀ id ∈ ids, lock ≠ .comment id) : Agree false lock db (db.eraseUser uid ids) := by
  have comments : Agree false lock db (db.eraseComments ids) := agree_eraseComments erased
  refine comments.trans ?_
  cases lock with
  | comment => exact ⟨rfl, rfl, List.Subset.refl _, nofun⟩
  | solution => exact ⟨rfl, nofun⟩
  | user other exclusive =>
    refine ⟨?_, fun _ => List.Subset.refl _⟩
    have different : other ≠ uid := by
      rintro rfl
      exact self exclusive rfl
    have kept : ((db.eraseUser uid ids).accounts.find other) = db.accounts.find other := by
      refine Table.find_congr fun account keyed => ?_
      rw [eraseUser, Table.mem_keep]
      simp [eraseComments, keyed, different]
    rw [hasUser, kept]
    rfl

end Writes

end OnlineJudge.Discussions
