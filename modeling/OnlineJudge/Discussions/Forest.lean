import OnlineJudge.Discussions.Atomicity

/-!
# The comment forest

`PostComment` sees to it that comments have two levels, from a version of the parent that may be
out of date.  Account deletion erases comments but not the answers to them
(`answers_without_parent`).
-/

namespace OnlineJudge.Discussions

open LockedTransactions Table Comment Tables
open Store (DateTime)

/-! ## The forest -/

def ParentsStand (comments : Table Comment id) : Prop :=
  ∀ row ∈ comments.rows, ∀ parentId, row.parentId = some parentId →
    ∃ parent ∈ comments.rows, parent.id = parentId ∧ parent.parentId = none ∧
      parent.solutionId = row.solutionId

def CountsMatch (solutions : Table Solution Solution.id) (comments : Table Comment id) :
    Prop :=
  ∀ solution ∈ solutions.rows, solution.commentCount = comments.count (isTopLevelOf solution.id)

/-- What `GetCommentById` may return tells the level of a comment for all time. -/
structure Remembered (db : Tables) : Prop where
  rows : ∀ row ∈ db.comments.rows, row ∈ db.past
  positive : ∀ version ∈ db.past, 0 < version.id
  level : ∀ version ∈ db.past, ∀ version' ∈ db.past, version.id = version'.id →
    version.parentId = version'.parentId
  above : ∀ version ∈ db.past, ∀ parentId, version.parentId = some parentId →
    ∃ parent ∈ db.past, parent.id = parentId ∧ parent.parentId = none

structure Forest (db : Tables) : Prop where
  parents : ParentsStand db.comments
  counts : CountsMatch db.solutions db.comments
  remembered : Remembered db

section Parents

variable {comments : Table Comment id} {row old : Comment}

theorem ParentsStand.insert (stand : ParentsStand comments) (new : comments.find row.id = none)
    (parent : ∀ parentId, row.parentId = some parentId → ∃ parent,
      comments.find parentId = some parent ∧ parent.solutionId = row.solutionId ∧
        parent.parentId = none) : ParentsStand (comments.insert row) := by
  intro other mem parentId isParent
  rcases (mem_insert new).mp mem with rfl | mem'
  · obtain ⟨above, found, same, top⟩ := parent parentId isParent
    obtain ⟨there, keyed⟩ := Table.find_eq_some_iff.mp found
    exact ⟨above, (mem_insert new).mpr (.inr there), keyed, top, same⟩
  · obtain ⟨above, there, rest⟩ := stand other mem' parentId isParent
    exact ⟨above, (mem_insert new).mpr (.inr there), rest⟩

theorem ParentsStand.update (stand : ParentsStand comments)
    (found : comments.find row.id = some old) (same : row.SameIdentity old) :
    ParentsStand (comments.update row) := by
  -- each row after the update has a row before it with the same identity, and conversely
  have before : ∀ other ∈ (comments.update row).rows, ∃ was ∈ comments.rows,
      other.SameIdentity was := by
    intro other mem
    rcases (mem_update found).mp mem with rfl | ⟨mem', _⟩
    · exact ⟨old, (Table.find_eq_some_iff.mp found).1, same⟩
    · exact ⟨other, mem', rfl, rfl, rfl, rfl⟩
  have after : ∀ was ∈ comments.rows, ∃ other ∈ (comments.update row).rows,
      other.SameIdentity was := by
    intro was mem
    by_cases updated : was.id = row.id
    · obtain ⟨there, keyed⟩ := Table.find_eq_some_iff.mp found
      obtain rfl := eq_of_key mem there (updated.trans keyed.symm)
      exact ⟨row, (mem_update found).mpr (.inl rfl), same⟩
    · exact ⟨was, (mem_update found).mpr (.inr ⟨mem, updated⟩), rfl, rfl, rfl, rfl⟩
  intro other mem parentId isParent
  obtain ⟨was, mem', alike⟩ := before other mem
  obtain ⟨above, there, keyed, top, solution⟩ :=
    stand was mem' parentId (alike.parentId.symm.trans isParent)
  obtain ⟨now, there', alike'⟩ := after above there
  exact ⟨now, there', alike'.id.trans keyed, alike'.parentId.trans top,
    alike'.solutionId.trans (solution.trans alike.solutionId.symm)⟩

theorem ParentsStand.keep {p : Comment → Bool} (stand : ParentsStand comments)
    (whole : ∀ row ∈ comments.rows, ∀ above ∈ comments.rows, row.parentId = some above.id →
      above.parentId = none → p row = true → p above = true) : ParentsStand (comments.keep p) := by
  intro other mem parentId isParent
  obtain ⟨mem', kept⟩ := Table.mem_keep.mp mem
  obtain ⟨above, there, rfl, top, same⟩ := stand other mem' parentId isParent
  exact ⟨above, Table.mem_keep.mpr ⟨there, whole other mem' above there isParent top kept⟩, rfl,
    top, same⟩

end Parents

section Counts

variable {solutions : Table Solution Solution.id} {comments comments' : Table Comment id}
  {solution : Solution}

theorem CountsMatch.congr (matching : CountsMatch solutions comments)
    (same : ∀ id, comments'.count (isTopLevelOf id) =
      comments.count (isTopLevelOf id)) : CountsMatch solutions comments' := by
  intro other mem
  rw [same]
  exact matching other mem

theorem CountsMatch.update (matching : CountsMatch solutions comments)
    (found : solutions.find solution.id = some solution) (count : Nat)
    (counted : count = comments'.count (isTopLevelOf solution.id))
    (others : ∀ id, id ≠ solution.id →
      comments'.count (isTopLevelOf id) = comments.count (isTopLevelOf id)) :
    CountsMatch (solutions.update { solution with commentCount := count }) comments' := by
  intro other mem
  have known : solutions.find ({ solution with commentCount := count } : Solution).id =
    some solution := found
  rcases (mem_update known).mp mem with rfl | ⟨mem', different⟩
  · exact counted
  · rw [others other.id different]
    exact matching other mem'

end Counts

namespace Remembered

variable {db : Tables}

section

variable (remembered : Remembered db)
include remembered

theorem parentId_eq_none {version parent : Comment} (seen : version ∈ db.past)
    (there : parent ∈ db.comments.rows)
    (chosen : parent.id = if 0 < version.parentId.getD 0 then version.parentId.getD 0
      else version.id) : parent.parentId = none := by
  have known := remembered.rows parent there
  cases answers : version.parentId with
  | none =>
    rw [answers] at chosen
    rw [remembered.level parent known version seen chosen, answers]
  | some parentId =>
    obtain ⟨above, seen', keyed, top⟩ := remembered.above version seen parentId answers
    have positive : 0 < parentId := keyed ▸ remembered.positive above seen'
    rw [answers, Option.getD_some, if_pos positive, ← keyed] at chosen
    rw [remembered.level parent known above seen' chosen, top]

theorem of_subset {db' : Tables} (past : db'.past = db.past)
    (rows : db'.comments.rows ⊆ db.comments.rows) : Remembered db' where
  rows row mem := past ▸ remembered.rows row (rows mem)
  positive := past ▸ remembered.positive
  level := past ▸ remembered.level
  above := past ▸ remembered.above

theorem cons {db' : Tables} {row : Comment} (past : db'.past = row :: db.past)
    (rows : ∀ other ∈ db'.comments.rows, other = row ∨ other ∈ db.comments.rows)
    (positive : 0 < row.id)
    (level : ∀ version ∈ db.past, version.id = row.id → version.parentId = row.parentId)
    (above : ∀ parentId, row.parentId = some parentId →
      ∃ parent ∈ db.past, parent.id = parentId ∧ parent.parentId = none) : Remembered db' where
  rows other mem := by
    rw [past, List.mem_cons]
    exact (rows other mem).imp id (remembered.rows other)
  positive := by
    rw [past, List.forall_mem_cons]
    exact ⟨positive, remembered.positive⟩
  level := by
    rw [past]
    simp only [List.forall_mem_cons]
    refine ⟨⟨fun _ => trivial, fun version seen same => ?_⟩,
      fun version seen => ⟨fun same => ?_, ?_⟩⟩
    · exact (level version seen same.symm).symm
    · exact level version seen same
    · exact remembered.level version seen
  above := by
    rw [past, List.forall_mem_cons]
    constructor
    · intro parentId isParent
      obtain ⟨parent, seen, rest⟩ := above parentId isParent
      exact ⟨parent, List.mem_cons_of_mem _ seen, rest⟩
    · intro version seen parentId isParent
      obtain ⟨parent, seen', rest⟩ := remembered.above version seen parentId isParent
      exact ⟨parent, List.mem_cons_of_mem _ seen', rest⟩

theorem parentId_eq_none_of_getD {row : Comment} (there : row ∈ db.comments.rows)
    (zero : row.parentId.getD 0 = 0) : row.parentId = none := by
  cases answers : row.parentId with
  | none => rfl
  | some parentId =>
    obtain ⟨above, seen, keyed, _⟩ :=
      remembered.above row (remembered.rows row there) parentId answers
    have positive := remembered.positive above seen
    rw [answers, Option.getD_some] at zero
    omega

end

end Remembered

/-! ## What the operations preserve -/

namespace Forest

variable {db : Tables} {row : Comment} {solution : Solution}

theorem addComment (forest : Forest db) (new : db.used row.id = false) (positive : 0 < row.id)
    (found : db.findSolution row.solutionId = some solution)
    (parent : ∀ parentId, row.parentId = some parentId → ∃ parent,
      db.findComment parentId = some parent ∧ parent.solutionId = row.solutionId ∧
        parent.parentId = none) : Forest (db.addComment row solution) := by
  have unused : ∀ version ∈ db.past, version.id ≠ row.id := by
    intro version seen same
    have used := used_of_mem seen
    rw [same, new] at used
    cases used
  have fresh : db.comments.find row.id = none :=
    findComment_eq_none_of_unused forest.remembered.rows new
  have remembered : Remembered (db.insertComment row) := by
    refine forest.remembered.cons rfl (fun other => (mem_insert fresh).mp) positive
      (fun version seen same => absurd same (unused version seen)) fun parentId isParent => ?_
    obtain ⟨above, isFound, _, top⟩ := parent parentId isParent
    obtain ⟨there, keyed⟩ := Table.find_eq_some_iff.mp isFound
    exact ⟨above, forest.remembered.rows above there, keyed, top⟩
  have parents : ParentsStand (db.comments.insert row) := forest.parents.insert fresh parent
  obtain ⟨there, isIts⟩ := Table.find_eq_some_iff.mp found
  have counts := count_insert fresh
  unfold Tables.addComment
  split
  case isTrue top =>
    have counted : solution.commentCount + 1 =
        (db.comments.insert row).count (isTopLevelOf solution.id) := by
      rw [counts, forest.counts solution there, if_pos]
      exact isTopLevelOf_iff.mpr ⟨isIts.symm, top⟩
    have others : ∀ id, id ≠ solution.id →
        (db.comments.insert row).count (isTopLevelOf id) =
          db.comments.count (isTopLevelOf id) := by
      intro id different
      rw [counts, if_neg, Nat.add_zero]
      intro isCounted
      exact different ((isTopLevelOf_iff.mp isCounted).1.symm.trans isIts.symm)
    rw [← isIts] at found
    exact ⟨parents, forest.counts.update found _ counted others,
      remembered.of_subset rfl (List.Subset.refl _)⟩
  case isFalse answers =>
    refine ⟨parents, forest.counts.congr fun id => ?_, remembered⟩
    rw [insertComment, counts, if_neg, Nat.add_zero]
    intro counted
    exact answers (isTopLevelOf_iff.mp counted).2

theorem updateComment (forest : Forest db) {old : Comment}
    (found : db.findComment row.id = some old) (same : row.SameIdentity old) :
    Forest (db.updateComment row) := by
  obtain ⟨there, keyed⟩ := Table.find_eq_some_iff.mp found
  have known := forest.remembered.rows old there
  refine ⟨forest.parents.update found same, forest.counts.congr fun id => ?_, ?_⟩
  · refine count_update found ?_
    rw [isTopLevelOf, same.solutionId, same.parentId, isTopLevelOf]
  · refine forest.remembered.cons rfl ?_ (same.id ▸ forest.remembered.positive old known)
      (fun version seen same' => ?_) fun parentId isParent => ?_
    · intro other mem
      exact ((mem_update found).mp mem).imp id And.left
    · rw [same.parentId]
      exact forest.remembered.level version seen old known (same'.trans same.id)
    · exact forest.remembered.above old known parentId (same.parentId ▸ isParent)

variable {erased : List Nat}

theorem parentId_of_child {id : Nat} {child : Comment}
    (children : ∀ child, child ∈ erased ↔ child ∈ db.children id)
    (there : child ∈ db.comments.rows) (among : child.id ∈ erased) : child.parentId = some id := by
  obtain ⟨found, isFound, isChild⟩ := mem_children.mp ((children child.id).mp among)
  have itself : db.findComment child.id = some child := find_key there
  rw [itself] at isFound
  cases isFound
  exact isChild

theorem removeThread (forest : Forest db) (found : db.findComment row.id = some row)
    (isSolution : db.findSolution row.solutionId = some solution)
    (children : ∀ child, child ∈ erased ↔ child ∈ db.children row.id) :
    Forest (db.removeThread row erased solution) := by
  obtain ⟨there, _⟩ := Table.find_eq_some_iff.mp found
  have remembered : Remembered (db.eraseComments (row.id :: erased)) :=
    forest.remembered.of_subset rfl (List.filter_subset_self _)
  have parents : ParentsStand (db.eraseComments (row.id :: erased)).comments := by
    refine forest.parents.keep fun other mem above there' isParent top kept => ?_
    simp only [List.mem_cons, not_or, decide_eq_true_eq] at kept ⊢
    constructor
    · intro isRow
      -- the answers to the erased comment are erased
      refine kept.2 ((children other.id).mpr (mem_children.mpr ⟨other, ?_, ?_⟩))
      · exact find_key mem
      · rw [isParent, isRow]
    · intro among
      rw [parentId_of_child children there' among] at top
      cases top
  -- what goes with the comment is on the second level, and not counted
  have second : ∀ id, ∀ other ∈ db.comments.rows, other.id ≠ row.id →
      other.isTopLevelOf id = true → decide (other.id ∉ row.id :: erased) = true := by
    intro id other mem different counted
    simp only [List.mem_cons, not_or, decide_eq_true_eq]
    refine ⟨different, fun among => ?_⟩
    have top := (isTopLevelOf_iff.mp counted).2
    rw [parentId_of_child children mem among] at top
    cases top
  unfold Tables.removeThread
  split
  case isTrue zero =>
    have top := forest.remembered.parentId_eq_none_of_getD there zero
    obtain ⟨_, isIts⟩ := Table.find_eq_some_iff.mp isSolution
    rw [← isIts] at isSolution
    refine ⟨parents, ?_, remembered.of_subset rfl (List.Subset.refl _)⟩
    refine forest.counts.update isSolution _ ?_ fun id different => ?_
    · have counted := count_keep_of_mem there (by simp)
        (isTopLevelOf_iff.mpr ⟨isIts.symm, top⟩) (second solution.id)
      rw [forest.counts solution (Table.find_eq_some_iff.mp isSolution).1, ← counted]
      rfl
    · refine count_keep fun other mem counted => ?_
      refine second id other mem (fun same => different ?_) counted
      rw [eq_of_key mem there same] at counted
      rw [← (isTopLevelOf_iff.mp counted).1, isIts]
  case isFalse answers =>
    refine ⟨parents, forest.counts.congr fun id => ?_, remembered⟩
    refine count_keep fun other mem counted => ?_
    refine second id other mem (fun same => answers ?_) counted
    rw [eq_of_key mem there same] at counted
    rw [(isTopLevelOf_iff.mp counted).2, Option.getD_none]

theorem eraseUser (forest : Forest db) {uid : Nat}
    (spared : ∀ row ∈ db.comments.rows, row.userId = uid → row.parentId ≠ none)
    (comments : ∀ id, id ∈ erased ↔ id ∈ db.commentsOf uid) : Forest (db.eraseUser uid erased) := by
  -- no comment on the first level is erased
  have kept : ∀ row ∈ db.comments.rows, row.parentId = none →
      decide (row.id ∉ erased) = true := by
    intro row mem top
    rw [decide_eq_true_eq]
    intro among
    obtain ⟨found, isFound, written⟩ := mem_commentsOf.mp ((comments row.id).mp among)
    have itself : db.findComment row.id = some row := find_key mem
    rw [itself] at isFound
    cases isFound
    exact spared row mem written top
  refine ⟨?_, ?_, forest.remembered.of_subset rfl (List.filter_subset_self _)⟩
  · exact forest.parents.keep fun _ _ above there _ top _ => kept above there top
  · refine forest.counts.congr fun id => count_keep fun row mem counted => ?_
    exact kept row mem (isTopLevelOf_iff.mp counted).2

end Forest

/-! ## The runs -/

def Spared (setting : Setting) (email : Bytes) (db : Tables) : Prop :=
  ∀ account ∈ db.accounts.rows, setting.collation.equal account.email email = true →
    ∀ row ∈ db.comments.rows, row.userId = account.uid → row.parentId ≠ none

instance (setting : Setting) (email : Bytes) (db : Tables) : Decidable (Spared setting email db) :=
  inferInstanceAs (Decidable (∀ account ∈ db.accounts.rows,
    setting.collation.equal account.email email = true →
      ∀ row ∈ db.comments.rows, row.userId = account.uid → row.parentId ≠ none))

variable (setting : Setting)

/-- `PostComment`, `UpdateComment`, `DeleteComment` and `DeleteUserByEmail`.  What
`PostComment` has seen of the parent is a version that was committed at some time. -/
def forestTerms : Terms where
  setting := setting
  admits db
    | .postComment request _ parent _ => parent.all fun version =>
      decide (version ∈ db.past) && version.id = request.parentId
    | .updateComment .. | .deleteComment .. | .deleteUserByEmail _ => true
    | .createComment .. | .toggleSolutionAction .. | .toggleCommentAction .. => false
  Inv := Forest
  Meets
    | .deleteUserByEmail email, db => Spared setting email db
    | _, _ => True
  tracked := false

abbrev ForestState := State (forestTerms setting).workload

def sparesTopLevel (s : ForestState setting)
    (action : Action (forestTerms setting).workload) : Bool :=
  match committing s action with
  | some (.deleteUserByEmail email) => decide (Spared setting email s.db)
  | _ => true

theorem PostRequest.parent_of_draft {request : PostRequest} {isPublic : Bool}
    {parent : Option Comment} {draft : CommentDraft}
    (accepted : request.draft isPublic parent = .ok draft) {parentId : Nat}
    (chosen : nonZero (draft.parentId.getD 0) = some parentId) :
    ∃ version, parent = some version ∧ parentId =
      if 0 < version.parentId.getD 0 then version.parentId.getD 0 else request.parentId := by
  have same := nonZero_eq_some chosen
  unfold PostRequest.draft at accepted
  dsimp only at accepted
  repeat' split at accepted
  all_goals cases accepted
  case isTrue.refl zero => exact absurd same.2 (by simpa [zero] using same.1.symm)
  case h_2.isFalse.isTrue.refl version _ positive =>
    exact ⟨version, rfl, by rw [if_pos positive, ← same.1]⟩
  case h_2.isFalse.isFalse.refl version _ zero =>
    exact ⟨version, rfl, by rw [if_neg zero, ← same.1, Option.getD_some]⟩

theorem stable_admits (call : Call) :
    (forestTerms setting).contract.Stable []
      fun db => (forestTerms setting).admits db call = true := by
  intro db db' rely admitted
  cases call with
  | postComment request isPublic parent =>
    cases parent with
    | none => rfl
    | some =>
      simp only [forestTerms, Option.all_some, Bool.and_eq_true, decide_eq_true_eq] at admitted ⊢
      exact ⟨rely.grows.past admitted.1, admitted.2⟩
  | createComment | toggleSolutionAction | toggleCommentAction => cases admitted
  | _ => rfl

theorem outlined_postComment {setting : Setting} (request : PostRequest) (isPublic : Bool)
    (parent : Option Comment) (now : DateTime) :
    let call := Call.postComment request isPublic parent now
    (forestTerms setting).contract.Outlined call true
      (fun db => (forestTerms setting).admits db call = true) [] id
      (postComment request isPublic parent now) := by
  intro call
  unfold postComment
  cases accepted : request.draft isPublic parent with
  | error => trivial
  | ok =>
  refine outlined_createComment (fun db forest => forest.remembered.rows)
    (stable_admits setting call) ?_
  intro db number solution forest admitted isParent found new
  refine forest.addComment new (Nat.succ_pos number) found fun parentId chosen => ?_
  obtain ⟨above, isFound, same⟩ := isParent parentId chosen
  refine ⟨above, isFound, same, ?_⟩
  obtain ⟨version, rfl, choice⟩ := PostRequest.parent_of_draft accepted chosen
  simp only [call, forestTerms, Option.all_some, Bool.and_eq_true, decide_eq_true_eq] at admitted
  obtain ⟨there, keyed⟩ := Table.find_eq_some_iff.mp isFound
  refine forest.remembered.parentId_eq_none admitted.1 there ?_
  rw [keyed, choice, admitted.2]

theorem forest_outline : Outline (forestTerms setting).contract where
  symm := Lock.conflict_comm
  admitted := stable_admits setting
  body
    | .postComment request isPublic parent now => outlined_postComment request isPublic parent now
    | .updateComment commentId uid content now => by
        have stable := stable_admits setting (.updateComment commentId uid content now)
        refine outlined_updateComment stable fun db row forest isFound => ?_
        exact forest.updateComment isFound ⟨rfl, rfl, rfl, rfl⟩
    | .deleteComment commentId uid isAdmin => by
        have stable := stable_admits setting (.deleteComment commentId uid isAdmin)
        refine outlined_deleteComment stable ?_
        intro db row erased solution forest isFound isSolution children
        exact forest.removeThread isFound isSolution children
    | .deleteUserByEmail email => by
        refine outlined_deleteUserByEmail rfl (stable_admits setting (.deleteUserByEmail email)) ?_
        intro db account erased forest spared mem matching comments
        exact forest.eraseUser (spared account mem matching) comments
    | .createComment .. => Contract.outlined_of_not (fun _ => nofun) _ _ _ _
    | .toggleSolutionAction .. => Contract.outlined_of_not (fun _ => nofun) _ _ _ _
    | .toggleCommentAction .. => Contract.outlined_of_not (fun _ => nofun) _ _ _ _

theorem allowed_of_sparesTopLevel {setting : Setting} {s : ForestState setting}
    {action : Action (forestTerms setting).workload}
    (spares : sparesTopLevel setting s action = true) :
    (forestTerms setting).contract.Allowed s action := by
  intro call commits
  have isCall : committing s action = some call := commits
  cases call with
  | deleteUserByEmail email =>
    rw [sparesTopLevel, isCall] at spares
    have spared : Spared setting email s.db := of_decide_eq_true spares
    exact spared
  | _ => trivial

/-- **The comment forest.** In every interleaving that deletes no account with comments on the first
level, every committed state is a forest of two levels with exact counters. -/
theorem comment_forest (setting : Setting) {initial : Tables} (consistent : Forest initial)
    {s : ForestState setting}
    (reachable : (system (forestTerms setting).workload initial).ReachableUnder
      (fun s action => sparesTopLevel setting s action = true) s) :
    ParentsStand s.db.comments ∧ CountsMatch s.db.solutions s.db.comments := by
  have forest := ((forest_outline setting).sound consistent
    (reachable.mono fun _ _ => allowed_of_sparesTopLevel)).inv
  exact ⟨forest.parents, forest.counts⟩

/-! ## A thread -/

def bytewise : Setting where
  collation := ⟨fun value => value⟩
  solutionActionsCascade := true

def threadComment : Comment := { id := 10, solutionId := 5, userId := 2 }

def threadReply : Comment :=
  { id := 11, parentId := some 10, replyToUserId := some 2, solutionId := 5, userId := 1 }

def thread : Tables where
  accounts := ⟨[⟨1, [1]⟩, ⟨2, [2]⟩, ⟨3, [3]⟩], by decide⟩
  solutions := ⟨[{ id := 5, userId := 3, commentCount := 1 }], by decide⟩
  comments := ⟨[threadReply, threadComment], by decide⟩
  actions := []
  past := [threadReply, threadComment]

theorem forest_thread : Forest thread where
  parents := by
    intro row mem parentId isParent
    simp only [thread, List.mem_cons, List.not_mem_nil, or_false] at mem
    rcases mem with rfl | rfl
    · cases isParent
      exact ⟨threadComment, by simp [thread], rfl, rfl, rfl⟩
    · cases isParent
  counts := by
    unfold CountsMatch
    decide
  remembered := {
    rows := fun _ mem => mem
    positive := by decide
    level := by decide
    above := by
      intro version mem parentId isParent
      simp only [thread, List.mem_cons, List.not_mem_nil, or_false] at mem
      rcases mem with rfl | rfl
      · cases isParent
        exact ⟨threadComment, by simp [thread], rfl, rfl⟩
      · cases isParent }

/-- User 1 deletes their account while user 3 answers the reply. -/
theorem comment_forest_thread : ∃ s : ForestState bytewise,
    (system (forestTerms bytewise).workload thread).ReachableUnder
      (fun s action => sparesTopLevel bytewise s action = true) s ∧
    s.db.comments.rows.map Comment.id = [12, 10] ∧
    ParentsStand s.db.comments ∧ CountsMatch s.db.solutions s.db.comments := by
  obtain ⟨s, reached, checks⟩ := (system (forestTerms bytewise).workload thread).exists_of_runUnder
    (sparesTopLevel bytewise)
    [.start 0 (.postComment ⟨5, 3, [111, 107], 11⟩ true (some threadReply) 0), .proceed 0 0,
      .start 1 (.deleteUserByEmail [1]), .proceed 1 0, .proceed 0 0, .proceed 0 11, .proceed 0 0,
      .proceed 1 0, .proceed 0 0, .proceed 0 0, .proceed 1 0, .proceed 1 0]
    (fun s => decide (s.db.comments.rows.map Comment.id = [12, 10])) (by decide +kernel)
  exact ⟨s, reached, of_decide_eq_true checks, comment_forest bytewise forest_thread reached⟩

/-- User 2 deletes their account: the answer loses its parent and the solution still counts
the comment. -/
theorem answers_without_parent : Forest thread ∧ ∃ s : ForestState bytewise,
    (system (forestTerms bytewise).workload thread).Reachable s ∧
    ¬ ParentsStand s.db.comments ∧ ¬ CountsMatch s.db.solutions s.db.comments := by
  obtain ⟨s, reached, checks⟩ := (system (forestTerms bytewise).workload thread).exists_of_run
    [.start 0 (.deleteUserByEmail [2]), .proceed 0 0, .proceed 0 0, .proceed 0 0, .proceed 0 0]
    (fun s => decide (s.db.comments.rows = [threadReply] ∧
      s.db.solutions.rows = [{ id := 5, userId := 3, commentCount := 1 }])) (by decide +kernel)
  obtain ⟨comments, solutions⟩ := of_decide_eq_true checks
  refine ⟨forest_thread, s, reached, fun stand => ?_, fun matching => ?_⟩
  · obtain ⟨parent, mem, keyed, _⟩ := stand threadReply (by simp [comments]) 10 rfl
    rw [comments, List.mem_singleton] at mem
    subst mem
    cases keyed
  · have counted := matching { id := 5, userId := 3, commentCount := 1 } (by simp [solutions])
    rw [count, comments] at counted
    cases counted

end OnlineJudge.Discussions
