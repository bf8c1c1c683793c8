import OnlineJudge.Discussions.Atomicity

/-!
# The counters of likes and favorites

Transactions write whole rows back, counters included.  The counters are exact nevertheless, since
every transaction locks the row before it reads anything.
-/

namespace OnlineJudge.Discussions

open LockedTransactions Option List Tables Table
open Store (DateTime)

/-! ## Counters and action rows -/

namespace Tables

def counter (target : ActionTarget) (actionType : ActionType) (db : Tables) : Option Nat :=
  match target with
  | .comment id => (db.findComment id).map (·.actionCount actionType)
  | .solution id => (db.findSolution id).map (·.actionCount actionType)

variable {db : Tables}

theorem counter_congr {db' : Tables} (comments : db'.comments = db.comments)
    (solutions : db'.solutions = db.solutions) (target : ActionTarget)
    (actionType : ActionType) : db'.counter target actionType = db.counter target actionType := by
  cases target <;> simp only [counter, findComment, findSolution, comments, solutions]

theorem counter_of_comment {db' : Tables} {row : Comment}
    (found : db'.findComment row.id = some row)
    (others : ∀ id, id ≠ row.id → db'.findComment id = db.findComment id)
    (solutions : db'.solutions = db.solutions) (target : ActionTarget) (actionType : ActionType) :
    db'.counter target actionType =
      if target = .comment row.id then some (row.actionCount actionType)
      else db.counter target actionType := by
  cases target with
  | comment id =>
    by_cases same : id = row.id
    · subst same
      rw [if_pos rfl, counter, found, map_some]
    · rw [if_neg (by simpa using same), counter, others id same, counter]
  | solution id => rw [if_neg nofun, counter, findSolution, solutions]; rfl

theorem counter_updateSolution {row old : Solution} (found : db.findSolution row.id = some old)
    (target : ActionTarget) (actionType : ActionType) :
    (db.updateSolution row).counter target actionType =
      if target = .solution row.id then some (row.actionCount actionType)
      else db.counter target actionType := by
  cases target with
  | solution id =>
    by_cases same : id = row.id
    · subst same
      rw [if_pos rfl, counter, findSolution_updateSolution_self found, map_some]
    · rw [if_neg (by simpa using same), counter, findSolution_updateSolution found same, counter]
  | comment id => rw [if_neg nofun]; rfl

variable {ids : List Nat} {target : ActionTarget}

theorem counter_eraseComments {actionType : ActionType} {count : Nat}
    (after : (db.eraseComments ids).counter target actionType = some count) :
    db.counter target actionType = some count ∧ ∀ id ∈ ids, target ≠ .comment id := by
  cases target with
  | comment id =>
    obtain ⟨row, isFound, rfl⟩ := map_eq_some_iff.mp after
    obtain ⟨before, kept⟩ := findComment_eraseComments.mp isFound
    refine ⟨map_eq_some_iff.mpr ⟨row, before, rfl⟩, fun other mem same => ?_⟩
    cases same
    exact kept mem
  | solution id => exact ⟨after, fun _ _ => nofun⟩

theorem countActions_congr {db' : Tables} (actions : db'.actions = db.actions)
    (target : ActionTarget) (actionType : ActionType) :
    db'.countActions target actionType = db.countActions target actionType := by
  simp only [countActions, actionsOn, actions]

theorem countActions_insertAction (db : Tables) (action : ActionRow) (target : ActionTarget)
    (actionType : ActionType) :
    (db.insertAction action).countActions target actionType =
      db.countActions target actionType +
        if target = action.target ∧ actionType = action.actionType then 1 else 0 := by
  by_cases same : action.target = target
  · simp [countActions, actionsOn, insertAction, same, countP_cons, eq_comm]
  · rw [countActions, actionsOn_insertAction same, if_neg fun both => same both.1.symm,
      Nat.add_zero, countActions]

theorem countActions_eraseAction {action : ActionRow} (mem : action ∈ db.actions)
    (target : ActionTarget) (actionType : ActionType) :
    (db.eraseAction action).countActions target actionType +
        (if target = action.target ∧ actionType = action.actionType then 1 else 0) =
      db.countActions target actionType := by
  -- inserting the row again gives the same rows in another order
  have same : (db.actions).Perm ((db.eraseAction action).insertAction action).actions :=
    perm_cons_erase mem
  rw [← countActions_insertAction]
  exact ((same.filter _).countP_eq _).symm

end Tables

/-! ## Exact counters -/

structure WellFormed (db : Tables) : Prop where
  unique : db.actions.Nodup
  targets : ∀ action ∈ db.actions, ∀ id, action.target = .comment id →
    ∃ row, db.findComment id = some row
  remembered : ∀ row ∈ db.comments.rows, row ∈ db.past

def CountersExact (db : Tables) : Prop :=
  (∀ row ∈ db.comments.rows, ∀ actionType,
    row.actionCount actionType = db.countActions (.comment row.id) actionType) ∧
  (∀ row ∈ db.solutions.rows, ∀ actionType,
    row.actionCount actionType = db.countActions (.solution row.id) actionType)

theorem countersExact_iff {db : Tables} : CountersExact db ↔
    ∀ target actionType count, db.counter target actionType = some count →
      count = db.countActions target actionType := by
  constructor
  · rintro ⟨comments, solutions⟩ target actionType count shown
    cases target with obtain ⟨row, isFound, rfl⟩ := map_eq_some_iff.mp shown
    | comment id =>
      obtain ⟨mem, rfl⟩ := find_eq_some_iff.mp isFound
      exact comments row mem actionType
    | solution id =>
      obtain ⟨mem, rfl⟩ := find_eq_some_iff.mp isFound
      exact solutions row mem actionType
  · intro counters
    refine ⟨fun row mem actionType => ?_, fun row mem actionType => ?_⟩
    · refine counters (.comment row.id) actionType _ ?_
      rw [counter, findComment, find_key mem, map_some]
    · refine counters (.solution row.id) actionType _ ?_
      rw [counter, findSolution, find_key mem, map_some]

structure Exact (db : Tables) : Prop extends WellFormed db where
  exact : CountersExact db

namespace WellFormed

variable {db : Tables}

section

variable (formed : WellFormed db)
include formed

theorem insertComment {row : Comment} (new : db.used row.id = false) :
    WellFormed (db.insertComment row) where
  unique := formed.unique
  targets action mem id isIts := by
    obtain ⟨found, isFound⟩ := formed.targets action mem id isIts
    have absent := findComment_eq_none_of_unused formed.remembered new
    by_cases isRow : id = row.id
    · rw [isRow, absent] at isFound
      cases isFound
    · exact ⟨found, (findComment_insertComment absent isRow).trans isFound⟩
  remembered other mem := by
    have absent := findComment_eq_none_of_unused formed.remembered new
    rcases (mem_insert absent).mp mem with rfl | mem'
    · exact mem_cons_self
    · exact mem_cons_of_mem _ (formed.remembered other mem')

theorem updateComment {row old : Comment} (found : db.findComment row.id = some old) :
    WellFormed (db.updateComment row) where
  unique := formed.unique
  targets action mem id isIts := by
    obtain ⟨found', isFound⟩ := formed.targets action mem id isIts
    by_cases isRow : id = row.id
    · subst isRow
      exact ⟨row, findComment_updateComment_self found⟩
    · exact ⟨found', (findComment_updateComment found isRow).trans isFound⟩
  remembered other mem := by
    rcases (mem_update found).mp mem with rfl | ⟨mem', _⟩
    · exact mem_cons_self
    · exact mem_cons_of_mem _ (formed.remembered other mem')

theorem updateSolution (row : Solution) : WellFormed (db.updateSolution row) :=
  ⟨formed.unique, formed.targets, formed.remembered⟩

theorem eraseComments (ids : List Nat) : WellFormed (db.eraseComments ids) where
  unique := formed.unique.filter _
  targets action mem id isIts := by
    obtain ⟨there, kept⟩ := List.mem_filter.mp mem
    obtain ⟨row, isFound⟩ := formed.targets action there id isIts
    refine ⟨row, findComment_eraseComments.mpr ⟨isFound, fun erased => ?_⟩⟩
    exact of_decide_eq_true kept id erased isIts
  remembered row mem := formed.remembered row (mem_keep.mp mem).1

theorem eraseAction (action : ActionRow) : WellFormed (db.eraseAction action) where
  unique := formed.unique.erase action
  targets other mem := formed.targets other (mem_of_mem_erase mem)
  remembered := formed.remembered

theorem insertAction {action : ActionRow} (new : action ∉ db.actions)
    (target : ∀ id, action.target = .comment id → ∃ row, db.findComment id = some row) :
    WellFormed (db.insertAction action) where
  unique := List.nodup_cons.mpr ⟨new, formed.unique⟩
  targets := List.forall_mem_cons.mpr ⟨target, formed.targets⟩
  remembered := formed.remembered

end

end WellFormed

namespace Exact

variable {db : Tables}

theorem counters (exact : Exact db) (target : ActionTarget) (actionType : ActionType) (count : Nat)
    (shown : db.counter target actionType = some count) :
    count = db.countActions target actionType :=
  countersExact_iff.mp exact.exact target actionType count shown

theorem countActions_eq_zero (exact : Exact db) {id : Nat} (absent : db.findComment id = none)
    (actionType : ActionType) : db.countActions (.comment id) actionType = 0 := by
  refine List.countP_eq_zero.mpr fun action mem _ => ?_
  obtain ⟨there, isIts⟩ := List.mem_filter.mp mem
  obtain ⟨row, isFound⟩ := exact.targets action there id (by simpa using isIts)
  rw [absent] at isFound
  cases isFound

theorem written {db' : Tables} {target : ActionTarget} {shown : ActionType → Nat} (exact : Exact db)
    (formed : WellFormed db') (actions : db'.actions = db.actions)
    (current : ∀ actionType, db.counter target actionType = some (shown actionType))
    (after : ∀ other actionType, db'.counter other actionType =
      if other = target then some (shown actionType) else db.counter other actionType) :
    Exact db' := by
  refine ⟨formed, countersExact_iff.mpr fun other actionType count isShown => ?_⟩
  rw [countActions_congr actions]
  refine exact.counters other actionType count ?_
  rw [after] at isShown
  split at isShown
  case isTrue isIts => rw [isIts, current, isShown]
  case isFalse => exact isShown

theorem updateSolution (exact : Exact db) {row old : Solution}
    (found : db.findSolution row.id = some old)
    (same : ∀ actionType, row.actionCount actionType = old.actionCount actionType) :
    Exact (db.updateSolution row) := by
  refine exact.written (exact.toWellFormed.updateSolution row) rfl (fun actionType => ?_)
    (counter_updateSolution found)
  rw [counter, found, map_some, same]

variable {row : Comment}

theorem updateComment (exact : Exact db) {old : Comment} (found : db.findComment row.id = some old)
    (same : ∀ actionType, row.actionCount actionType = old.actionCount actionType) :
    Exact (db.updateComment row) := by
  refine exact.written (exact.toWellFormed.updateComment found) rfl (fun actionType => ?_)
    (counter_of_comment (findComment_updateComment_self found)
      (fun _ => findComment_updateComment found) rfl)
  rw [counter, found, map_some, same]

variable {solution : Solution}

theorem addComment (exact : Exact db) (new : db.used row.id = false)
    (zero : ∀ actionType, row.actionCount actionType = 0)
    (found : db.findSolution row.solutionId = some solution) :
    Exact (db.addComment row solution) := by
  have absent := findComment_eq_none_of_unused exact.remembered new
  have inserted : Exact (db.insertComment row) := by
    refine ⟨exact.toWellFormed.insertComment new,
      countersExact_iff.mpr fun target actionType count shown => ?_⟩
    rw [counter_of_comment (findComment_insertComment_self absent)
      (fun _ => findComment_insertComment absent) rfl] at shown
    split at shown
    case isTrue isRow =>
      cases shown
      rw [isRow, zero]
      exact (exact.countActions_eq_zero absent actionType).symm
    case isFalse => exact exact.counters target actionType count shown
  obtain ⟨_, isIts⟩ := find_eq_some_iff.mp found
  rw [← isIts] at found
  unfold Tables.addComment
  split
  case isTrue =>
    refine inserted.updateSolution found fun actionType => ?_
    cases actionType <;> rfl
  case isFalse => exact inserted

theorem removeThread (exact : Exact db) {erased : List Nat}
    (found : db.findSolution row.solutionId = some solution) :
    Exact (db.removeThread row erased solution) := by
  have removed : Exact (db.eraseComments (row.id :: erased)) := by
    refine ⟨exact.toWellFormed.eraseComments _,
      countersExact_iff.mpr fun target actionType count shown => ?_⟩
    obtain ⟨before, kept⟩ := counter_eraseComments shown
    rw [countActions, actionsOn_eraseComments kept]
    exact exact.counters target actionType count before
  obtain ⟨_, isIts⟩ := find_eq_some_iff.mp found
  rw [← isIts] at found
  unfold Tables.removeThread
  split
  case isTrue =>
    refine removed.updateSolution found fun actionType => ?_
    cases actionType <;> rfl
  case isFalse => exact removed

/-! ## Toggles -/

/-- `db'` shows the counters of `db`, but for the one of the action. -/
def Shows (db db' : Tables) (action : ActionRow) (count : Nat) : Prop :=
  ∀ target actionType, db'.counter target actionType =
    if target = action.target ∧ actionType = action.actionType then some count
    else db.counter target actionType

variable {db' : Tables} {action : ActionRow} {count : Nat}

theorem counter_pos (exact : Exact db) (mem : action ∈ db.actions)
    (current : db.counter action.target action.actionType = some count) : 0 < count := by
  rw [exact.counters _ _ count current]
  refine List.countP_pos_iff.mpr ⟨action, ?_, by simp⟩
  exact mem_actions_iff.mp mem

theorem erased (exact : Exact db) (mem : action ∈ db.actions)
    (current : db.counter action.target action.actionType = some count)
    (formed : WellFormed db') (rows : db'.actions = (db.eraseAction action).actions)
    (shows : Shows db db' action (count - 1)) : Exact db' := by
  refine ⟨formed, countersExact_iff.mpr fun target actionType shown isShown => ?_⟩
  have counted := countActions_eraseAction mem target actionType
  rw [shows] at isShown
  rw [countActions_congr rows]
  split at isShown
  case isTrue isIts =>
    cases isShown
    obtain ⟨rfl, rfl⟩ := isIts
    have before := exact.counters _ _ count current
    simp only [and_self, if_true] at counted
    omega
  case isFalse others =>
    rw [if_neg others, Nat.add_zero] at counted
    rw [counted]
    exact exact.counters target actionType shown isShown

theorem inserted (exact : Exact db)
    (current : db.counter action.target action.actionType = some count)
    (formed : WellFormed db') (rows : db'.actions = (db.insertAction action).actions)
    (shows : Shows db db' action (count + 1)) : Exact db' := by
  refine ⟨formed, countersExact_iff.mpr fun target actionType shown isShown => ?_⟩
  have counted := countActions_insertAction db action target actionType
  rw [shows] at isShown
  rw [countActions_congr rows, counted]
  split at isShown
  case isTrue isIts =>
    cases isShown
    obtain ⟨rfl, rfl⟩ := isIts
    rw [exact.counters _ _ count current]
    simp
  case isFalse others =>
    rw [if_neg others, Nat.add_zero]
    exact exact.counters target actionType shown isShown

end Exact

/-! ## The runs -/

def countersTerms (setting : Setting) : Terms where
  setting := setting
  admits _
    | .deleteUserByEmail _ => false
    | _ => true
  Inv := Exact
  Meets _ _ := True
  tracked := true

section Outlines

variable {setting : Setting} {call : Call}

theorem stable_countersAdmits (setting : Setting) (call : Call) :
    (countersTerms setting).contract.Stable []
      fun db => (countersTerms setting).admits db call = true :=
  fun _ _ _ admitted => admitted

variable {fact : Tables → Prop}

theorem outlined_exact_createComment (stable : (countersTerms setting).contract.Stable [] fact)
    (draft : CommentDraft) (now : DateTime) :
    (countersTerms setting).contract.Outlined call true fact [] id (createComment draft now) := by
  refine outlined_createComment (fun db exact => exact.remembered) stable ?_
  intro db number solution exact _ _ found new
  refine exact.addComment new (fun actionType => ?_) found
  cases actionType <;> rfl

variable {db db' : Tables}

theorem shows_of_written {target : ActionTarget} {count : Nat} (shown : ActionType → Nat)
    (uid : Nat) (actionType : ActionType)
    (current : ∀ other, db.counter target other = some (shown other))
    (after : ∀ target' other, db'.counter target' other =
      if target' = target then some (if other = actionType then count else shown other)
      else db.counter target' other) : Exact.Shows db db' ⟨target, uid, actionType⟩ count := by
  intro target' other
  rw [after]
  by_cases isIts : target' = target
  · subst isIts
    by_cases isType : other = actionType <;> simp [isType, current]
  · simp [isIts]

theorem shows_updateComment {comment : Comment} (count uid : Nat) (actionType : ActionType)
    (found : db.findComment comment.id = some comment)
    (comments : db'.comments = db.comments) (solutions : db'.solutions = db.solutions) :
    Exact.Shows db (db'.updateComment (comment.setActionCount count actionType))
      ⟨.comment comment.id, uid, actionType⟩ count := by
  have sameId := (comment.sameIdentity_setActionCount count actionType).id
  have found' : db'.findComment (comment.setActionCount count actionType).id = some comment := by
    rw [sameId, findComment, comments]
    exact found
  refine shows_of_written comment.actionCount uid actionType (fun other => ?_)
    fun target other => ?_
  · rw [counter, found, map_some]
  · rw [counter_of_comment (findComment_updateComment_self found')
      (fun _ => findComment_updateComment found') rfl, sameId,
      Comment.actionCount_setActionCount, counter_congr comments solutions]

theorem shows_updateSolution {solution : Solution} (count uid : Nat) (actionType : ActionType)
    (found : db.findSolution solution.id = some solution)
    (comments : db'.comments = db.comments) (solutions : db'.solutions = db.solutions) :
    Exact.Shows db (db'.updateSolution (solution.setActionCount count actionType))
      ⟨.solution solution.id, uid, actionType⟩ count := by
  have sameId := solution.id_setActionCount count actionType
  have found' :
      db'.findSolution (solution.setActionCount count actionType).id = some solution := by
    rw [sameId, findSolution, solutions]
    exact found
  refine shows_of_written solution.actionCount uid actionType (fun other => ?_)
    fun target other => ?_
  · rw [counter, found, map_some]
  · rw [counter_updateSolution found', sameId, Solution.actionCount_setActionCount,
      counter_congr comments solutions]

structure SavesCounter (fact : Tables → Prop) (action : ActionRow) (count : Nat)
    (save : Nat → Tables → Tables) : Prop where
  current : ∀ {db : Tables}, fact db → db.counter action.target action.actionType = some count
  actions : ∀ (db : Tables) (count : Nat), (save count db).actions = db.actions
  formed : ∀ {db db' : Tables} (count : Nat), fact db → db'.comments = db.comments →
    WellFormed db' → WellFormed (save count db')
  shows : ∀ {db db' : Tables} (count : Nat), fact db → db'.comments = db.comments →
    db'.solutions = db.solutions → Exact.Shows db (save count db') action count

theorem outlined_toggle {held : List Lock} {action : ActionRow} {count : Nat}
    {save : Nat → Tables → Tables} (stable : (countersTerms setting).contract.Stable held fact)
    (locked : action.target.lock ∈ held)
    (saves : Saves (countersTerms setting) fact action.target save)
    (counts : SavesCounter fact action count save) :
    (countersTerms setting).contract.Outlined call true fact held id
      (toggleLocked action count save) := by
  refine outlined_toggleLocked rfl stable locked saves ?_ ?_ ?_
  · intro db exact holds mem
    exact exact.counter_pos mem (counts.current holds)
  · intro db exact holds mem
    exact exact.erased mem (counts.current holds)
      (counts.formed _ holds rfl (exact.toWellFormed.eraseAction action)) (counts.actions _ _)
      (counts.shows _ holds rfl rfl)
  · intro db exact holds new
    have there : ∀ id, action.target = .comment id → ∃ row, db.findComment id = some row := by
      intro id isIts
      have current := counts.current holds
      rw [isIts] at current
      obtain ⟨row, isFound, _⟩ := map_eq_some_iff.mp current
      exact ⟨row, isFound⟩
    exact exact.inserted (counts.current holds)
      (counts.formed _ holds rfl (exact.toWellFormed.insertAction new there)) (counts.actions _ _)
      (counts.shows _ holds rfl rfl)

theorem outlined_toggleCommentAction (commentId : Nat) (uid : Int) (name : Bytes)
    (stable : (countersTerms setting).contract.Stable [] fact) :
    (countersTerms setting).contract.Outlined call true fact [] id
      (toggleCommentAction commentId uid name) := by
  unfold toggleCommentAction
  cases ActionType.parse name with
  | none => trivial
  | some actionType =>
  dsimp only
  split
  case isTrue => trivial
  case isFalse =>
  refine outlined_lockComment stable fun found keyed stable' => ?_
  cases found with
  | none => trivial
  | some comment =>
  obtain rfl := keyed comment rfl
  have sameIdentity := fun count => comment.sameIdentity_setActionCount count actionType
  have found : ∀ {db db' : Tables} (count : Nat), db.findComment comment.id = some comment →
      db'.comments = db.comments →
        db'.findComment (comment.setActionCount count actionType).id = some comment := by
    intro db db' count isFound comments
    rw [(sameIdentity count).id, findComment, comments]
    exact isFound
  refine outlined_toggle stable' mem_cons_self ⟨?_, ?_, ?_⟩ ⟨?_, ?_, ?_, ?_⟩
  · intro db db' lock count holds comments _ other
    refine agree_updateComment (found count holds.2 comments) (sameIdentity count) ?_
    rw [(sameIdentity count).id]
    exact other
  · exact fun _ _ => subset_cons_self _ _
  · exact fun _ _ => rfl
  · intro db holds
    rw [counter, holds.2, map_some]
  · exact fun _ _ => rfl
  · exact fun count holds comments formed => formed.updateComment (found count holds.2 comments)
  · exact fun count holds => shows_updateComment count uid.toNat actionType holds.2

theorem outlined_toggleSolutionAction (solutionId uid : Int) (name : Bytes)
    (stable : (countersTerms setting).contract.Stable [] fact) :
    (countersTerms setting).contract.Outlined call true fact [] id
      (toggleSolutionAction solutionId uid name) := by
  unfold toggleSolutionAction
  cases ActionType.parse name with
  | none => trivial
  | some actionType =>
  dsimp only
  split
  case isTrue => trivial
  case isFalse =>
  refine outlined_lockSolution stable fun found keyed stable' => ?_
  cases found with
  | none => trivial
  | some solution =>
  dsimp only
  rw [← keyed solution rfl] at stable' ⊢
  have sameId := fun count => solution.id_setActionCount count actionType
  refine outlined_toggle stable' mem_cons_self ⟨?_, ?_, ?_⟩ ⟨?_, ?_, ?_, ?_⟩
  · intro db db' lock count holds _ solutions other
    have known : db'.findSolution (solution.setActionCount count actionType).id =
        some solution := by
      rw [sameId, findSolution, solutions]
      exact holds.2
    refine agree_updateSolution known ?_
    rw [sameId]
    exact other
  · exact fun _ _ => List.Subset.refl _
  · exact fun _ _ => rfl
  · intro db holds
    rw [counter, holds.2, map_some]
  · exact fun _ _ => rfl
  · exact fun count _ _ formed => formed.updateSolution _
  · exact fun count holds => shows_updateSolution count uid.toNat actionType holds.2

theorem counters_outline (setting : Setting) : Outline (countersTerms setting).contract where
  symm := Lock.conflict_comm
  admitted := stable_countersAdmits setting
  body call := by
    have stable := stable_countersAdmits setting call
    cases call with
    | postComment request isPublic parent now =>
      show (countersTerms setting).contract.Outlined _ _ _ _ _
        (postComment request isPublic parent now)
      unfold postComment
      cases request.draft isPublic parent with
      | error error => trivial
      | ok draft => exact outlined_exact_createComment stable draft now
    | createComment draft now => exact outlined_exact_createComment stable draft now
    | updateComment commentId uid content now =>
      refine outlined_updateComment stable fun db row exact isFound => ?_
      refine exact.updateComment isFound fun actionType => ?_
      cases actionType <;> rfl
    | deleteComment commentId uid isAdmin =>
      refine outlined_deleteComment stable ?_
      intro db row erased solution exact _ found _
      exact exact.removeThread found
    | toggleSolutionAction solutionId uid name =>
      exact outlined_toggleSolutionAction solutionId uid name stable
    | toggleCommentAction commentId uid name =>
      exact outlined_toggleCommentAction commentId uid name stable
    | deleteUserByEmail email => exact Contract.outlined_of_not (fun _ => nofun) _ _ _ _

end Outlines

/-- **Exact counters.** Every committed state shows the number of likes and favorites of each
target; no user has two equal actions; and no toggle gets to the branch that keeps a counter. -/
theorem counters_exact (setting : Setting) {initial : Tables} (consistent : Exact initial)
    {s : State (countersTerms setting).workload}
    (reachable : (system (countersTerms setting).workload initial).Reachable s) :
    CountersExact s.db ∧ s.db.actions.Nodup ∧
      ∀ i call progress rest, s.sessions i ≠ .running call progress (.mark rest) := by
  have sound := (counters_outline setting).sound consistent
    (reachable.mono fun _ _ _ _ _ => trivial)
  exact ⟨sound.inv.exact, sound.inv.unique, fun _ _ _ _ => sound.not_marked⟩

def liked : Tables where
  accounts := ⟨[⟨1, [97]⟩, ⟨2, [98]⟩, ⟨3, [99]⟩], by decide⟩
  solutions := ⟨[{ id := 6, userId := 3, commentCount := 1 }], by decide⟩
  comments := ⟨[{ id := 10, solutionId := 6, userId := 2, likeCount := 1 }], by decide⟩
  actions := [⟨.comment 10, 1, .like⟩]
  past := [{ id := 10, solutionId := 6, userId := 2, likeCount := 1 }]

theorem exact_liked : Exact liked where
  unique := by decide
  targets := by
    simp only [liked, mem_singleton, forall_eq]
    rintro id ⟨⟩
    exact ⟨_, rfl⟩
  remembered := fun _ mem => mem
  exact := by
    constructor
    · simp only [liked, mem_singleton, forall_eq]
      rintro (_ | _) <;> decide
    · simp only [liked, mem_singleton, forall_eq]
      rintro (_ | _) <;> decide

/-- User 1 takes the like back while user 2 edits the comment and user 3 likes both the comment
and the solution. -/
theorem counters_exact_liked : ∃ s : State (countersTerms ⟨⟨fun value => value⟩, true⟩).workload,
    (system (countersTerms ⟨⟨fun value => value⟩, true⟩).workload liked).Reachable s ∧
    s.db.actions = [⟨.comment 10, 3, .like⟩, ⟨.solution 6, 3, .like⟩] ∧
    CountersExact s.db ∧ s.db.actions.Nodup ∧
      ∀ i call progress rest, s.sessions i ≠ .running call progress (.mark rest) := by
  obtain ⟨s, reached, checks⟩ :=
      (system (countersTerms ⟨⟨fun value => value⟩, true⟩).workload liked).exists_of_run
        [.start 0 (.toggleCommentAction 10 1 (text "like")), .proceed 0 0,
          .start 1 (.toggleSolutionAction 6 3 (text "like")), .proceed 1 0, .proceed 1 0,
          .proceed 0 0, .start 2 (.updateComment 10 2 [111, 107] 0),
          .start 3 (.toggleCommentAction 10 3 (text "like")), .proceed 1 0, .proceed 1 0,
          .proceed 0 0, .proceed 1 0, .proceed 0 0, .proceed 0 0, .proceed 1 0, .proceed 0 0,
          .proceed 2 0, .proceed 2 0, .proceed 2 0, .proceed 3 0, .proceed 3 0, .proceed 3 0,
          .proceed 3 0, .proceed 3 0, .proceed 3 0]
        (fun s => decide (s.db.actions = [⟨.comment 10, 3, .like⟩, ⟨.solution 6, 3, .like⟩]))
        (by decide +kernel)
  exact ⟨s, reached, of_decide_eq_true checks, counters_exact _ exact_liked reached⟩

end OnlineJudge.Discussions
