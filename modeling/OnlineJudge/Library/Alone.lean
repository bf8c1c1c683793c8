import OnlineJudge.Library.RepeatableRead

/-!
# Transactions of one client

`Procedure.alone` runs a procedure from one state of the database to its end, with no statement of
another client in between.  A commit that fails may have taken effect all the same.
-/

namespace RepeatableRead

variable {K : Type} {V : K → Type} {ρ : Type} [DecidableEq K]

inductive Fate (K : Type)
  | answered (choice : Choice K)
  | failed
  | replyLost

inductive Ending (V : K → Type) (ρ : Type)
  | commits (result : ρ) (db : Database V)
  | returns (result : ρ)
  | raises (db : Database V)

def executed (db : Database V) (progress : Progress V) : Transaction V ρ → Database V
  | .commit _ => overlay progress.writes db
  | _ => db

/-- A transaction on its own, with the fates of its statements; those left are returned.  Where
there is none left, the connection is down. -/
def Transaction.alone (db : Database V) :
    List (Fate K) → Progress V → Transaction V ρ → Ending V ρ × List (Fate K)
  | fates, _, .rollback result => (.returns result, fates)
  | [], _, _ => (.raises db, [])
  | .failed :: fates, _, _ => (.raises db, fates)
  | .replyLost :: fates, progress, rest => (.raises (executed db progress rest), fates)
  | .answered choice :: fates, progress, rest =>
    match perform db (fun _ => true) progress choice rest with
    | some (.goesOn progress' rest') => Transaction.alone db fates progress' rest'
    | some (.commits result) => (.commits result (overlay progress.writes db), fates)
    | some (.returns result) => (.returns result, fates)
    | some (.raises _) | none => (.raises db, fates)

def Procedure.alone (db : Database V) (fates : List (Fate K)) :
    Procedure V ρ → ρ × Database V
  | .done result => (result, db)
  | .transaction body onError =>
    match body.alone db fates {} with
    | (.commits result after, _) => (result, after)
    | (.returns result, _) => (result, db)
    | (.raises after, fates') => onError.alone after fates'

section

variable {body rest : Transaction V ρ} {db : Database V} {progress : Progress V}

def Commits (body : Transaction V ρ) (db : Database V) (result : ρ) (after : Database V) : Prop :=
  ∃ progress, Replay body (· = db) db progress (.commit result) ∧ after = overlay progress.writes db

def Ended (body : Transaction V ρ) (db : Database V) : Ending V ρ → Prop
  | .commits result after => Commits body db result after
  | .returns result => ∃ progress, Replay body (· = db) db progress (.rollback result)
  | .raises after => after = db ∨ ∃ result, Commits body db result after

theorem ended_of_replyLost (replay : Replay body (· = db) db progress rest) :
    Ended body db (.raises (executed db progress rest)) := by
  cases rest with
  | commit result => exact .inr ⟨result, progress, replay, rfl⟩
  | _ => exact .inl rfl

theorem Replay.alone (replay : Replay body (· = db) db progress rest) (fates : List (Fate K)) :
    Ended body db (rest.alone db fates progress).1 := by
  fun_induction Transaction.alone db fates progress rest with
  | case1 fates progress => exact ⟨progress, replay⟩
  | case2 => exact .inl rfl
  | case3 => exact .inl rfl
  | case4 => exact ended_of_replyLost replay
  | case5 choice fates progress rest _ progress' rest' performed ih =>
    exact ih (replay.perform rfl performed).1
  | case6 choice fates progress rest _ result performed =>
    obtain rfl := perform_commits performed
    exact ⟨progress, replay, rfl⟩
  | case7 choice fates progress rest _ result performed =>
    obtain rfl := perform_returns performed
    exact ⟨progress, replay⟩
  | case8 => exact .inl rfl
  | case9 => exact .inl rfl

/-- The requirement that commits keep `P`, and that `Q` holds of what is returned. -/
def ensureEnds (P : Database V → Prop) (Q : ρ → Database V → Prop) (db : Database V) :
    Ends V ρ where
  commits progress result := P (overlay progress.writes db) ∧ Q result (overlay progress.writes db)
  returns _ result := Q result db
  raises _ := True

variable {procedure : Procedure V ρ} {P : Database V → Prop}

/-- **What a procedure alone ensures**: that which its transactions ensure, each from a
database with `P`. -/
theorem Procedure.alone_ensures {Q : ρ → Database V → Prop} (ensures : ∀ base, P base →
      procedure.Every fun body => wlp (· = base) base (ensureEnds P Q base) body {})
    (last : ∀ base, P base → Q procedure.last base) (holds : P db) (fates : List (Fate K)) :
    P (procedure.alone db fates).2 ∧
      Q (procedure.alone db fates).1 (procedure.alone db fates).2 := by
  induction procedure generalizing db fates with
  | done => exact ⟨holds, last db holds⟩
  | transaction body onError ih =>
    have begins : Replay body (· = db) db {} body := .begin
    have ended := begins.alone fates
    have committed : ∀ {result after}, Commits body db result after →
        P after ∧ Q result after := by
      rintro result after ⟨progress, replay, rfl⟩
      exact replay.wlp (ensures db holds).1
    rw [Procedure.alone]
    split
    case h_1 result after _ ran =>
      rw [ran] at ended
      exact committed ended
    case h_2 result _ ran =>
      rw [ran] at ended
      obtain ⟨progress, replay⟩ := ended
      exact ⟨holds, replay.wlp (ensures db holds).1⟩
    case h_3 after fates' ran =>
      rw [ran] at ended
      refine ih (fun base holds => (ensures base holds).2) last ?_ fates'
      rcases ended with rfl | ⟨result, commits⟩
      · exact holds
      · exact (committed commits).1

theorem Procedure.alone_keeps (keeps : ∀ base, P base → procedure.Every fun body =>
      wlp (· = base) base (ensureEnds P (fun _ _ => True) base) body {})
    (holds : P db) (fates : List (Fate K)) : P (procedure.alone db fates).2 :=
  (Procedure.alone_ensures keeps (fun _ _ => trivial) holds fates).1

end

end RepeatableRead
