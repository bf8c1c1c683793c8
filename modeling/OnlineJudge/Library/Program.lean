import Mathlib.Tactic.Common

/-!
# Programs that change a state and may throw

`Program ε s α` is a program over a state that returns an `α` or throws an `ε`.
`Ensures program state normal exceptional` says what running it from one state leads to.
-/

abbrev Program (ε s : Type) : Type → Type := ExceptT ε (StateM s)

namespace Program

variable {ε s α β : Type}

def runFrom (program : Program ε s α) (state : s) : Except ε α × s := program.run.run state

def Ensures (program : Program ε s α) (state : s) (normal : α → s → Prop)
    (exceptional : ε → s → Prop) : Prop :=
  match program.runFrom state with
  | (.ok value, after) => normal value after
  | (.error error, after) => exceptional error after

def ofExcept (value : Except ε α) : Program ε s α :=
  match value with
  | .ok value => pure value
  | .error error => throw error

section Runs

variable (state : s)

@[simp]
theorem runFrom_get : (get : Program ε s s).runFrom state = (.ok state, state) := rfl

@[simp]
theorem runFrom_modify (change : s → s) :
    (modify change : Program ε s PUnit).runFrom state = (.ok ⟨⟩, change state) := rfl

@[simp]
theorem runFrom_bind (program : Program ε s α) (next : α → Program ε s β) :
    (program >>= next).runFrom state =
      match program.runFrom state with
      | (.ok value, after) => (next value).runFrom after
      | (.error error, after) => (.error error, after) := by
  cases ran : program.runFrom state with
  | mk outcome after =>
    change (program >>= next) state = _
    have ran : program state = (outcome, after) := ran
    simp only [bind, ExceptT.bind, ExceptT.mk, StateT.bind, ran]
    cases outcome <;> rfl

@[simp]
theorem runFrom_ofExcept (value : Except ε α) :
    (ofExcept value : Program ε s α).runFrom state = (value, state) := by
  cases value <;> rfl

end Runs

section Rules

variable {state : s} {normal : α → s → Prop} {exceptional : ε → s → Prop} {value : α}
    {next : PUnit → Program ε s α} {after : s}

theorem ensures_pure (holds : normal value state) :
    Ensures (pure value : Program ε s α) state normal exceptional := holds

theorem ensures_throw {error : ε} (holds : exceptional error state) :
    Ensures (throw error : Program ε s α) state normal exceptional := holds

theorem ensures_bind {program : Program ε s β} {next : β → Program ε s α}
    (first : Ensures program state
      (fun value after => Ensures (next value) after normal exceptional) exceptional) :
    Ensures (program >>= next) state normal exceptional := by
  unfold Ensures at first ⊢
  rw [runFrom_bind]
  split at first
  case h_1 ran => simpa only [ran] using first
  case h_2 ran => simpa only [ran] using first

theorem ensures_get {next : s → Program ε s α}
    (rest : Ensures (next state) state normal exceptional) :
    Ensures (get >>= next) state normal exceptional := ensures_bind rest

theorem ensures_set (rest : Ensures (next ⟨⟩) after normal exceptional) :
    Ensures (set after >>= next) state normal exceptional := ensures_bind rest

theorem ensures_modify {change : s → s}
    (rest : Ensures (next ⟨⟩) (change state) normal exceptional) :
    Ensures (modify change >>= next) state normal exceptional := ensures_bind rest

theorem ensures_ofExcept {value : Except ε α} (ok : ∀ a, value = .ok a → normal a state)
    (error : ∀ e, value = .error e → exceptional e state) :
    Ensures (ofExcept value) state normal exceptional := by
  cases value with
  | ok a => exact ok a rfl
  | error e => exact error e rfl

variable {program : Program ε s α}

theorem Ensures.imp {normal' : α → s → Prop} {exceptional' : ε → s → Prop}
    (ensures : Ensures program state normal exceptional)
    (returns : ∀ value after, normal value after → normal' value after)
    (throws : ∀ error after, exceptional error after → exceptional' error after) :
    Ensures program state normal' exceptional' := by
  unfold Ensures at ensures ⊢
  split at ensures
  · exact returns _ _ ensures
  · exact throws _ _ ensures

theorem Ensures.exists_ok (ensures : Ensures program state normal fun _ _ => False) :
    ∃ value after, program.runFrom state = (.ok value, after) ∧ normal value after := by
  unfold Ensures at ensures
  split at ensures
  case h_1 value after ran => exact ⟨value, after, ran, ensures⟩
  case h_2 => exact ensures.elim

theorem Ensures.of_ok (ensures : Ensures program state normal exceptional)
    (ran : program.runFrom state = (.ok value, after)) : normal value after := by
  unfold Ensures at ensures
  rwa [ran] at ensures

end Rules

def Keeps (relation : s → s → Prop) (program : Program ε s α) (state : s) : Prop :=
  Ensures program state (fun _ after => relation state after) (fun _ after => relation state after)

section Keeps

variable {relation : s → s → Prop} {state : s}

theorem keeps_pure (refl : ∀ state, relation state state) (value : α) :
    Keeps relation (pure value : Program ε s α) state := refl state

theorem keeps_get {next : s → Program ε s α} (rest : Keeps relation (next state) state) :
    Keeps relation (get >>= next) state := ensures_get rest

theorem keeps_modify {change : s → s} (related : relation state (change state)) :
    Keeps relation (modify change : Program ε s PUnit) state := related

theorem keeps_ofExcept (refl : ∀ state, relation state state) (value : Except ε α) :
    Keeps relation (ofExcept value : Program ε s α) state :=
  ensures_ofExcept (fun _ _ => refl state) fun _ _ => refl state

theorem keeps_bind (trans : ∀ a b c, relation a b → relation b c → relation a c)
    {program : Program ε s β} {next : β → Program ε s α} (first : Keeps relation program state)
    (rest : ∀ value after, Keeps relation (next value) after) :
    Keeps relation (program >>= next) state := by
  refine ensures_bind (first.imp ?_ fun _ _ => id)
  intro value after related
  exact (rest value after).imp (fun _ _ => trans _ _ _ related) fun _ _ => trans _ _ _ related

theorem Keeps.of_run {program : Program ε s α} {outcome : Except ε α} {after : s}
    (keeps : Keeps relation program state) (ran : program.runFrom state = (outcome, after)) :
    relation state after := by
  unfold Keeps Ensures at keeps
  rw [ran] at keeps
  cases outcome with
  | ok | error => exact keeps

end Keeps

end Program
