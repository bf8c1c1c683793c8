import OnlineJudge.Questions.DetailCache

/-!
# Coherence of the detail cache

Every question in the cache, in the hands of a call or returned is the copy of a version of the row
(`CallSound`, `EntrySound`).
-/

namespace OnlineJudge.Questions

open Function Option

variable {Time ι π : Type}

/-- An answer that comes from the version `v` of the row or from a later one. -/
def Current (times : Times Time) (rows : History (Option (Question Time))) (v : Nat) :
    Answer Time → Prop
  | .failed => True
  | .missing => rows.Since v none
  | .found q => ∃ p, rows.Since v (some p) ∧ q ∈ p.asRead times ∧ q.visible = p.visible

theorem Current.later {times : Times Time} {rows rows' : History (Option (Question Time))} {v : Nat}
    {answer : Answer Time} (current : Current times rows v answer)
    (later : rows.Later rows') : Current times rows' v answer := by
  cases answer with
  | failed => trivial
  | missing => exact History.Since.later current later
  | found =>
    obtain ⟨p, since, read⟩ := current
    exact ⟨p, since.later later, read⟩

namespace DetailState

def Published (s : DetailState ι π Time) (v : Nat) : Prop := ∃ w, s.published = some w ∧ v ≤ w

/-- The write has left `row`, which is the version with this number. -/
def Wrote (s : DetailState ι π Time) (write : Write Time) (version : Nat)
    (row : Option (Question Time)) : Prop :=
  s.rows.Was version row ∧ ∃ found now, row = write.row found now

def CallSound (setting : DetailSetting ι π Time) (s : DetailState ι π Time) : Call Time → Prop
  | .loaded _ version row | .found _ version row => ∃ p, s.rows.Was version p ∧ row = setting.find p
  | .committed write version row => s.Wrote write version row
  | .published write version | .returned write (some version) =>
    (∃ row, s.Wrote write version row) ∧ s.Published version
  | _ => True

def EntrySound (setting : DetailSetting ι π Time) (s : DetailState ι π Time) : Prop :=
  ∀ jsonStr w, s.entry = some jsonStr → s.published = some w →
    jsonStr = nullEntry ∨
      ∃ p q, s.rows.Was s.source (some p) ∧ w ≤ s.source ∧
        (q = p ∨ q = p.inTable setting.times) ∧ jsonStr = setting.entryOf (some q)

/-- The strings of all versions of the row are UTF-8. -/
def Texts (rows : History (Option (Question Time))) : Prop :=
  ∀ version p, rows.Was version (some p) → p.textual = true

variable {rows : History (Option (Question Time))}

theorem Texts.commit (texts : Texts rows)
    {row : Option (Question Time)} (textual : ∀ q ∈ row, q.textual = true) :
    Texts (rows.commit row) := by
  intro version p was
  rcases History.was_or_eq_of_commit rows was with old | new
  · exact texts version p old
  · exact textual p new.symm

theorem Texts.find (texts : Texts rows)
    {setting : DetailSetting ι π Time} {version : Nat} {p : Option (Question Time)}
    (was : rows.Was version p) : ∀ q ∈ setting.find p, q.textual = true := by
  intro q read
  obtain ⟨p, rfl, rfl⟩ := map_eq_some_iff.mp read
  exact texts version p was

structure Sound (setting : DetailSetting ι π Time) (s : DetailState ι π Time) : Prop where
  calls : ∀ i, s.CallSound setting (s.calls i)
  entry : s.EntrySound setting
  texts : Texts s.rows

/-- A reader has nothing from before the version `v`. -/
def Fresh (setting : DetailSetting ι π Time) (s : DetailState ι π Time) (v : Nat) :
    Call Time → Prop
  | .loaded _ version _ => v ≤ version
  | .answered _ answer => Current setting.times s.rows v answer
  | _ => True

structure Evolves (s t : DetailState ι π Time) : Prop where
  rows : s.rows.Later t.rows
  published : ∀ ⦃v⦄, s.Published v → t.Published v

variable {setting : DetailSetting ι π Time} {s t : DetailState ι π Time} {version v : Nat}
    {p : Option (Question Time)} {action : DetailAction ι Time} {write : Write Time}
    {call : Call Time}

theorem Evolves.wrote (evolves : s.Evolves t)
    {row : Option (Question Time)} (wrote : s.Wrote write version row) :
    t.Wrote write version row :=
  ⟨evolves.rows wrote.1, wrote.2⟩

theorem Evolves.callSound (evolves : s.Evolves t) (sound : s.CallSound setting call) :
    t.CallSound setting call := by
  unfold CallSound at sound ⊢
  split at sound <;> try trivial
  · obtain ⟨p, was, read⟩ := sound
    exact ⟨p, evolves.rows was, read⟩
  · obtain ⟨p, was, read⟩ := sound
    exact ⟨p, evolves.rows was, read⟩
  · exact evolves.wrote sound
  · obtain ⟨⟨row, wrote⟩, published⟩ := sound
    exact ⟨⟨row, evolves.wrote wrote⟩, evolves.published published⟩
  · obtain ⟨⟨row, wrote⟩, published⟩ := sound
    exact ⟨⟨row, evolves.wrote wrote⟩, evolves.published published⟩

theorem Evolves.fresh (evolves : s.Evolves t) (fresh : s.Fresh setting v call) :
    t.Fresh setting v call := by
  cases call with
  | loaded => exact fresh
  | answered => exact Current.later fresh evolves.rows
  | _ => trivial

theorem le_of_ordered {i : ι} {outcome : Outcome} {now : Time}
    (ok : ordered s (.advance i outcome now) = true)
    (storing : (s.calls i).storing = some version) {w : Nat} (wrote : s.published = some w) :
    w ≤ version := by
  simpa [ordered, storing, wrote] using ok

variable [DecidableEq ι]

/-- What a step of the call `i` does, which takes it from `old` to `new`. -/
structure Move (setting : DetailSetting ι π Time) (s t : DetailState ι π Time) (i : ι)
    (old new : Call Time) : Prop extends s.Evolves t where
  calls : t.calls = update s.calls i new
  entry : t.EntrySound setting
  sound : t.CallSound setting new
  fresh : ∀ ⦃v⦄, s.Published v → v ≤ s.rows.last → s.Fresh setting v old → t.Fresh setting v new
  texts : Texts s.rows → Texts t.rows

/-! ## What a call finds in the cache -/

omit [DecidableEq ι] in
theorem EntrySound.later (sound : s.EntrySound setting) (entry : t.entry = s.entry)
    (source : t.source = s.source) (published : t.published = s.published)
    (rows : s.rows.Later t.rows) : t.EntrySound setting := by
  intro jsonStr w present wrote
  rw [entry] at present
  rw [published] at wrote
  rcases sound jsonStr w present wrote with null | ⟨p, q, was, order, copy, written⟩
  · exact .inl null
  · rw [source]
    exact .inr ⟨p, q, rows was, order, copy, written⟩

omit [DecidableEq ι] in
theorem entrySound_of_set {row : Option (Question Time)}
    (entry : t.entry = some (setting.entryOf row)) (was : t.rows.Was t.source p)
    (copy : row = p ∨ row = setting.find p)
    (order : row.isSome = true → ∀ w, t.published = some w → w ≤ t.source) :
    t.EntrySound setting := by
  intro jsonStr w present wrote
  rw [entry] at present
  cases present
  cases row with
  | none => exact .inl rfl
  | some q =>
    right
    rcases copy with rfl | read
    · exact ⟨q, q, was, order rfl w wrote, .inl rfl, rfl⟩
    · obtain ⟨p, rfl, copied⟩ := map_eq_some_iff.mp read.symm
      exact ⟨p, q, was, order rfl w wrote, .inr copied.symm, rfl⟩

omit [DecidableEq ι] in
theorem current_of_getDetailedQuestion (faithful : setting.json.Faithful)
    (sound : s.EntrySound setting) (texts : Texts s.rows) (published : s.Published v)
    {q : Question Time} (hit : setting.getDetailedQuestion s.entry = some q) :
    Current setting.times s.rows v (.found q) := by
  obtain ⟨w, wrote, order⟩ := published
  unfold DetailSetting.getDetailedQuestion at hit
  split at hit
  · cases hit
  case h_2 jsonStr present =>
    obtain ⟨notNull, parsed⟩ := ite_none_left_eq_some.mp hit
    rcases sound jsonStr w present wrote with null | ⟨p, copy, was, bound, copied, rfl⟩
    · exact absurd null notNull
    have textual : copy.textual = true := by
      have original := texts _ p was
      rcases copied with rfl | rfl <;> exact original
    have recached : q = copy.recached setting.times := by
      rw [DetailSetting.entryOf, parseDetailedQuestion_write faithful textual] at parsed
      exact (Option.some.inj (ite_none_right_eq_some.mp parsed).2).symm
    have read : q ∈ p.asRead setting.times := by
      rcases copied with rfl | rfl <;> simp [Question.asRead, recached]
    exact ⟨p, was.since (Nat.le_trans order bound), read, Question.visible_of_mem_asRead read⟩

omit [DecidableEq ι] in
theorem current_of_loaded (was : s.rows.Was version p) (order : v ≤ version) :
    Current setting.times s.rows v ((setting.find p).elim .missing .found) := by
  cases p with
  | none => exact was.since order
  | some p =>
    have read : p.inTable setting.times ∈ p.asRead setting.times := by simp [Question.asRead]
    exact ⟨p, was.since order, read, Question.visible_of_mem_asRead read⟩

/-! ## The steps -/

variable {i : ι} {old new : Call Time}

theorem Move.ofCall (entry : s.EntrySound setting)
    (later : s.rows.Later rows) (texts : Texts s.rows → Texts rows) (mutex : π → Bool)
    (sound : CallSound setting
      { s with rows, mutex, calls := update s.calls i new } new)
    (fresh : ∀ ⦃v⦄, s.Published v → v ≤ s.rows.last → s.Fresh setting v old →
      Fresh setting { s with rows, mutex, calls := update s.calls i new } v new) :
    Move setting s { s with rows, mutex, calls := update s.calls i new } i old new where
  rows := later
  published := fun _ published => published
  calls := rfl
  entry := entry.later rfl rfl rfl later
  sound := sound
  fresh := fresh
  texts := texts

theorem Move.ofBare (entry : s.EntrySound setting) (mutex : π → Bool)
    (sound : ∀ u : DetailState ι π Time, u.CallSound setting new)
    (fresh : ∀ (u : DetailState ι π Time) v, u.Fresh setting v new) :
    Move setting s { s.setCall i new with mutex } i old new :=
  .ofCall entry (.refl s.rows) id mutex (sound _) fun v _ _ _ => fresh _ v

variable [DecidableEq π]

theorem move_finishWrite (entry : s.EntrySound setting) (write : Write Time) :
    Move setting s (s.finishWrite setting i write none) i old (.returned write none) :=
  .ofBare entry _ (fun _ => trivial) fun _ _ => trivial

theorem move_commit (entry : s.EntrySound setting) {row : Option (Question Time)}
    (was : s.rows.Was version p) (read : row = setting.find p) (outcome : Outcome) (now : Time) :
    ∃ new, Move setting s (s.commit setting i write version row outcome now) i old new := by
  unfold commit
  split
  case isTrue nothing =>
    -- the row that was not there is the version that the write stands for
    obtain ⟨rfl, rfl⟩ : write = .delete ∧ row = none := by
      revert nothing
      cases write <;> cases row <;> simp [Write.erasesNothing]
    cases outcome with
    | done =>
      refine ⟨_, .ofCall entry (.refl s.rows) id s.mutex ?_ fun _ _ _ _ => trivial⟩
      rw [Option.map_eq_none_iff.mp read.symm] at was
      exact ⟨was, none, now, rfl⟩
    | lost | failed => exact ⟨_, move_finishWrite entry .delete⟩
  case isFalse =>
    split
    · exact ⟨_, move_finishWrite entry write⟩
    have later := s.rows.later_commit (write.row row now)
    have texts : Texts s.rows → Texts (s.rows.commit (write.row row now)) := fun texts =>
      texts.commit (Write.textual_row (read ▸ texts.find was))
    cases outcome with
    | done =>
      refine ⟨_, .ofCall entry later texts s.mutex ?_ fun _ _ _ _ => trivial⟩
      exact ⟨s.rows.was_commit _, row, now, rfl⟩
    | lost => exact ⟨_, .ofCall entry later texts _ trivial fun _ _ _ _ => trivial⟩
    | failed => exact ⟨_, move_finishWrite entry write⟩

section

variable (faithful : setting.json.Faithful) (sound : s.Sound setting)
include faithful sound

theorem move_advance {outcome : Outcome} {now : Time}
    (ok : ordered s (.advance i outcome now) = true)
    (step : s.advance setting i outcome now = some t) :
    ∃ new, Move setting s t i (s.calls i) new := by
  have held := sound.calls i
  have entry := sound.entry
  unfold advance at step
  generalize place : s.calls i = call at held step ⊢
  cases call with cases step
  | asking =>
    refine ⟨_, .ofBare entry s.mutex (fun _ => ?_) fun _ _ => ?_⟩
    · split <;> trivial
    · split <;> trivial
  | getting =>
    cases hit : setting.getDetailedQuestion s.entry with
    | none => exact ⟨_, .ofBare entry s.mutex (fun _ => trivial) fun _ _ => trivial⟩
    | some =>
      refine ⟨_, .ofCall entry (.refl s.rows) id s.mutex trivial fun v published _ _ => ?_⟩
      exact current_of_getDetailedQuestion faithful entry sound.texts published hit
  | missed =>
    cases outcome with
    | done =>
      refine ⟨_, .ofCall entry (.refl s.rows) id s.mutex ?_ fun v _ bound _ => bound⟩
      exact ⟨_, s.rows.was_current, rfl⟩
    | lost | failed => exact ⟨_, .ofBare entry s.mutex (fun _ => trivial) fun _ _ => trivial⟩
  | loaded includeHidden version row =>
    obtain ⟨p, was, rfl⟩ := held
    refine ⟨_, ⟨.refl s.rows, fun _ published => published⟩, rfl, ?_, trivial, ?_, id⟩
    · -- The reader has the row of its own version; that this is not too old is `ordered`.
      refine entrySound_of_set rfl was (.inr rfl) fun isQuestion w wrote => ?_
      obtain ⟨q, isQuestion⟩ := isSome_iff_exists.mp isQuestion
      have storing : (s.calls i).storing = some version := by rw [place, isQuestion, Call.storing]
      exact le_of_ordered ok storing wrote
    · intro v _ _ order
      exact current_of_loaded was order
  | locked write =>
    cases outcome with
    | done =>
      refine ⟨_, .ofCall entry (.refl s.rows) id s.mutex ?_ fun _ _ _ _ => trivial⟩
      exact ⟨_, s.rows.was_current, rfl⟩
    | lost | failed => exact ⟨_, move_finishWrite entry write⟩
  | found =>
    obtain ⟨p, was, read⟩ := held
    exact move_commit entry was read outcome now
  | committed write version row =>
    -- The writer publishes its version: what was published stays so, and the entry is new.
    refine ⟨_, ⟨.refl s.rows, ?_⟩, rfl, ?_, ?_, fun _ _ _ _ => trivial, id⟩
    · rintro v ⟨w, wrote, order⟩
      refine ⟨_, rfl, Nat.le_trans order ?_⟩
      rw [wrote]
      exact Nat.le_max_left _ _
    · refine entrySound_of_set rfl held.1 (.inl rfl) fun isQuestion w wrote => ?_
      cases wrote
      refine Nat.max_le.mpr ⟨?_, Nat.le_refl _⟩
      obtain ⟨q, rfl⟩ := isSome_iff_exists.mp isQuestion
      have storing : (s.calls i).storing = some version := by rw [place, Call.storing]
      cases before : s.published with
      | none => exact Nat.zero_le _
      | some => exact le_of_ordered ok storing before
    · exact ⟨⟨row, held⟩, _, rfl, Nat.le_max_right _ _⟩
  | published => exact ⟨_, .ofCall entry (.refl s.rows) id _ held fun _ _ _ _ => trivial⟩

section

variable (ok : ordered s action = true) (step : s.step setting action = some t)
include ok step

theorem move_or_vanish :
    (∃ i new, Move setting s t i (s.calls i) new) ∨ t = { s with entry := none } := by
  cases action with
  | getOneQuestion i =>
    simp only [DetailState.step, startRead] at step
    split at step
    · cases step
      refine .inl ⟨i, _, .ofBare sound.entry s.mutex (fun _ => ?_) fun _ _ => ?_⟩
      · split <;> trivial
      · split <;> trivial
    · cases step
  | write i =>
    simp only [DetailState.step, startWrite] at step
    split at step
    · obtain ⟨-, step⟩ := ite_none_left_eq_some.mp step
      split at step
      · cases step
        exact .inl ⟨i, _, .ofBare sound.entry s.mutex (fun _ => trivial) fun _ _ => trivial⟩
      obtain ⟨-, step⟩ := ite_none_left_eq_some.mp step
      cases step
      exact .inl ⟨i, _, .ofBare sound.entry _ (fun _ => trivial) fun _ _ => trivial⟩
    · cases step
  | advance i => exact .inl ⟨i, move_advance faithful sound ok step⟩
  | vanish =>
    cases step
    exact .inr rfl

/-! ## All runs -/

theorem evolves_step : s.Evolves t := by
  rcases move_or_vanish faithful sound ok step with ⟨i, new, move⟩ | rfl
  · exact move.toEvolves
  · exact ⟨.refl s.rows, fun _ published => published⟩

theorem sound_step : t.Sound setting := by
  rcases move_or_vanish faithful sound ok step with ⟨i, new, move⟩ | rfl
  · refine ⟨?_, move.entry, move.texts sound.texts⟩
    rw [move.calls]
    refine (Function.forall_update_iff s.calls fun _ => t.CallSound setting).mpr ⟨move.sound, ?_⟩
    exact fun j _ => move.callSound (sound.calls j)
  · exact ⟨sound.calls, nofun, sound.texts⟩

theorem fresh_step (published : s.Published v) (bound : v ≤ s.rows.last) {j : ι}
    (fresh : s.Fresh setting v (s.calls j)) : t.Fresh setting v (t.calls j) := by
  rcases move_or_vanish faithful sound ok step with ⟨i, new, move⟩ | rfl
  · rw [move.calls]
    by_cases same : j = i
    · subst same
      rw [update_self]
      exact move.fresh published bound fresh
    · rw [update_of_ne same]
      exact Evolves.fresh move.toEvolves fresh
  · exact Evolves.fresh ⟨.refl s.rows, fun _ published => published⟩ fresh

end

end

variable {row : Option (Question Time)} {entry : Option Bytes}

theorem sound_initial (textual : ∀ q ∈ row, q.textual = true) (entry : Option Bytes) :
    (detailSystem setting row entry).initial.Sound setting :=
  ⟨fun _ => trivial, nofun, fun _ p was => textual p was.2⟩

theorem sound_of_reachable (faithful : setting.json.Faithful)
    (textual : ∀ q ∈ row, q.textual = true)
    (reachable : (detailSystem setting row entry).ReachableUnder
      (fun s action => ordered s action = true) s) : s.Sound setting := by
  refine TransitionSystem.ReachesUnder.induct reachable (sound_initial textual entry) ?_
  intro t u action _ ok step sound
  exact sound_step faithful sound ok step

theorem fresh_of_reaches (faithful : setting.json.Faithful) (sound : s.Sound setting)
    (published : s.Published v) (bound : v ≤ s.rows.last) {j : ι}
    (starts : s.calls j = .idle)
    (after : (detailSystem setting row entry).ReachesUnder
      (fun s action => ordered s action = true) s t) : t.Fresh setting v (t.calls j) := by
  let Kept (u : DetailState ι π Time) : Prop :=
    u.Sound setting ∧ u.Published v ∧ v ≤ u.rows.last ∧ u.Fresh setting v (u.calls j)
  have kept : Kept t := by
    refine TransitionSystem.ReachesUnder.induct (P := Kept) after ?_ ?_
    · dsimp only [Kept]
      rw [starts]
      exact ⟨sound, published, bound, trivial⟩
    · rintro t u action - ok step ⟨sound, published, bound, fresh⟩
      have evolves := evolves_step faithful sound ok step
      exact ⟨sound_step faithful sound ok step, evolves.published published,
        Nat.le_trans bound evolves.rows.last_le,
        fresh_step faithful sound ok step published bound fresh⟩
  exact kept.2.2.2

end DetailState

variable [DecidableEq ι] [DecidableEq π]

/-- **Read after write.** A `GetOneQuestion` that starts after a write has returned answers from
that version or a later one, if no question is written to the cache after a later version was. -/
theorem answers_after_write (setting : DetailSetting ι π Time) (faithful : setting.json.Faithful)
    {row : Option (Question Time)} (textual : ∀ q ∈ row, q.textual = true) {entry : Option Bytes}
    {s t : DetailState ι π Time} {i j : ι} {write : Write Time} {v : Nat}
    {includeHidden : Bool} {answer : Answer Time}
    (before : (detailSystem setting row entry).ReachableUnder
      (fun s action => ordered s action = true) s)
    (wrote : s.calls i = .returned write (some v)) (starts : s.calls j = .idle)
    (after : (detailSystem setting row entry).ReachesUnder
      (fun s action => ordered s action = true) s t)
    (answered : t.calls j = .answered includeHidden answer) :
    (∃ found now, s.rows.Was v (write.row found now)) ∧
      Current setting.times t.rows v answer ∧
      (includeHidden = false → answer.returns includeHidden = true →
        ∃ p, t.rows.Since v (some p) ∧ p.visible = true) := by
  have sound := DetailState.sound_of_reachable faithful textual before
  have returned := sound.calls i
  rw [wrote] at returned
  obtain ⟨⟨_, was, found, now, rfl⟩, published⟩ := returned
  have current := DetailState.fresh_of_reaches faithful sound published was.1 starts after
  rw [answered] at current
  refine ⟨⟨found, now, was⟩, current, ?_⟩
  rintro rfl shown
  cases answer with
  | failed | missing => cases shown
  | found =>
    obtain ⟨p, since, -, same⟩ := current
    exact ⟨p, since, same ▸ shown⟩

/-! ## A question that is hidden -/

def sampleTimes : Times Unit := ⟨id, fun _ => 0, fun _ => ()⟩

def sampleQuestion (visible : Bool) : Question Unit where
  id := text "1"
  title := text "A+B"
  desc := text "Add two numbers"
  star := text "easy"
  createTime := ()
  updateTime := ()
  cpuLimit := 1
  memoryLimit := 64
  visible

def sampleSave : Write Unit := .save (sampleQuestion false) (by decide +kernel)

def sampleSetting : DetailSetting (Fin 3) Unit Unit where
  id := text "1"
  process := fun _ => ()
  json := countedJson
  times := sampleTimes

abbrev sampleSystem :
    TransitionSystem (DetailState (Fin 3) Unit Unit) (DetailAction (Fin 3) Unit) :=
  detailSystem sampleSetting (some (sampleQuestion true)) none

/-- The call `i` advances `n` times. -/
def advances (i : Fin 3) (n : Nat) : List (DetailAction (Fin 3) Unit) :=
  List.replicate n (.advance i .done ())

theorem answers_after_write_hidden :
    ∃ s t : DetailState (Fin 3) Unit Unit,
      s.calls 1 = .returned sampleSave (some 1) ∧ s.calls 2 = .idle ∧
      t.calls 2 = .answered false (.found (sampleQuestion false)) ∧
      Current sampleTimes t.rows 1 (.found (sampleQuestion false)) := by
  obtain ⟨s, t, before, first, after, second⟩ :=
    sampleSystem.exists_of_runsUnder ordered
      ([.getOneQuestion 0 false] ++ advances 0 2 ++ [.write 1 sampleSave] ++
        advances 1 2 ++ advances 0 1 ++ advances 1 2)
      ([.getOneQuestion 2 false] ++ advances 2 2)
      (fun s => s.calls 1 = .returned sampleSave (some 1) ∧
        s.calls 2 = .idle)
      (fun t => t.calls 2 = .answered false (.found (sampleQuestion false))) (by decide +kernel)
  obtain ⟨wrote, starts⟩ := of_decide_eq_true first
  have answered := of_decide_eq_true second
  have textual : ∀ q ∈ some (sampleQuestion true), q.textual = true := by
    rintro _ ⟨⟩
    decide +kernel
  exact ⟨s, t, wrote, starts, answered, (answers_after_write sampleSetting countedJson_faithful
    textual before wrote starts after answered).2.1⟩

/-- The reader 0 has read the row before it is hidden, and stores it after the writer has returned.
-/
theorem hidden_question_shown :
    ∃ s t : DetailState (Fin 3) Unit Unit, sampleSystem.Reachable s ∧
      s.calls 1 = .returned sampleSave (some 1) ∧ s.calls 2 = .idle ∧
      sampleSystem.Reaches s t ∧
      t.calls 2 = .answered false (.found (sampleQuestion true)) ∧
      (Answer.found (sampleQuestion true)).returns false = true ∧
      ¬ Current sampleTimes t.rows 1 (.found (sampleQuestion true)) := by
  obtain ⟨s, t, before, first, after, second⟩ :=
    sampleSystem.exists_of_runsUnder (fun _ _ => true)
      ([.getOneQuestion 0 false] ++ advances 0 2 ++ [.write 1 sampleSave] ++
        advances 1 4)
      (advances 0 1 ++ [.getOneQuestion 2 false] ++ advances 2 2)
      (fun s => s.calls 1 = .returned sampleSave (some 1) ∧
        s.calls 2 = .idle)
      (fun t => t.calls 2 = .answered false (.found (sampleQuestion true)) ∧ t.rows.last = 1 ∧
        t.rows.current = some (sampleQuestion false)) (by decide +kernel)
  obtain ⟨wrote, starts⟩ := of_decide_eq_true first
  obtain ⟨answered, last, hidden⟩ := of_decide_eq_true second
  refine ⟨s, t, before.reaches, wrote, starts, after.reaches, answered, rfl, ?_⟩
  rintro ⟨p, since, -, same⟩
  rw [← last] at since
  have row := since.eq_current
  rw [hidden] at row
  cases row
  cases same

end OnlineJudge.Questions
