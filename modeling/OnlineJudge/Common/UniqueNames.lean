import Mathlib
import OnlineJudge.Common.Decimal
import OnlineJudge.Library.TransitionSystem

/-!
# Unique names

`StringUtil::GetUniqueName` (`comm.hpp`) increments an atomic counter, reads the clock and reads
the counter again, so that two calls may find the same number (`same_name_of_two_calls`).
-/

namespace OnlineJudge

open Function List

variable {ι : Type} [DecidableEq ι]

/-! ## The calls -/

/-- How far a call of `GetUniqueName` has come. -/
inductive NameCall
  | entered
  /-- `id++` is done. -/
  | counted
  | stamped (ms : Int)
  | returned (ms : Int) (uniqId : UInt32)
  deriving DecidableEq

def NameCall.name : NameCall → Option Bytes
  | .returned ms uniqId => some (decimalInt ms ++ text "_" ++ decimal uniqId.toNat)
  | _ => none

inductive NameStep (ι : Type)
  | increment (i : ι)
  | readClock (i : ι) (ms : Int)
  | readCounter (i : ι)
  deriving DecidableEq

open NameStep

structure NameState (ι : Type) where
  id : UInt32 := 0
  calls : ι → NameCall := fun _ => .entered

def NameState.step (s : NameState ι) : NameStep ι → Option (NameState ι)
  | .increment i =>
    if s.calls i = .entered then some ⟨s.id + 1, update s.calls i .counted⟩ else none
  | .readClock i ms =>
    if s.calls i = .counted then some ⟨s.id, update s.calls i (.stamped ms)⟩ else none
  | .readCounter i =>
    match s.calls i with
    | .stamped ms => some ⟨s.id, update s.calls i (.returned ms s.id)⟩
    | _ => none

variable (ι) in
def nameSystem : TransitionSystem (NameState ι) (NameStep ι) where
  initial := {}
  step := NameState.step

/-! ## What the schedule says of the calls -/

def NameStep.isIncrement : NameStep ι → Bool
  | .increment _ => true
  | _ => false

def increments (actions : List (NameStep ι)) : Nat := actions.countP isIncrement

structure Logged (actions : List (NameStep ι)) (s : NameState ι) : Prop where
  id_eq : s.id = UInt32.ofNat (increments actions)
  clock : ∀ i ms, .readClock i ms ∈ actions ↔
    s.calls i = .stamped ms ∨ ∃ uniqId, s.calls i = .returned ms uniqId
  read : ∀ i ms uniqId, s.calls i = .returned ms uniqId →
    ∃ before after, actions = before ++ .readCounter i :: after ∧
      uniqId = UInt32.ofNat (increments before)
  once : ∀ i before after, actions = before ++ .readCounter i :: after →
    .readCounter i ∉ before ∧ ∃ ms, s.calls i = .returned ms (UInt32.ofNat (increments before))

omit [DecidableEq ι] in
@[simp]
theorem increments_append (first second : List (NameStep ι)) :
    increments (first ++ second) = increments first + increments second :=
  countP_append

omit [DecidableEq ι] in
@[simp]
theorem increments_cons (action : NameStep ι) (rest : List (NameStep ι)) :
    increments (action :: rest) = increments rest + if action.isIncrement then 1 else 0 :=
  countP_cons

theorem cases_of_concat_eq {α : Type} {xs before after : List α} {last x : α}
    (same : xs ++ [last] = before ++ x :: after) :
    (xs = before ∧ last = x) ∨ ∃ after', xs = before ++ x :: after' := by
  rcases eq_nil_or_concat' after with rfl | ⟨after, other, rfl⟩
  · obtain ⟨front, back⟩ := append_inj' same rfl
    exact .inl ⟨front, List.singleton_inj.mp back⟩
  · rw [← cons_append, ← append_assoc] at same
    exact .inr ⟨after, (append_inj' same rfl).1⟩

theorem logged_initial : Logged [] (nameSystem ι).initial where
  id_eq := rfl
  clock := by simp [nameSystem]
  read := by simp [nameSystem]
  once := by simp

namespace Logged

variable {actions : List (NameStep ι)} {s : NameState ι}

theorem returned_update {i : ι} (call : NameCall)
    (running : ∀ ms uniqId, call ≠ .returned ms uniqId)
    (before : ∀ ms uniqId, s.calls i ≠ .returned ms uniqId) (j : ι) (ms : Int) (uniqId : UInt32) :
    update s.calls i call j = .returned ms uniqId ↔ s.calls j = .returned ms uniqId := by
  rcases eq_or_ne j i with rfl | other
  · simp [running, before]
  · simp [other]

variable {t : NameState ι}

section

variable (logged : Logged actions s)
include logged

omit [DecidableEq ι] in
theorem reads_concat (action : NameStep ι) (quiet : ∀ j, action ≠ .readCounter j)
    (same : ∀ j ms uniqId, t.calls j = .returned ms uniqId ↔ s.calls j = .returned ms uniqId) :
    (∀ j ms uniqId, t.calls j = .returned ms uniqId →
      ∃ before after, actions ++ [action] = before ++ .readCounter j :: after ∧
        uniqId = UInt32.ofNat (increments before)) ∧
    ∀ j before after, actions ++ [action] = before ++ .readCounter j :: after →
      .readCounter j ∉ before ∧
        ∃ ms, t.calls j = .returned ms (UInt32.ofNat (increments before)) := by
  constructor
  · intro j ms uniqId returned
    obtain ⟨before, after, rfl, read⟩ := logged.read j ms uniqId ((same j ms uniqId).mp returned)
    exact ⟨before, after ++ [action], by simp, read⟩
  · intro j before after grown
    rcases cases_of_concat_eq grown with ⟨-, last⟩ | ⟨after', earlier⟩
    · exact absurd last (quiet j)
    · obtain ⟨first, ms, returned⟩ := logged.once j before after' earlier
      exact ⟨first, ms, (same j ms _).mpr returned⟩

theorem increment {i : ι} (entered : s.calls i = .entered) :
    Logged (actions ++ [.increment i]) ⟨s.id + 1, update s.calls i .counted⟩ := by
  have same := returned_update (s := s) (i := i) .counted (by simp) (by simp [entered])
  obtain ⟨read, once⟩ := logged.reads_concat (.increment i)
    (t := ⟨s.id + 1, update s.calls i .counted⟩) (by simp) same
  refine ⟨?_, fun j ms => ?_, read, once⟩
  · simp [logged.id_eq, isIncrement, increments]
  · have before := logged.clock j ms
    simp only [same]
    rcases eq_or_ne j i with rfl | other
    · simpa [entered] using before
    · simpa [other] using before

theorem readClock {i : ι} (counted : s.calls i = .counted) (ms : Int) :
    Logged (actions ++ [.readClock i ms]) ⟨s.id, update s.calls i (.stamped ms)⟩ := by
  have same := returned_update (s := s) (i := i) (.stamped ms) (by simp) (by simp [counted])
  obtain ⟨read, once⟩ := logged.reads_concat (.readClock i ms)
    (t := ⟨s.id, update s.calls i (.stamped ms)⟩) (by simp) same
  refine ⟨?_, fun j ms' => ?_, read, once⟩
  · simp [logged.id_eq, isIncrement, increments]
  · have before := logged.clock j ms'
    simp only [same]
    rcases eq_or_ne j i with rfl | other
    · have unread : .readClock j ms' ∉ actions := by simp [before, counted]
      simp [unread, counted, eq_comm]
    · simpa [other] using before

theorem readCounter {i : ι} {ms : Int} (stamped : s.calls i = .stamped ms) :
    Logged (actions ++ [.readCounter i])
      ⟨s.id, update s.calls i (.returned ms s.id)⟩ where
  id_eq := by simp [logged.id_eq, isIncrement, increments]
  clock j ms' := by
    have before := logged.clock j ms'
    rcases eq_or_ne j i with rfl | other
    · simpa [stamped] using before
    · simpa [other] using before
  read j ms' uniqId returned := by
    rcases eq_or_ne j i with rfl | other
    · obtain ⟨-, rfl⟩ : ms = ms' ∧ s.id = uniqId := by simpa using returned
      exact ⟨actions, [], rfl, logged.id_eq⟩
    obtain ⟨before, after, rfl, read⟩ := logged.read j ms' uniqId (by simpa [other] using returned)
    exact ⟨before, after ++ [.readCounter i], by simp, read⟩
  once j before after grown := by
    rcases cases_of_concat_eq grown with ⟨rfl, last⟩ | ⟨after', earlier⟩
    · obtain rfl : i = j := readCounter.inj last
      refine ⟨fun again => ?_, ms, by simp [logged.id_eq]⟩
      -- a call that has read the counter has returned
      obtain ⟨first, rest, split⟩ := append_of_mem again
      obtain ⟨-, _, returned⟩ := logged.once i first rest split
      simp [stamped] at returned
    · obtain ⟨first, ms', returned⟩ := logged.once j before after' earlier
      have other : j ≠ i := by
        rintro rfl
        simp [stamped] at returned
      exact ⟨first, ms', by simpa [other] using returned⟩

theorem step {action : NameStep ι} (stepped : s.step action = some t) :
    Logged (actions ++ [action]) t := by
  cases action with
  | increment =>
    obtain ⟨entered, moved⟩ := Option.ite_none_right_eq_some.mp stepped
    cases moved
    exact logged.increment entered
  | readClock i ms =>
    obtain ⟨counted, moved⟩ := Option.ite_none_right_eq_some.mp stepped
    cases moved
    exact logged.readClock counted ms
  | readCounter i =>
    simp only [NameState.step] at stepped
    split at stepped
    · rename_i ms stamped
      cases stepped
      exact logged.readCounter stamped
    · cases stepped

theorem run {later : List (NameStep ι)}
    (ran : (nameSystem ι).run s later = some t) : Logged (actions ++ later) t := by
  induction later generalizing actions s with
  | nil =>
    cases ran
    rwa [append_nil]
  | cons action later ih =>
    obtain ⟨middle, stepped, rest⟩ := Option.bind_eq_some_iff.mp ran
    have grown := ih (logged.step stepped) rest
    rwa [append_assoc] at grown

end

omit [DecidableEq ι] in
theorem returned_of_read (logged : Logged actions s) {i : ι} {ms : Int}
    {before after : List (NameStep ι)} (read : actions = before ++ .readCounter i :: after)
    (clock : .readClock i ms ∈ actions) :
    s.calls i = .returned ms (UInt32.ofNat (increments before)) := by
  obtain ⟨-, ms', returned⟩ := logged.once i before after read
  have stamps := (logged.clock i ms).mp clock
  simp only [returned, reduceCtorEq, false_or, NameCall.returned.injEq] at stamps
  obtain ⟨_, rfl, -⟩ := stamps
  exact returned

end Logged

/-! ## The names -/

theorem underscore_not_mem_decimalInt (ms : Int) : 95 ∉ decimalInt ms := by
  intro mem
  rcases byte_of_mem_decimalInt mem with sign | ⟨-, digit⟩
  · exact absurd sign (by decide)
  · exact absurd digit (by decide)

theorem NameCall.name_eq_some_iff {call call' : NameCall} {name : Bytes}
    (named : call.name = some name) : call'.name = some name ↔ call' = call := by
  constructor
  · intro named'
    cases call with
    | returned ms =>
      cases call' with
      | returned ms' =>
        have same := Option.some.inj (named'.trans named.symm)
        have mark : text "_" = [95] := by decide +kernel
        simp only [mark, append_assoc, singleton_append] at same
        obtain ⟨times, numbers⟩ := eq_of_append_separator_eq
          (underscore_not_mem_decimalInt ms') (underscore_not_mem_decimalInt ms) same
        rw [decimalInt_injective times, UInt32.toNat_inj.mp (decimal_injective numbers)]
      | _ => cases named'
    | _ => cases named
  · rintro rfl
    exact named

def NameState.NamesDistinct (s : NameState ι) : Prop :=
  ∀ i j name, (s.calls i).name = some name → (s.calls j).name = some name → i = j

def Separated (actions : List (NameStep ι)) : Prop :=
  ∀ before between after i j ms,
    actions = before ++ .readCounter i :: (between ++ .readCounter j :: after) →
    .readClock i ms ∈ actions → .readClock j ms ∈ actions → ∃ k, .increment k ∈ between

omit [DecidableEq ι] in
theorem increments_eq_zero_iff {actions : List (NameStep ι)} :
    increments actions = 0 ↔ ¬ ∃ k, .increment k ∈ actions := by
  rw [increments, countP_eq_zero]
  constructor
  · rintro quiet ⟨k, mem⟩
    exact quiet _ mem rfl
  · intro quiet action mem counts
    cases action with
    | increment k => exact quiet ⟨k, mem⟩
    | readClock | readCounter => cases counts

theorem ofNat_ne_of_lt {m n : Nat} (less : m < n) (few : n < 2 ^ 32) :
    UInt32.ofNat m ≠ UInt32.ofNat n := by
  intro same
  have values := congrArg UInt32.toNat same
  rw [UInt32.toNat_ofNat_of_lt' (Nat.lt_trans less few), UInt32.toNat_ofNat_of_lt' few] at values
  omega

theorem ordered_of_ne {α : Type} {x y : α} (other : x ≠ y) {before after before' after' : List α}
    (same : before ++ x :: after = before' ++ y :: after') :
    (∃ between, after = between ++ y :: after') ∨ ∃ between, after' = between ++ x :: after := by
  rcases List.append_eq_append_iff.mp same with ⟨front, -, rest⟩ | ⟨front, -, rest⟩
  · cases front with
    | nil => exact absurd (List.cons.inj rest).1 other
    | cons first between => exact .inl ⟨between, (List.cons.inj rest).2⟩
  · cases front with
    | nil => exact absurd (List.cons.inj rest).1.symm other
    | cons first between => exact .inr ⟨between, (List.cons.inj rest).2⟩

section Reads

variable {actions : List (NameStep ι)} {s : NameState ι} {i j : ι} {ms : Int}
  {before between after : List (NameStep ι)}

omit [DecidableEq ι]

theorem Logged.returned_of_reads (logged : Logged actions s)
    (reads : actions = before ++ .readCounter i :: (between ++ .readCounter j :: after))
    (clock : .readClock i ms ∈ actions) (clock' : .readClock j ms ∈ actions) :
    i ≠ j ∧ s.calls i = .returned ms (UInt32.ofNat (increments before)) ∧
      s.calls j = .returned ms (UInt32.ofNat (increments before + increments between)) := by
  have second : actions = (before ++ .readCounter i :: between) ++ .readCounter j :: after := by
    rw [reads, append_assoc, cons_append]
  have counts : increments (before ++ .readCounter i :: between) =
      increments before + increments between := by
    simp [isIncrement]
  refine ⟨?_, logged.returned_of_read reads clock, ?_⟩
  · rintro rfl
    exact (logged.once i _ _ second).1 (by simp)
  · rw [← counts]
    exact logged.returned_of_read second clock'

theorem Logged.returned_ne (logged : Logged actions s) (few : increments actions < 2 ^ 32)
    (separated : Separated actions)
    (reads : actions = before ++ .readCounter i :: (between ++ .readCounter j :: after))
    {uniqId : UInt32} (returned : s.calls i = .returned ms uniqId) :
    s.calls j ≠ .returned ms uniqId := by
  intro returned'
  have clock : .readClock i ms ∈ actions := (logged.clock i ms).mpr (.inr ⟨_, returned⟩)
  have clock' : .readClock j ms ∈ actions := (logged.clock j ms).mpr (.inr ⟨_, returned'⟩)
  obtain ⟨-, first, second⟩ := logged.returned_of_reads reads clock clock'
  have same : UInt32.ofNat (increments before) =
      UInt32.ofNat (increments before + increments between) := by
    rw [returned] at first
    rw [returned'] at second
    exact (NameCall.returned.inj first).2.symm.trans (NameCall.returned.inj second).2
  have some_increment : increments between ≠ 0 := fun none =>
    increments_eq_zero_iff.mp none (separated _ _ _ i j ms reads clock clock')
  refine ofNat_ne_of_lt (by omega) ?_ same
  rw [reads] at few
  simp only [increments_append, increments_cons] at few
  omega

end Reads

/-- **Unique names.** The names of fewer than `2 ^ 32` calls are distinct exactly if the reads of
calls whose clocks agree are separated by increments. -/
theorem names_distinct_iff (actions : List (NameStep ι)) (s : NameState ι)
    (ran : (nameSystem ι).run (nameSystem ι).initial actions = some s)
    (few : increments actions < 2 ^ 32) : s.NamesDistinct ↔ Separated actions := by
  have logged : Logged actions s := logged_initial.run ran
  constructor
  · intro distinct before between after i j ms reads clock clock'
    obtain ⟨other, first, second⟩ := logged.returned_of_reads reads clock clock'
    by_contra quiet
    rw [increments_eq_zero_iff.mpr quiet, Nat.add_zero, ← first] at second
    exact other (distinct i j _ (congrArg NameCall.name first)
      (congrArg NameCall.name (second.trans first)))
  · intro separated i j name named named'
    by_contra other
    have same : s.calls j = s.calls i := (NameCall.name_eq_some_iff named).mp named'
    cases returned : s.calls i with
    | returned ms uniqId =>
      obtain ⟨before, after, reads, -⟩ := logged.read i ms uniqId returned
      obtain ⟨before', after', reads', -⟩ := logged.read j ms uniqId (same.trans returned)
      have apart : readCounter i ≠ .readCounter j :=
        fun same => other (readCounter.inj same)
      rcases ordered_of_ne apart (reads.symm.trans reads') with ⟨_, rfl⟩ | ⟨_, rfl⟩
      · exact logged.returned_ne few separated reads returned (same.trans returned)
      · exact logged.returned_ne few separated reads' (same.trans returned) returned
    | _ => rw [returned] at named; cases named

theorem separated_of_sequence :
    Separated [.increment false, .readClock false 7, .readCounter false,
      .increment true, .readClock true 7, .readCounter true] :=
  (names_distinct_iff _ _ rfl (by decide)).mp (by
    rintro (_ | _) (_ | _) name named named'
    · rfl
    · exact absurd (named.trans named'.symm) (by decide +kernel)
    · exact absurd (named.trans named'.symm) (by decide +kernel)
    · rfl)

/-- Two calls within a millisecond that both increment the counter before they read it. -/
theorem same_name_of_two_calls :
    ((nameSystem Bool).run (nameSystem Bool).initial
      [.increment false, .increment true, .readClock false 7, .readClock true 7,
        .readCounter false, .readCounter true]).map
      (fun s => ((s.calls false).name, (s.calls true).name)) =
        some (some (text "7_2"), some (text "7_2")) := by
  decide +kernel

end OnlineJudge
