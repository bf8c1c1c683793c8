import Mathlib.Order.Lattice

/-!
# Stores whose entries expire

A key–value store in which an entry may carry the time at which it ceases to exist.  A command
finds an entry only while it is `live`.
-/

universe u v w

structure ExpiringEntry (V : Type v) (T : Type w) where
  value : V
  /-- `none` for an entry that does not expire. -/
  expiry : Option T

abbrev ExpiringStore (K : Type u) (V : Type v) (T : Type w) := K → Option (ExpiringEntry V T)

namespace ExpiringStore

open Option Function

variable {K : Type u} {V : Type v} {T : Type w} [LinearOrder T]

def live (entry : ExpiringEntry V T) (now : T) : Bool :=
  match entry.expiry with
  | none => true
  | some expiry => now < expiry

def entry (store : ExpiringStore K V T) (now : T) (key : K) : Option (ExpiringEntry V T) :=
  (store key).filter (live · now)

def get (store : ExpiringStore K V T) (now : T) (key : K) : Option V :=
  (store.entry now key).map (·.value)

variable {store : ExpiringStore K V T} {key : K}

theorem get_of_none (absent : store key = none) (now : T) : store.get now key = none := by
  simp only [get, entry, absent, Option.filter_none, map_none]

variable {now expiry : T}

theorem get_eq_of_lt {later : T}
    (lasts : ∀ entry, store key = some entry → ∀ expiry, entry.expiry = some expiry →
      now < expiry ∧ later < expiry) : store.get later key = store.get now key := by
  cases found : store key with
  | none => rw [get_of_none found, get_of_none found]
  | some entry =>
    have alive (time : T) (before : ∀ expiry, entry.expiry = some expiry → time < expiry) :
        live entry time = true := by
      unfold live
      split
      · rfl
      · rename_i expiry expires
        exact decide_eq_true (before expiry expires)
    have first := alive now fun expiry expires => (lasts entry found expiry expires).1
    have second := alive later fun expiry expires => (lasts entry found expiry expires).2
    simp only [get, ExpiringStore.entry, found, filter_some, first, second]

theorem get_eq_none_of_le {later : T} (order : now ≤ later) (gone : store.get now key = none) :
    store.get later key = none := by
  simp only [get, entry, Option.map_eq_none_iff, Option.filter_eq_none_iff] at gone ⊢
  intro entry present alive
  refine gone entry present ?_
  unfold live at alive ⊢
  split at alive
  · rfl
  · rw [decide_eq_true_eq] at alive ⊢
    exact lt_of_le_of_lt order alive

variable [DecidableEq K]

def setEx (store : ExpiringStore K V T) (key : K) (value : V) (expiry : T) : ExpiringStore K V T :=
  update store key (some ⟨value, some expiry⟩)

def setNx (store : ExpiringStore K V T) (now : T) (key : K) (value : V) (expiry : T) :
    ExpiringStore K V T × Bool :=
  match store.get now key with
  | none => (store.setEx key value expiry, true)
  | some _ => (store, false)

def del (store : ExpiringStore K V T) (key : K) : ExpiringStore K V T :=
  update store key none

/-- Counts one more; a key that does not exist counts from zero and does not expire. -/
def incr (store : ExpiringStore K Nat T) (now : T) (key : K) : ExpiringStore K Nat T × Nat :=
  match store.entry now key with
  | some entry => (update store key (some ⟨entry.value + 1, entry.expiry⟩), entry.value + 1)
  | none => (update store key (some ⟨1, none⟩), 1)

def modify (store : ExpiringStore K V T) (now : T) (key : K) (change : Option V → V) :
    ExpiringStore K V T :=
  match store.entry now key with
  | some entry => update store key (some ⟨change (some entry.value), entry.expiry⟩)
  | none => update store key (some ⟨change none, none⟩)

def expire (store : ExpiringStore K V T) (now : T) (key : K) (expiry : T) : ExpiringStore K V T :=
  match store.entry now key with
  | some entry => update store key (some ⟨entry.value, some expiry⟩)
  | none => store

theorem get_update (store : ExpiringStore K V T) (now : T) (key : K) (new : ExpiringEntry V T) :
    ExpiringStore.get (update store key (some new)) now key =
      if live new now then some new.value else none := by
  simp only [get, entry, update_self, filter_some]
  split <;> rfl

theorem get_setEx (store : ExpiringStore K V T) (now : T) (key : K) (value : V) (expiry : T) :
    (store.setEx key value expiry).get now key = if now < expiry then some value else none := by
  rw [setEx, get_update]
  simp only [live, decide_eq_true_eq]

theorem get_setEx_of_ne {key other : K} (different : other ≠ key) {value : V} :
    (store.setEx key value expiry).get now other = store.get now other := by
  simp only [get, entry, setEx, update_of_ne different]

omit [LinearOrder T] in
theorem del_self (store : ExpiringStore K V T) (key : K) : store.del key key = none :=
  update_self ..

theorem get_del (store : ExpiringStore K V T) (now : T) (key : K) :
    (store.del key).get now key = none :=
  get_of_none (store.del_self key) now

theorem get_incr (store : ExpiringStore K Nat T) (now : T) (key : K) :
    (store.incr now key).2 = (store.get now key).getD 0 + 1 ∧
      (store.incr now key).1.get now key = some (store.incr now key).2 := by
  cases found : store.entry now key with
  | none =>
    simp only [incr, found, get_update]
    exact ⟨by simp [get, found], rfl⟩
  | some old =>
    have alive : live old now = true := (filter_eq_some_iff.mp found).2
    simp only [incr, found, get_update]
    exact ⟨by simp [get, found], if_pos alive⟩

theorem incr_expiry {store : ExpiringStore K Nat T} {entry : ExpiringEntry Nat T}
    (after : (store.incr now key).1 key = some entry) (expires : entry.expiry = some expiry) :
    ∃ before, store key = some before ∧ before.expiry = some expiry := by
  unfold incr at after
  split at after
  · rename_i old found
    dsimp only at after
    rw [update_self] at after
    cases after
    exact ⟨old, (filter_eq_some_iff.mp found).1, expires⟩
  · dsimp only at after
    rw [update_self] at after
    cases after
    cases expires

theorem entry_incr (store : ExpiringStore K Nat T) (now : T) (key : K) :
    (store.incr now key).1.entry now key =
      some ⟨(store.get now key).getD 0 + 1, (store.entry now key).bind (·.expiry)⟩ := by
  cases found : store.entry now key with
  | none =>
    have updated : (store.incr now key).1 = update store key (some ⟨1, none⟩) := by
      simp only [incr, found]
    rw [updated, entry, update_self]
    simp [get, found, live]
  | some old =>
    have alive : live old now = true := (filter_eq_some_iff.mp found).2
    have alive' : live (⟨old.value + 1, old.expiry⟩ : ExpiringEntry Nat T) now = true := alive
    have updated : (store.incr now key).1 =
        update store key (some ⟨old.value + 1, old.expiry⟩) := by
      simp only [incr, found]
    rw [updated, entry, update_self, filter_some, if_pos alive']
    simp [get, found]

variable {key other : K}

theorem incr_of_ne {store : ExpiringStore K Nat T} (different : other ≠ key) :
    (store.incr now key).1 other = store other := by
  unfold incr
  split <;> exact update_of_ne different ..

theorem expire_of_ne (different : other ≠ key) :
    store.expire now key expiry other = store other := by
  cases found : store.entry now key with
  | none => simp only [expire, found]
  | some =>
    simp only [expire, found]
    exact update_of_ne different ..

omit [LinearOrder T] in
theorem setEx_of_ne (different : other ≠ key) (value : V) (expiry : T) :
    store.setEx key value expiry other = store other :=
  update_of_ne different ..

theorem get_expire (later : now < expiry) :
    (store.expire now key expiry).get now key = store.get now key := by
  unfold expire
  split
  · rename_i old found
    have alive : live (⟨old.value, some expiry⟩ : ExpiringEntry V T) now = true :=
      decide_eq_true later
    rw [get_update, if_pos alive, get, found, map_some]
  · rfl

theorem expire_expiry {entry : ExpiringEntry V T}
    (after : store.expire now key expiry key = some entry) :
    store key = some entry ∨ entry.expiry = some expiry := by
  cases found : store.entry now key with
  | none =>
    simp only [expire, found] at after
    exact .inl after
  | some =>
    simp only [expire, found, update_self] at after
    cases after
    exact .inr rfl

theorem setNx_of_none (absent : store.get now key = none) (value : V) (expiry : T) :
    store.setNx now key value expiry = (store.setEx key value expiry, true) := by
  simp only [setNx, absent]

theorem setNx_of_isSome (present : (store.get now key).isSome = true) (value : V) (expiry : T) :
    store.setNx now key value expiry = (store, false) := by
  obtain ⟨found, present⟩ := isSome_iff_exists.mp present
  simp only [setNx, present]

def Only (P : V → Prop) (store : ExpiringStore K V T) (key : K) : Prop :=
  ∀ entry, store key = some entry → P entry.value

variable {P : V → Prop} {store : ExpiringStore K V T} {key other : K}

omit [LinearOrder T] in
theorem only_del (P : V → Prop) (store : ExpiringStore K V T) (key : K) :
    Only P (store.del key) key := by
  intro entry present
  rw [del_self] at present
  cases present

omit [DecidableEq K] in
theorem Only.of_get (only : Only P store key) {value : V} (found : store.get now key = some value) :
    P value := by
  obtain ⟨entry, present, rfl⟩ := map_eq_some_iff.mp found
  exact only entry (filter_eq_some_iff.mp present).1

omit [LinearOrder T] in
theorem Only.update_of_ne (only : Only P store key) (different : key ≠ other)
    (new : Option (ExpiringEntry V T)) : Only P (Function.update store other new) key := by
  intro entry present
  rw [Function.update_of_ne different] at present
  exact only entry present

theorem Only.modify_of_ne (only : Only P store key) (different : key ≠ other) (now : T)
    (change : Option V → V) : Only P (store.modify now other change) key := by
  unfold modify
  split <;> exact only.update_of_ne different _

theorem Only.expire (only : Only P store key) (now : T) (other : K) (expiry : T) :
    Only P (store.expire now other expiry) key := by
  unfold ExpiringStore.expire
  split
  · rename_i old found
    by_cases same : key = other
    · subst same
      intro entry present
      rw [update_self] at present
      cases present
      exact only old (filter_eq_some_iff.mp found).1
    · exact only.update_of_ne same _
  · exact only

theorem Only.modify (only : Only P store key) (now : T) {change : Option V → V}
    (fresh : P (change none)) (kept : ∀ value, P value → P (change (some value))) :
    Only P (store.modify now key change) key := by
  intro entry present
  cases found : store.entry now key with
  | some old =>
    simp only [ExpiringStore.modify, found, update_self] at present
    cases present
    exact kept old.value (only old (filter_eq_some_iff.mp found).1)
  | none =>
    simp only [ExpiringStore.modify, found, update_self] at present
    cases present
    exact fresh

end ExpiringStore
