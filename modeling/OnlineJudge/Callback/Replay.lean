import Mathlib.Algebra.Order.Archimedean.Real.Basic
import OnlineJudge.Callback.Faults
import OnlineJudge.Library.ExpiringStore

/-!
# Replayed reports

A report with time stamp `ts` passes the first check of `UpdateJudgeResult` from `ts - 300` until
before `ts + 301`, as the clock is read in whole seconds; its nonce is kept for 600 seconds.
-/

namespace OnlineJudge.Callback

open Delivery Store ExpiringStore List

abbrev TimedCache (K : Type*) := ExpiringStore Bytes Bytes K

variable {K : Type*} [LinearOrder K]

def TimedCache.view (cache : TimedCache K) (now : K) : Cache := cache.get now

theorem TimedCache.view_setNx (cache : TimedCache K) (now : K) (key value : Bytes) {expiry : K}
    (later : now < expiry) :
    (TimedCache.view (cache.setNx now key value expiry).1 now,
      some (cache.setNx now key value expiry).2) =
      (TimedCache.view cache now).reserve key value .answered := by
  unfold Cache.reserve TimedCache.view
  cases found : cache.get now key with
  | none =>
    rw [setNx_of_none found]
    refine Prod.ext (funext fun other => ?_) rfl
    rcases eq_or_ne other key with rfl | different
    · simp [get_setEx, later]
    · simp [get_setEx_of_ne different, different]
  | some =>
    rw [setNx_of_isSome (by rw [found]; rfl)]
    simp

variable [Field K] [FloorRing K] (setting : ServiceSetting) (request : SignedRequest)

def arrive (cache : TimedCache K) (now : K) : TimedCache K × Stage :=
  match start setting request ⌊now⌋ with
  | .reserving =>
    let (cache, reserved) := cache.setNx now (nonceKey request) (text "1") (now + 600)
    (cache, afterReserve request (some reserved))
  | stage => (cache, stage)

def Stage.passed : Stage → Bool
  | .reading _ | .looking => true
  | _ => false

def admissions (cache : TimedCache K) : List K → Nat
  | [] => 0
  | now :: later =>
    (arrive setting request cache now).2.passed.toNat +
      admissions (arrive setting request cache now).1 later

structure Signed : Prop where
  fields : fieldsPresent request = true
  hmac : verifyCallbackHmac setting request = true

section Arrivals

variable {setting request} (signed : Signed setting request) {cache : TimedCache K}
include signed

theorem start_of_recent {now : Int} (fresh : recent request now = true) :
    start setting request now = .reserving := by
  simp [start, signed.fields, signed.hmac, fresh]

variable {now : K} {times : List K}

theorem admissions_of_stale (stale : recent request ⌊now⌋ = false) (later : List K) :
    admissions setting request cache (now :: later) = admissions setting request cache later := by
  have stays : arrive setting request cache now = (cache, rejected 401 "INVALID_SERVICE_AUTH") := by
    simp [arrive, start, signed.fields, stale, rejected]
  rw [admissions, stays]
  exact Nat.zero_add _

theorem admissions_of_new (fresh : recent request ⌊now⌋ = true)
    (new : cache.get now (nonceKey request) = none) (later : List K) :
    admissions setting request cache (now :: later) =
      1 + admissions setting request
        (cache.setEx (nonceKey request) (text "1") (now + 600)) later := by
  have goesOn : arrive setting request cache now =
      (cache.setEx (nonceKey request) (text "1") (now + 600),
        afterReserve request (some true)) := by
    simp only [arrive, start_of_recent signed fresh, setNx_of_none new]
  have passed : (afterReserve request (some true)).passed = true := by
    cases guest : guestTask request <;> simp [afterReserve, guest, Stage.passed]
  rw [admissions, goesOn, passed]
  rfl

theorem admissions_of_used (fresh : recent request ⌊now⌋ = true)
    (used : (cache.get now (nonceKey request)).isSome = true) (later : List K) :
    admissions setting request cache (now :: later) = admissions setting request cache later := by
  have stays : arrive setting request cache now = (cache, afterReserve request (some false)) := by
    simp only [arrive, start_of_recent signed fresh, setNx_of_isSome used]
  rw [admissions, stays]
  exact Nat.zero_add _

theorem admissions_eq_zero (used : ∀ now ∈ times, recent request ⌊now⌋ = true →
      (cache.get now (nonceKey request)).isSome = true) :
    admissions setting request cache times = 0 := by
  induction times with
  | nil => rfl
  | cons now later ih =>
    have rest := ih fun time member => used time (mem_cons_of_mem _ member)
    cases fresh : recent request ⌊now⌋ with
    | false => rw [admissions_of_stale signed fresh, rest]
    | true => rw [admissions_of_used signed fresh (used now mem_cons_self fresh), rest]

theorem admissions_pos {time : K} (member : time ∈ times) (fresh : recent request ⌊time⌋ = true)
    (new : cache.get time (nonceKey request) = none) :
    1 ≤ admissions setting request cache times := by
  induction times with
  | nil => cases member
  | cons now later ih =>
    rcases mem_cons.mp member with rfl | member
    · rw [admissions_of_new signed fresh new]
      exact Nat.le_add_right 1 _
    cases freshNow : recent request ⌊now⌋ with
    | false =>
      rw [admissions_of_stale signed freshNow]
      exact ih member
    | true =>
      cases found : cache.get now (nonceKey request) with
      | none =>
        rw [admissions_of_new signed freshNow found]
        exact Nat.le_add_right 1 _
      | some =>
        rw [admissions_of_used signed freshNow (by rw [found]; rfl)]
        exact ih member

variable [IsStrictOrderedRing K]

theorem two_le_admissions (sorted : times.Pairwise (· ≤ ·))
    (unused : cache (nonceKey request) = none) {first second : K} (firstMember : first ∈ times)
    (secondMember : second ∈ times) (firstFresh : recent request ⌊first⌋ = true)
    (secondFresh : recent request ⌊second⌋ = true) (apart : first + 600 ≤ second) :
    2 ≤ admissions setting request cache times := by
  induction times with
  | nil => cases firstMember
  | cons now later ih =>
    obtain ⟨earliest, sortedLater⟩ := pairwise_cons.mp sorted
    have before : now ≤ first := by
      rcases mem_cons.mp firstMember with rfl | member
      · exact le_rfl
      · exact earliest first member
    have secondLater : second ∈ later := by
      refine (mem_cons.mp secondMember).resolve_left fun same => ?_
      linarith
    cases fresh : recent request ⌊now⌋ with
    | false =>
      rw [admissions_of_stale signed fresh]
      refine ih sortedLater ((mem_cons.mp firstMember).resolve_left fun same => ?_) secondLater
      rw [same, fresh] at firstFresh
      cases firstFresh
    | true =>
      rw [admissions_of_new signed fresh (get_of_none unused now)]
      have expired : (cache.setEx (nonceKey request) (text "1") (now + 600)).get second
          (nonceKey request) = none := by
        rw [get_setEx, if_neg (by linarith)]
      have again := admissions_pos signed secondLater secondFresh expired
      omega

/-- **Replays are refused exactly where no two recent arrivals are 600 seconds apart.** -/
theorem replays_refused_iff {times : List K} (sorted : times.Pairwise (· ≤ ·))
    (unused : cache (nonceKey request) = none) :
    admissions setting request cache times ≤ 1 ↔
      ∀ first ∈ times, ∀ second ∈ times, recent request ⌊first⌋ = true →
        recent request ⌊second⌋ = true → second < first + 600 := by
  constructor
  · intro once first firstMember second secondMember firstFresh secondFresh
    by_contra apart
    have := two_le_admissions signed sorted unused firstMember secondMember firstFresh secondFresh
      (not_lt.mp apart)
    omega
  · intro near
    induction times with
    | nil => exact Nat.zero_le 1
    | cons now later ih =>
      obtain ⟨earliest, sortedLater⟩ := pairwise_cons.mp sorted
      cases fresh : recent request ⌊now⌋ with
      | false =>
        rw [admissions_of_stale signed fresh]
        refine ih sortedLater fun first firstMember second secondMember => ?_
        exact near first (mem_cons_of_mem _ firstMember) second (mem_cons_of_mem _ secondMember)
      | true =>
        rw [admissions_of_new signed fresh (get_of_none unused now)]
        refine Nat.le_of_eq (congrArg (1 + ·) (admissions_eq_zero signed ?_))
        intro time member freshTime
        have kept := near now mem_cons_self time (mem_cons_of_mem _ member) fresh freshTime
        rw [get_setEx, if_pos kept]
        rfl

end Arrivals

theorem recent_floor_iff [IsStrictOrderedRing K] {request : SignedRequest} {now : K} :
    recent request ⌊now⌋ = true ↔
      (request.serviceAuth.timestamp.toInt : K) - 300 ≤ now ∧
        now < request.serviceAuth.timestamp.toInt + 301 := by
  generalize stamp : request.serviceAuth.timestamp.toInt = ts
  have lower : (ts : K) - 300 ≤ now ↔ ts - 300 ≤ ⌊now⌋ := by
    rw [Int.le_floor]
    push_cast
    rfl
  have upper : now < (ts : K) + 301 ↔ ⌊now⌋ < ts + 301 := by
    rw [Int.floor_lt]
    push_cast
    rfl
  rw [lower, upper, recent, stamp, decide_eq_true_eq]
  omega

theorem signed_sampleSigned : Signed sampleService sampleSigned :=
  ⟨by decide +kernel, by decide +kernel⟩

theorem replays_refused_resent :
    admissions (K := ℝ) sampleService sampleSigned (fun _ => none) [1000, 1010] ≤ 1 := by
  refine (replays_refused_iff signed_sampleSigned (by norm_num) rfl).mpr ?_
  intro first firstMember second secondMember _ _
  simp only [mem_cons, not_mem_nil, or_false] at firstMember secondMember
  rcases firstMember with rfl | rfl <;> rcases secondMember with rfl | rfl <;> norm_num

/-- It arrives 300 seconds before its time stamp, and once more 600.5 seconds later. -/
theorem replayed_after_expiry :
    ¬ admissions (K := ℝ) sampleService sampleSigned (fun _ => none) [700, 1300.5] ≤ 1 := by
  have stamp : sampleSigned.serviceAuth.timestamp.toInt = 1000 := rfl
  have early : recent sampleSigned ⌊(700 : ℝ)⌋ = true := by
    rw [recent_floor_iff, stamp]
    norm_num
  have late : recent sampleSigned ⌊(1300.5 : ℝ)⌋ = true := by
    rw [recent_floor_iff, stamp]
    norm_num
  have twice : 2 ≤ admissions (K := ℝ) sampleService sampleSigned (fun _ => none) [700, 1300.5] :=
    two_le_admissions signed_sampleSigned (by norm_num) rfl (by simp) (by simp) early late
      (by norm_num)
  omega

end OnlineJudge.Callback
