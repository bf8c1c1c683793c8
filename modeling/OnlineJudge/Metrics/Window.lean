import OnlineJudge.Common.DateTime
import OnlineJudge.Metrics.Conservation

/-!
# The window of the metrics

`PersistCacheMetricSnapshot` stamps a row with UTC fields; `GetCacheMetricsOneDay` and
`CleanupOldMetrics` (`oj_model.hpp`) compare the column with the fields of `localtime_r`.
-/

namespace OnlineJudge.Metrics

open Calendar

/-- What `localtime_r` adds to an instant, in seconds. -/
abbrev Zone := Int → Int

def localtime (zone : Zone) (time : Int) : Tm := gmtime (time + zone time)

/-- A row, with its creation to the second, as the column `created_at` has it. -/
structure Snapshot where
  actionType : ActionType
  amounts : Counter → Int
  created : Int

/-- The column `created_at`; `intToDateTime_spec` says that `IntToDateTime` sets these fields. -/
def Snapshot.createdAt (row : Snapshot) : Tm := gmtime row.created

/-- The rows that the query of `GetCacheMetricsOneDay` aggregates. -/
def getCacheMetricsOneDay (zone : Zone) (now : Int) (rows : List Snapshot) : List Snapshot :=
  let cutoff := localtime zone (now - 24 * 60 * 60)
  rows.filter fun row => row.createdAt.packed ≥ cutoff.packed

def cleanupOldMetrics (zone : Zone) (now : Int) (rows : List Snapshot) : List Snapshot :=
  let cutoff := localtime zone (now - 30 * 24 * 60 * 60)
  rows.filter fun row => !(row.createdAt.packed < cutoff.packed)

variable {zone : Zone} {now : Int}

theorem createdAt_lt_iff (row : Snapshot) (time : Int) :
    row.createdAt.packed < (localtime zone time).packed ↔ row.created < time + zone time := by
  obtain ⟨valid, seconds⟩ := gmtime_spec row.created
  obtain ⟨valid', seconds'⟩ := gmtime_spec (time + zone time)
  rw [Snapshot.createdAt, localtime, ← seconds_lt_iff valid valid', seconds, seconds']

theorem getCacheMetricsOneDay_eq (rows : List Snapshot) :
    getCacheMetricsOneDay zone now rows =
      rows.filter fun row => now - 86400 + zone (now - 86400) ≤ row.created := by
  refine List.filter_congr fun row _ => ?_
  rw [decide_eq_decide, ge_iff_le, ← Int.not_lt, createdAt_lt_iff, Int.not_lt]
  rfl

theorem cleanupOldMetrics_eq (rows : List Snapshot) :
    cleanupOldMetrics zone now rows =
      rows.filter fun row => now - 2592000 + zone (now - 2592000) ≤ row.created := by
  refine List.filter_congr fun row _ => ?_
  rw [← decide_not, decide_eq_decide, createdAt_lt_iff, Int.not_lt]
  rfl

/-- A filter by an instant determines the instant. -/
theorem eq_of_filter_eq {first second : Int} (same : ∀ rows : List Snapshot,
    (rows.filter fun row => first ≤ row.created) = rows.filter fun row => second ≤ row.created) :
    first = second := by
  have at_first := same [⟨0, fun _ => 0, first⟩]
  have at_second := same [⟨0, fun _ => 0, second⟩]
  simp [List.filter_cons] at at_first at_second
  omega

theorem metrics_window_iff (zone : Zone) (now : Int) :
    (∀ rows, (getCacheMetricsOneDay zone now rows =
        rows.filter fun row => now - 24 * 60 * 60 ≤ row.created) ∧
      cleanupOldMetrics zone now rows =
        rows.filter fun row => now - 30 * 24 * 60 * 60 ≤ row.created) ↔
      zone (now - 24 * 60 * 60) = 0 ∧ zone (now - 30 * 24 * 60 * 60) = 0 := by
  simp only [getCacheMetricsOneDay_eq, cleanupOldMetrics_eq, Int.reduceMul]
  constructor
  · intro exactly
    have day := eq_of_filter_eq fun rows => (exactly rows).1
    have month := eq_of_filter_eq fun rows => (exactly rows).2
    omega
  · rintro ⟨day, month⟩ rows
    simp [day, month]

def recentRow : Snapshot := ⟨Fin.last 4, fun _ => 1, 1700000000 - 20 * 60 * 60⟩

theorem recent_row_left_out :
    getCacheMetricsOneDay (fun _ => 8 * 60 * 60) 1700000000 [recentRow] = [] ∧
      [recentRow].filter (fun row => 1700000000 - 24 * 60 * 60 ≤ row.created) = [recentRow] := by
  rw [getCacheMetricsOneDay_eq]
  exact ⟨rfl, rfl⟩

end OnlineJudge.Metrics
