import OnlineJudge.Questions.ListVersions

/-!
# Coherence of the list of questions

While versions do not repeat, a page under a version comes from a table that is not older than the
version (`CallSound`, `PagesSound`).
-/

namespace OnlineJudge.Questions

open Function

variable {Time ι : Type}

/-- An answer that was computed from the version `v` of the table or from a later one. -/
def PageCurrent (setting : ListSetting Time) (tables : History (List (Question Time))) (v : Nat)
    (input : ListInput) : ListAnswer Time → Prop
  | .failed | .blank => True
  | .loaded page =>
    ∃ table, tables.Since v table ∧
      loadPage setting.sql table input.request input.includeHidden = some page
  | .cached listed =>
    ∃ table request page, tables.Since v table ∧
      loadPage setting.sql table request false = some page ∧ listed = page.listed ∧
      SameKey (storedRequest request page) input.request

theorem PageCurrent.later {setting : ListSetting Time}
    {tables tables' : History (List (Question Time))} {v : Nat} {input : ListInput}
    {answer : ListAnswer Time} (current : PageCurrent setting tables v input answer)
    (later : tables.Later tables') : PageCurrent setting tables' v input answer := by
  cases answer with
  | failed | blank => trivial
  | cached =>
    obtain ⟨table, request, page, since, computed⟩ := current
    exact ⟨table, request, page, since.later later, computed⟩
  | loaded =>
    obtain ⟨table, since, computed⟩ := current
    exact ⟨table, since.later later, computed⟩

namespace ListState

def listVersion (s : ListState ι Time) : Nat := s.version.getD 0

def Kept (setting : ListSetting Time) (s : ListState ι Time) (request : ListRequest) (version : Nat)
    (source : Nat) (page : Page Time) : Prop :=
  s.reached version ≤ source ∧
    ∃ table, s.tables.Was source table ∧ loadPage setting.sql table request false = some page

/-- The list has come, since it was at the version `first`, to a version that is not older than the
version `v` of the table. -/
def Bumped (first : Nat) (s : ListState ι Time) (v : Nat) : Prop :=
  ∃ m, first < m ∧ m ≤ s.listVersion ∧ v ≤ s.reached m

def CallSound (setting : ListSetting Time) (first : Nat) (s : ListState ι Time) :
    ListCall Time → Prop
  | .checking _ version | .getting _ version | .missed _ version => version ≤ s.listVersion
  | .loaded input version source page =>
    input.includeHidden = false ∧ version ≤ s.listVersion ∧
      s.Kept setting input.request version source page
  | .found _ _ row => ∀ q ∈ row, q.textual = true
  | .committed source => source ≤ s.tables.last
  | .bumped source => s.Bumped first source
  | _ => True

/-- The pages under versions that have come since the list was at the version `first`. -/
def PagesSound (setting : ListSetting Time) (first : Nat) (s : ListState ι Time) : Prop :=
  ∀ request version jsonStr, s.pages (listKey request version) = some jsonStr →
    version ≤ s.listVersion ∧
      (version ≤ first ∨
        ∃ request' source page, SameKey (storedRequest request' page) request ∧
          jsonStr = setting.entryOf request' version page ∧
          s.Kept setting request' version source page)

structure Rising (first : Nat) (s : ListState ι Time) : Prop where
  mono : ∀ m n, m ≤ n → n ≤ s.listVersion → s.reached m ≤ s.reached n
  last : s.reached s.listVersion ≤ s.tables.last
  first : first ≤ s.listVersion

/-- The strings of all rows are UTF-8. -/
def Texts (tables : History (List (Question Time))) : Prop :=
  ∀ version table, tables.Was version table → ∀ q ∈ table, q.textual = true

structure Sound (setting : ListSetting Time) (first : Nat) (s : ListState ι Time) : Prop where
  calls : ∀ i, s.CallSound setting first (s.calls i)
  pages : s.PagesSound setting first
  rising : s.Rising first
  texts : Texts s.tables

/-- A reader has nothing from before the version `v` of the table. -/
def Fresh (setting : ListSetting Time) (first : Nat) (s : ListState ι Time) (v : Nat) :
    ListCall Time → Prop
  | .creating _ => False
  | .checking _ version | .getting _ version | .missed _ version =>
    first < version ∧ version ≤ s.listVersion ∧ v ≤ s.reached version
  | .loaded _ _ source _ => v ≤ source
  | .answered input answer => PageCurrent setting s.tables v input answer
  | _ => True

structure Evolves (s t : ListState ι Time) : Prop where
  tables : s.tables.Later t.tables
  version : s.listVersion ≤ t.listVersion
  reached : ∀ n, n ≤ s.listVersion → t.reached n = s.reached n

variable {setting : ListSetting Time} {first : Nat} {s t : ListState ι Time}

theorem textual_tableAfter {table : List (Question Time)}
    (textual : ∀ q ∈ table, q.textual = true) (id : Bytes) (write : Write Time)
    {row : Option (Question Time)} (read : ∀ q ∈ row, q.textual = true) (now : Time) :
    ∀ q ∈ setting.tableAfter table id write row now, q.textual = true := by
  have written : ∀ q ∈ write.row row now, q.textual = true := Write.textual_row read
  unfold ListSetting.tableAfter
  cases stored : write.row row now with
  | none => exact fun q mem => textual q (List.mem_of_mem_filter mem)
  | some new =>
    have inTable : (new.inTable setting.times).textual = true := written new stored
    dsimp only
    split
    · intro q mem
      obtain ⟨old, oldMem, rfl⟩ := List.mem_map.mp mem
      split
      · exact inTable
      · exact textual old oldMem
    · intro q mem
      rcases List.mem_append.mp mem with old | isNew
      · exact textual q old
      · rw [List.mem_singleton.mp isNew]
        exact inTable

namespace Evolves

theorem refl (s : ListState ι Time) : s.Evolves s := ⟨.refl _, Nat.le_refl _, fun _ _ => rfl⟩

theorem kept (evolves : s.Evolves t) {request : ListRequest} {version source : Nat}
    {page : Page Time} (bound : version ≤ s.listVersion)
    (kept : s.Kept setting request version source page) :
    t.Kept setting request version source page := by
  obtain ⟨order, table, was, computed⟩ := kept
  rw [← evolves.reached version bound] at order
  exact ⟨order, table, evolves.tables was, computed⟩

variable {v : Nat}

section

variable (evolves : s.Evolves t)
include evolves

theorem bumped (bumped : s.Bumped first v) : t.Bumped first v := by
  obtain ⟨m, later, bound, order⟩ := bumped
  rw [← evolves.reached m bound] at order
  exact ⟨m, later, Nat.le_trans bound evolves.version, order⟩

variable {call : ListCall Time}

theorem callSound (sound : s.CallSound setting first call) : t.CallSound setting first call := by
  cases call with
  | checking input version | getting input version | missed input version =>
    exact Nat.le_trans sound evolves.version
  | loaded input version =>
    obtain ⟨shownOnly, bound, kept⟩ := sound
    exact ⟨shownOnly, Nat.le_trans bound evolves.version, evolves.kept bound kept⟩
  | found => exact sound
  | committed => exact Nat.le_trans sound evolves.tables.last_le
  | bumped => exact evolves.bumped sound
  | _ => trivial

theorem fresh_of_version {version : Nat}
    (fresh : first < version ∧ version ≤ s.listVersion ∧ v ≤ s.reached version) :
    first < version ∧ version ≤ t.listVersion ∧ v ≤ t.reached version := by
  obtain ⟨later, bound, order⟩ := fresh
  rw [← evolves.reached version bound] at order
  exact ⟨later, Nat.le_trans bound evolves.version, order⟩

theorem fresh (fresh : s.Fresh setting first v call) : t.Fresh setting first v call := by
  cases call with
  | creating | loaded => exact fresh
  | checking | getting | missed => exact evolves.fresh_of_version fresh
  | answered => exact PageCurrent.later fresh evolves.tables
  | _ => trivial

theorem pagesSound (sound : s.PagesSound setting first) (pages : t.pages = s.pages) :
    t.PagesSound setting first := by
  intro request version jsonStr present
  rw [pages] at present
  obtain ⟨bound, old | ⟨request', source, page, same, written, kept⟩⟩ :=
    sound request version jsonStr present
  · exact ⟨Nat.le_trans bound evolves.version, .inl old⟩
  · exact ⟨Nat.le_trans bound evolves.version,
      .inr ⟨request', source, page, same, written, evolves.kept bound kept⟩⟩

end

end Evolves

variable {v : Nat} {input : ListInput} {action : ListAction ι Time}

theorem Bumped.le_last (rising : s.Rising first) (bumped : s.Bumped first v) :
    v ≤ s.tables.last := by
  obtain ⟨m, -, bound, order⟩ := bumped
  calc
    v ≤ s.reached m := order
    _ ≤ s.reached s.listVersion := rising.mono m _ bound (Nat.le_refl _)
    _ ≤ s.tables.last := rising.last

/-! ## A new version -/

theorem reached_reach (s : ListState ι Time) (version : Nat) :
    (s.reach version).reached version = s.tables.last :=
  update_self ..

theorem evolves_reach (s : ListState ι Time) : s.Evolves (s.reach (s.listVersion + 1)) where
  tables := .refl s.tables
  version := Nat.le_succ _
  reached := fun n bound => update_of_ne (by omega) ..

theorem rising_reach (rising : s.Rising first) : (s.reach (s.listVersion + 1)).Rising first where
  mono := by
    intro m n order bound
    change n ≤ s.listVersion + 1 at bound
    have known (k : Nat) (le : k ≤ s.listVersion) :
        (s.reach (s.listVersion + 1)).reached k = s.reached k := s.evolves_reach.reached k le
    -- The new version is reached at the last table, and the others were reached before.
    rcases Nat.lt_or_ge s.listVersion n with isNew | old
    · obtain rfl : n = s.listVersion + 1 := by omega
      rcases Nat.lt_or_ge s.listVersion m with isNew | old
      · obtain rfl : m = s.listVersion + 1 := by omega
        exact Nat.le_refl _
      · rw [reached_reach, known m old]
        exact Nat.le_trans (rising.mono m _ old (Nat.le_refl _)) rising.last
    · rw [known n old, known m (Nat.le_trans order old)]
      exact rising.mono m n order old
  last := Nat.le_of_eq (s.reached_reach _)
  first := Nat.le_succ_of_le rising.first

/-! ## The pages -/

theorem current_of_pageOf (faithful : setting.json.Faithful) (sound : s.PagesSound setting first)
    (texts : Texts s.tables) {version : Nat} (later : first < version)
    (order : v ≤ s.reached version) :
    PageCurrent setting s.tables v input
      (pageOf setting (s.pages (listKey input.request version))) := by
  unfold pageOf
  split
  · rename_i listed read
    obtain ⟨root, entry, parsed⟩ := Option.bind_eq_some_iff.mp read
    obtain ⟨jsonStr, present, decoded⟩ := Option.bind_eq_some_iff.mp entry
    obtain ⟨-, early | ⟨request, source, page, same, rfl, reached, table, was, computed⟩⟩ :=
      sound input.request version jsonStr present
    · exact absurd early (Nat.not_le_of_gt later)
    · have back := listedPage_write faithful computed
        (fun q mem => texts source table was q (mem_of_loadPage computed q mem))
        (storedRequest request page) version
      rw [ListSetting.entryOf] at decoded
      rw [decoded, Option.bind_some, parsed] at back
      exact ⟨table, request, page, was.since (Nat.le_trans order reached), computed,
        Option.some.inj back, same⟩
  · trivial

theorem pagesSound_setPage (sound : s.PagesSound setting first) {version source : Nat}
    {page : Page Time} (bound : version ≤ s.listVersion)
    (kept : s.Kept setting input.request version source page) :
    (s.setPage setting input version page).PagesSound setting first := by
  intro request version' jsonStr present
  by_cases same : listKey request version' = listKey (storedRequest input.request page) version
  · obtain ⟨sameKey, rfl⟩ := listKey_injective same
    rw [setPage, same] at present
    dsimp only at present
    rw [update_self] at present
    cases present
    refine ⟨bound, .inr ⟨input.request, source, page, ?_, rfl, kept⟩⟩
    exact ⟨sameKey.1.symm, sameKey.2.1.symm, sameKey.2.2.symm⟩
  · rw [setPage] at present
    dsimp only at present
    rw [update_of_ne same] at present
    exact sound request version' jsonStr present

/-! ## The steps -/

variable [DecidableEq ι]

/-- What a step of the call `i` does, which takes it from `old` to `new`. -/
structure Move (setting : ListSetting Time) (first : Nat) (s t : ListState ι Time) (i : ι)
    (old new : ListCall Time) : Prop extends s.Evolves t where
  calls : t.calls = update s.calls i new
  pages : t.PagesSound setting first
  rising : t.Rising first
  sound : t.CallSound setting first new
  fresh : ∀ ⦃v⦄, s.Bumped first v → s.Fresh setting first v old → t.Fresh setting first v new
  texts : Texts t.tables

variable {i : ι} {old new : ListCall Time} {tables : History (List (Question Time))}

theorem Move.ofCall (sound : s.Sound setting first) (later : s.tables.Later tables)
    (texts : Texts tables)
    (callSound : CallSound setting first
      { s with tables, calls := update s.calls i new } new)
    (fresh : ∀ ⦃v⦄, s.Bumped first v → s.Fresh setting first v old →
      Fresh setting first { s with tables, calls := update s.calls i new } v new) :
    Move setting first s { s with tables, calls := update s.calls i new } i old new := by
  have evolves : s.Evolves { s with tables, calls := update s.calls i new } :=
    ⟨later, Nat.le_refl _, fun _ _ => rfl⟩
  exact {
    evolves with
    calls := rfl
    pages := evolves.pagesSound sound.pages rfl
    rising := ⟨sound.rising.mono, Nat.le_trans sound.rising.last later.last_le, sound.rising.first⟩
    sound := callSound
    fresh
    texts }

theorem Move.ofBare (sound : s.Sound setting first) (later : s.tables.Later tables)
    (texts : Texts tables) (callSound : ∀ u : ListState ι Time, u.CallSound setting first new)
    (fresh : ∀ (u : ListState ι Time) v, u.Fresh setting first v new) :
    Move setting first s { s with tables, calls := update s.calls i new } i old new :=
  .ofCall sound later texts (callSound _) fun v _ _ => fresh _ v

theorem move_enter {u : ListState ι Time} (evolves : s.Evolves u)
    (pages : u.PagesSound setting first) (rising : u.Rising first) (texts : Texts u.tables)
    (calls : u.calls = s.calls) {version : Nat} (bound : version ≤ u.listVersion)
    (fresh : ∀ ⦃v⦄, s.Bumped first v → s.Fresh setting first v old →
      first < version ∧ v ≤ u.reached version) :
    Move setting first s (u.setCall i (enter input version)) i old (enter input version) where
  toEvolves := ⟨evolves.tables, evolves.version, evolves.reached⟩
  calls := by rw [← calls]; rfl
  pages := pages
  rising := ⟨rising.mono, rising.last, rising.first⟩
  texts := texts
  sound := by
    unfold enter
    split
    · trivial
    split
    · exact bound
    · exact bound
  fresh := by
    intro v bumped before
    obtain ⟨later, order⟩ := fresh bumped before
    unfold enter
    split
    · trivial
    split
    · exact ⟨later, bound, order⟩
    · exact ⟨later, bound, order⟩

section

variable (sound : s.Sound setting first)
include sound

theorem move_asking :
    ∃ new, Move setting first s
      (s.setCall i
        (match s.version with
        | some version => enter input version
        | none => .creating input)) i old new := by
  cases found : s.version with
  | none =>
    refine ⟨_, .ofCall sound (.refl s.tables) sound.texts trivial fun v bumped _ => ?_⟩
    -- Where there is no version, none was incremented.
    obtain ⟨m, later, bound, -⟩ := bumped
    rw [listVersion, found] at bound
    exact absurd bound (Nat.not_le_of_gt (Nat.zero_lt_of_lt later))
  | some version =>
    have isVersion : s.listVersion = version := by rw [listVersion, found, Option.getD_some]
    refine ⟨_, move_enter (.refl s) sound.pages sound.rising sound.texts rfl
      (Nat.le_of_eq isVersion.symm) ?_⟩
    rintro v ⟨m, later, bound, order⟩ -
    rw [isVersion] at bound
    have grown := sound.rising.mono m version bound (Nat.le_of_eq isVersion.symm)
    exact ⟨Nat.lt_of_lt_of_le later bound, Nat.le_trans order grown⟩

theorem move_creating (ok : s.version.all (· = 1) = true) :
    ∃ new, Move setting first s (s.setVersion.setCall i (enter input 1)) i (.creating input)
      new := by
  cases found : s.version with
  | none =>
    -- `SET` to 1 is then an increment from 0.
    have absent : s.listVersion = 0 := by rw [listVersion, found, Option.getD_none]
    have evolves := s.evolves_reach
    have rising := rising_reach sound.rising
    have set : s.setVersion = s.reach (s.listVersion + 1) := by
      rw [setVersion, found, absent]
    rw [set]
    refine ⟨_, move_enter evolves (evolves.pagesSound sound.pages rfl) rising sound.texts rfl ?_ ?_⟩
    · exact Nat.succ_le_succ (Nat.zero_le _)
    · exact fun _ _ never => never.elim
  | some version =>
    have isOne : version = 1 := by simpa [found] using ok
    subst isOne
    have set : s.setVersion = s := by
      simp only [setVersion, found]
      rw [← found]
    rw [set]
    refine ⟨_, move_enter (.refl s) sound.pages sound.rising sound.texts rfl ?_ ?_⟩
    · exact Nat.le_of_eq (by rw [listVersion, found, Option.getD_some])
    · exact fun _ _ never => never.elim

theorem move_load {version : Nat} (bound : version ≤ s.listVersion) :
    Move setting first s (s.setCall i (s.load setting input version)) i old
      (s.load setting input version) := by
  have reached : s.reached version ≤ s.tables.last :=
    Nat.le_trans (sound.rising.mono version _ bound (Nat.le_refl _)) sound.rising.last
  unfold load
  cases computed : loadPage setting.sql s.tables.current input.request input.includeHidden with
  | none => exact .ofBare sound (.refl s.tables) sound.texts (fun _ => trivial) fun _ _ => trivial
  | some page =>
    dsimp only
    -- A page with hidden questions is answered and not kept.
    split
    · refine .ofCall sound (.refl s.tables) sound.texts trivial fun v bumped _ => ?_
      exact ⟨_, s.tables.was_current.since (bumped.le_last sound.rising), computed⟩
    rename_i hiddenToo
    have shownOnly := eq_false_of_ne_true hiddenToo
    rw [shownOnly] at computed
    refine .ofCall sound (.refl s.tables) sound.texts
      ⟨shownOnly, bound, reached, _, s.tables.was_current, computed⟩ ?_
    exact fun v bumped _ => bumped.le_last sound.rising

theorem move_commit (id : Bytes) (write : Write Time) {row : Option (Question Time)}
    (read : ∀ q ∈ row, q.textual = true) (outcome : Outcome) (now : Time) :
    ∃ new, Move setting first s (s.commit setting i id write row outcome now) i old new := by
  have refused : Move setting first s (s.setCall i .refused) i old .refused :=
    .ofBare sound (.refl s.tables) sound.texts (fun _ => trivial) fun _ _ => trivial
  unfold commit
  split
  · cases outcome with
    | done =>
      exact ⟨_, .ofCall sound (.refl s.tables) sound.texts (Nat.le_refl s.tables.last)
        fun _ _ _ => trivial⟩
    | lost | failed => exact ⟨_, refused⟩
  · split
    · exact ⟨_, refused⟩
    · have later :=
        s.tables.later_commit (setting.tableAfter s.tables.current id write row now)
      have texts :
          Texts (s.tables.commit (setting.tableAfter s.tables.current id write row now)) := by
        intro version table was
        rcases History.was_or_eq_of_commit _ was with old | rfl
        · exact sound.texts version table old
        · exact textual_tableAfter (sound.texts _ _ s.tables.was_current) id write read now
      cases outcome with
      | done => exact ⟨_, .ofCall sound later texts (Nat.le_refl _) fun _ _ _ => trivial⟩
      | lost => exact ⟨_, .ofBare sound later texts (fun _ => trivial) fun _ _ => trivial⟩
      | failed => exact ⟨_, refused⟩

theorem move_bump {source : Nat} (bound : source ≤ s.tables.last) :
    Move setting first s (s.incrVersion.setCall i (.bumped source)) i old (.bumped source) := by
  have evolves := s.evolves_reach
  have rising := rising_reach sound.rising
  refine ⟨⟨evolves.tables, evolves.version, evolves.reached⟩, rfl,
    evolves.pagesSound sound.pages rfl, ⟨rising.mono, rising.last, rising.first⟩, ?_,
    fun _ _ _ => trivial, sound.texts⟩
  refine ⟨s.listVersion + 1, Nat.lt_succ_of_le sound.rising.first, Nat.le_refl _, ?_⟩
  exact Nat.le_trans bound (Nat.le_of_eq (s.reached_reach (s.listVersion + 1)).symm)

end

theorem move_advance (faithful : setting.json.Faithful) (sound : s.Sound setting first)
    {outcome : Outcome} {now : Time} (ok : neverReset s (.advance i outcome now) = true)
    (step : s.advance setting i outcome now = some t) :
    ∃ new, Move setting first s t i (s.calls i) new := by
  have held := sound.calls i
  unfold advance at step
  generalize place : s.calls i = call at held step ⊢
  cases call with cases step
  | asking => exact move_asking sound
  | creating =>
    simp only [neverReset, place] at ok
    exact move_creating sound ok
  | checking =>
    split
    · exact ⟨_, .ofCall sound (.refl s.tables) sound.texts held fun _ _ fresh => fresh⟩
    · exact ⟨_, .ofCall sound (.refl s.tables) sound.texts held fun _ _ fresh => fresh⟩
  | getting =>
    refine ⟨_, .ofCall sound (.refl s.tables) sound.texts trivial fun v _ fresh => ?_⟩
    exact current_of_pageOf faithful sound.pages sound.texts fresh.1 fresh.2.2
  | missed =>
    cases outcome with
    | done => exact ⟨_, move_load sound held⟩
    | lost | failed =>
      exact ⟨_, .ofBare sound (.refl s.tables) sound.texts (fun _ => trivial) fun _ _ => trivial⟩
  | loaded =>
    obtain ⟨shownOnly, bound, kept⟩ := held
    refine ⟨_, ⟨.refl s.tables, Nat.le_refl _, fun _ _ => rfl⟩, rfl,
      pagesSound_setPage sound.pages bound kept,
      ⟨sound.rising.mono, sound.rising.last, sound.rising.first⟩, trivial, fun v _ order => ?_,
      sound.texts⟩
    obtain ⟨-, table, was, computed⟩ := kept
    refine ⟨table, was.since order, ?_⟩
    rw [shownOnly]
    exact computed
  | writing id write =>
    cases outcome with
    | done =>
      have read : ∀ q ∈ setting.find s.tables.current id, q.textual = true := fun q mem =>
        sound.texts _ _ s.tables.was_current q (List.mem_of_find?_eq_some mem)
      exact ⟨_, .ofBare sound (.refl s.tables) sound.texts (fun _ => read) fun _ _ => trivial⟩
    | lost | failed =>
      exact ⟨_, .ofBare sound (.refl s.tables) sound.texts (fun _ => trivial) fun _ _ => trivial⟩
  | found id write row => exact move_commit sound id write held outcome now
  | committed => exact ⟨_, move_bump sound held⟩

theorem move_or_vanish (faithful : setting.json.Faithful) (sound : s.Sound setting first)
    (ok : neverReset s action = true) (step : s.step setting action = some t) :
    (∃ i new, Move setting first s t i (s.calls i) new) ∨
      ∃ key, t = { s with pages := update s.pages key none } := by
  have starts {i : ι} {call : ListCall Time} (begun : s.start i call = some t)
      (callSound : ∀ u : ListState ι Time, u.CallSound setting first call)
      (fresh : ∀ (u : ListState ι Time) v, u.Fresh setting first v call) :
      ∃ new, Move setting first s t i (s.calls i) new := by
    unfold start at begun
    split at begun
    · cases begun
      exact ⟨_, .ofBare sound (.refl s.tables) sound.texts callSound fresh⟩
    · cases begun
  have writes (id : Bytes) (write : Write Time) (u : ListState ι Time) (v : Nat) :
      u.CallSound setting first (startsWrite id write) ∧
        u.Fresh setting first v (startsWrite id write) := by
    unfold startsWrite
    split <;> exact ⟨trivial, trivial⟩
  cases action with
  | read i => exact .inl ⟨i, starts step (fun _ => trivial) fun _ _ => trivial⟩
  | save i | delete i =>
    exact .inl ⟨i, starts step (fun u => (writes _ _ u 0).1) fun u v => (writes _ _ u v).2⟩
  | advance i => exact .inl ⟨i, move_advance faithful sound ok step⟩
  | vanish key =>
    cases step
    exact .inr ⟨key, rfl⟩

/-! ## All runs -/

omit [DecidableEq ι] in
theorem pagesSound_vanish (sound : s.PagesSound setting first) (key : Bytes) :
    PagesSound setting first { s with pages := update s.pages key none } := by
  intro request version jsonStr present
  change update s.pages key none (listKey request version) = some jsonStr at present
  by_cases same : listKey request version = key
  · subst same
    rw [update_self] at present
    cases present
  · rw [update_of_ne same] at present
    exact sound request version jsonStr present

section

variable (faithful : setting.json.Faithful) (sound : s.Sound setting first)
    (ok : neverReset s action = true) (step : s.step setting action = some t)
include faithful sound ok step

theorem evolves_step : s.Evolves t := by
  rcases move_or_vanish faithful sound ok step with ⟨i, new, move⟩ | ⟨key, rfl⟩
  · exact move.toEvolves
  · exact ⟨.refl s.tables, Nat.le_refl _, fun _ _ => rfl⟩

theorem sound_step : t.Sound setting first := by
  rcases move_or_vanish faithful sound ok step with ⟨i, new, move⟩ | ⟨key, rfl⟩
  · refine ⟨?_, move.pages, move.rising, move.texts⟩
    rw [move.calls]
    refine (Function.forall_update_iff s.calls fun _ => t.CallSound setting first).mpr
      ⟨move.sound, ?_⟩
    exact fun j _ => move.toEvolves.callSound (sound.calls j)
  · exact ⟨sound.calls, pagesSound_vanish sound.pages key,
      ⟨sound.rising.mono, sound.rising.last, sound.rising.first⟩, sound.texts⟩

theorem fresh_step (bumped : s.Bumped first v) {j : ι}
    (fresh : s.Fresh setting first v (s.calls j)) : t.Fresh setting first v (t.calls j) := by
  rcases move_or_vanish faithful sound ok step with ⟨i, new, move⟩ | ⟨key, rfl⟩
  · rw [move.calls]
    by_cases same : j = i
    · subst same
      rw [update_self]
      exact move.fresh bumped fresh
    · rw [update_of_ne same]
      exact move.toEvolves.fresh fresh
  · exact Evolves.fresh ⟨.refl s.tables, Nat.le_refl _, fun _ _ => rfl⟩ fresh

end

variable {table : List (Question Time)} {version : Option Nat} {pages : Bytes → Option Bytes}

theorem sound_initial (textual : ∀ q ∈ table, q.textual = true)
    (early : ∀ request n, (pages (listKey request n)).isSome = true → n ≤ version.getD 0) :
    (listSystem ι setting table version pages).initial.Sound setting (version.getD 0) where
  calls := fun _ => trivial
  pages := by
    intro request n jsonStr present
    have bound := early request n (Option.isSome_of_eq_some present)
    exact ⟨bound, .inl bound⟩
  rising := ⟨fun _ _ _ _ => Nat.le_refl _, Nat.le_refl _, Nat.le_refl _⟩
  texts := by
    rintro version _ ⟨-, rfl⟩
    exact textual

theorem sound_of_reachable (faithful : setting.json.Faithful)
    (textual : ∀ q ∈ table, q.textual = true)
    (early : ∀ request n, (pages (listKey request n)).isSome = true → n ≤ version.getD 0)
    (reachable : (listSystem ι setting table version pages).ReachableUnder
      (fun s action => neverReset s action = true) s) : s.Sound setting (version.getD 0) := by
  refine TransitionSystem.ReachesUnder.induct reachable (sound_initial textual early) ?_
  intro t u action _ ok step sound
  exact sound_step faithful sound ok step

theorem fresh_of_reaches (faithful : setting.json.Faithful) (sound : s.Sound setting first)
    (bumped : s.Bumped first v) {j : ι} (starts : s.calls j = .idle)
    (after : (listSystem ι setting table version pages).ReachesUnder
      (fun s action => neverReset s action = true) s t) : t.Fresh setting first v (t.calls j) := by
  let Kept (u : ListState ι Time) : Prop :=
    u.Sound setting first ∧ u.Bumped first v ∧ u.Fresh setting first v (u.calls j)
  have kept : Kept t := by
    refine TransitionSystem.ReachesUnder.induct (P := Kept) after ?_ ?_
    · dsimp only [Kept]
      rw [starts]
      exact ⟨sound, bumped, trivial⟩
    · rintro t u action - ok step ⟨sound, bumped, fresh⟩
      exact ⟨sound_step faithful sound ok step, (evolves_step faithful sound ok step).bumped bumped,
        fresh_step faithful sound ok step bumped fresh⟩
  exact kept.2.2

end ListState

/-- **Pages after an increment.** A reader that starts after it does not return a page from before
the commit, if `GetListVersion` sets the version only while there is none or while it is 1. -/
theorem pages_after_bump [DecidableEq ι] (setting : ListSetting Time)
    (faithful : setting.json.Faithful) {table : List (Question Time)} {version : Option Nat}
    {pages : Bytes → Option Bytes} (textual : ∀ q ∈ table, q.textual = true)
    (early : ∀ request n, (pages (listKey request n)).isSome = true → n ≤ version.getD 0)
    {s t : ListState ι Time} {i j : ι} {source : Nat} {input : ListInput}
    {answer : ListAnswer Time}
    (before : (listSystem ι setting table version pages).ReachableUnder
      (fun s action => neverReset s action = true) s)
    (bumped : s.calls i = .bumped source) (starts : s.calls j = .idle)
    (after : (listSystem ι setting table version pages).ReachesUnder
      (fun s action => neverReset s action = true) s t)
    (answered : t.calls j = .answered input answer) :
    PageCurrent setting t.tables source input answer := by
  have sound := ListState.sound_of_reachable faithful textual early before
  have held := sound.calls i
  rw [bumped] at held
  have current := ListState.fresh_of_reaches faithful sound held starts after
  rw [answered] at current
  exact current

/-! ## A version that is set back -/

/-- Comparisons byte by byte; `LIKE` is not used. -/
def sampleSql : Sql Unit := ⟨fun a b => a = b, fun _ _ => false, id, List.Perm.refl⟩

def listSetting : ListSetting Unit := ⟨sampleSql, ⟨id, fun _ => 0, fun _ => ()⟩, countedJson⟩

def listedQuestion : Question Unit where
  id := text "1"
  title := text "A+B"
  desc := []
  star := text "easy"
  createTime := ()
  updateTime := ()
  cpuLimit := 1
  memoryLimit := 64

theorem textual_listedQuestion : listedQuestion.textual = true := by decide +kernel

abbrev emptyList : TransitionSystem (ListState (Fin 4) Unit) (ListAction (Fin 4) Unit) :=
  listSystem (Fin 4) listSetting [] none fun _ => none

def listAdvances (i : Fin 4) (n : Nat) : List (ListAction (Fin 4) Unit) :=
  List.replicate n (.advance i .done ())

theorem pages_after_bump_saved :
    ∃ s t : ListState (Fin 4) Unit, s.calls 1 = .bumped 1 ∧ s.calls 2 = .idle ∧
      t.calls 2 = .answered {} (.loaded ⟨1, 1, [listedQuestion]⟩) ∧
      PageCurrent listSetting t.tables 1 {} (.loaded ⟨1, 1, [listedQuestion]⟩) := by
  obtain ⟨s, t, before, first, after, second⟩ :=
    emptyList.exists_of_runsUnder neverReset
      ([.read 0 {}] ++ listAdvances 0 5 ++ [.save 1 listedQuestion textual_listedQuestion] ++
        listAdvances 1 3)
      ([.read 2 {}] ++ listAdvances 2 4)
      (fun s => s.calls 1 = .bumped 1 ∧ s.calls 2 = .idle)
      (fun t => t.calls 2 = .answered {} (.loaded ⟨1, 1, [listedQuestion]⟩)) (by decide +kernel)
  obtain ⟨bumped, starts⟩ := of_decide_eq_true first
  have answered := of_decide_eq_true second
  exact ⟨s, t, bumped, starts, answered,
    pages_after_bump listSetting countedJson_faithful (by simp) (fun _ _ never => by cases never)
      before bumped starts after answered⟩

/-- The reader 0 sets the version to 1 and keeps the empty page; a question is saved and the version
incremented; the reader 3 sets it to 1 again. -/
theorem old_page_after_bump :
    ∃ s t : ListState (Fin 4) Unit, emptyList.Reachable s ∧ s.calls 1 = .bumped 1 ∧
      s.calls 2 = .idle ∧ emptyList.Reaches s t ∧
      t.calls 2 = .answered {} (.cached ⟨0, 0, []⟩) ∧
      ¬ PageCurrent listSetting t.tables 1 {} (.cached ⟨0, 0, []⟩) := by
  obtain ⟨s, t, before, first, after, second⟩ :=
    emptyList.exists_of_runsUnder (fun _ _ => true)
      ([.read 3 {}] ++ listAdvances 3 1 ++ [.read 0 {}] ++ listAdvances 0 5 ++
        [.save 1 listedQuestion textual_listedQuestion] ++ listAdvances 1 3)
      (listAdvances 3 1 ++ [.read 2 {}] ++ listAdvances 2 3)
      (fun s => s.calls 1 = .bumped 1 ∧ s.calls 2 = .idle)
      (fun t => t.calls 2 = .answered {} (.cached ⟨0, 0, []⟩) ∧ t.tables.last = 1 ∧
        t.tables.current = [listedQuestion]) (by decide +kernel)
  obtain ⟨bumped, starts⟩ := of_decide_eq_true first
  obtain ⟨answered, last, current⟩ := of_decide_eq_true second
  refine ⟨s, t, before.reaches, bumped, starts, after.reaches, answered, ?_⟩
  rintro ⟨table, request, page, since, computed, listed, same⟩
  -- The only table since the commit is the one with the question, whose page would count it.
  rw [← last] at since
  have saved := since.eq_current
  rw [current] at saved
  subst saved
  have query : request.query = {} := by
    have texts := same.1
    rw [storedRequest_query] at texts
    exact QuestionQuery.eq_empty_of_toText texts
  have shown : buildQuestionQuery listSetting.sql request.query true listedQuestion = true := by
    rw [query]
    decide +kernel
  have counted := totalCount_of_loadPage computed
  rw [Bool.not_false, List.filter_cons_of_pos shown] at counted
  have none : page.totalCount = 0 := (congrArg ListedPage.totalCount listed).symm
  rw [none] at counted
  cases counted

end OnlineJudge.Questions
