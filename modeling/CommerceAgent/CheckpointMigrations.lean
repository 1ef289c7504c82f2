import CommerceAgent.Chains
import CommerceAgent.Histories
import CommerceAgent.Json

/-! Migrations of a persisted checkpoint from version to version: the registered steps of a version, in order, and
nothing else. -/
namespace CommerceAgent.Checkpoints

open Chains Histories Json

section Migrator

inductive CheckpointError where
  | migration (message : String)
  | raised (message : String)
  deriving DecidableEq

/-- A registered function: it may raise, and may return anything. -/
abbrev Migration : Type := Dict → Except CheckpointError Value

structure CheckpointStateMigrator where
  currentVersion : String
  migrations : List (String × String × Migration)
  unique : (migrations.map Prod.fst).Nodup

namespace CheckpointStateMigrator

def new (currentVersion : String) : CheckpointStateMigrator := ⟨currentVersion, [], List.nodup_nil⟩

variable (m : CheckpointStateMigrator)

def versions : List String := m.migrations.map Prod.fst

/-- `self._migrations[version]`. -/
def step (version : String) : Option (String × Migration) :=
  (m.migrations.find? fun entry => entry.1 = version).map Prod.snd

theorem unique_append {fromVersion : String} (hnew : fromVersion ∉ m.versions) (x : String × Migration) :
    ((m.migrations ++ [(fromVersion, x)]).map Prod.fst).Nodup := by
  rw [List.map_append]
  refine List.nodup_append.mpr ⟨m.unique, List.pairwise_singleton _ _, ?_⟩
  intro version hversion other hother heq
  have hsame : version = fromVersion := heq.trans (List.mem_singleton.mp hother)
  exact hnew (hsame ▸ hversion)

def register (fromVersion toVersion : String) (migration : Migration) :
    Except CheckpointError CheckpointStateMigrator :=
  if h : fromVersion = toVersion ∨ fromVersion ∈ m.versions then
    .error (.migration "checkpoint migration is not uniquely forward")
  else
    .ok ⟨m.currentVersion, m.migrations ++ [(fromVersion, toVersion, migration)],
      m.unique_append (fun hmem => h (Or.inr hmem)) (toVersion, migration)⟩

/-- The registered versions that the loop has not been at. -/
def unseen (seen : List String) : List String := m.versions.filter fun version => version ∉ seen

theorem mem_versions_of_step {version : String} {x : String × Migration} (h : m.step version = some x) :
    version ∈ m.versions := by
  obtain ⟨entry, hentry, _⟩ := Option.map_eq_some_iff.mp h
  have hfrom : entry.1 = version := by simpa using List.find?_some hentry
  exact List.mem_map.mpr ⟨entry, List.mem_of_find?_eq_some hentry, hfrom⟩

theorem unseen_lt {version : String} {seen : List String} (hversion : version ∈ m.versions) (hnew : version ∉ seen) :
    (m.unseen (version :: seen)).length < (m.unseen seen).length := by
  have hsub : m.unseen (version :: seen) = (m.unseen seen).filter (fun v => v ≠ version) := by
    unfold unseen
    rw [List.filter_filter]
    apply List.filter_congr
    intro v _
    simp [List.mem_cons, not_or]
  rw [hsub]
  apply List.length_filter_lt_length_iff_exists.mpr
  exact ⟨version, List.mem_filter.mpr ⟨hversion, by simpa using hnew⟩, by simp⟩

/-- The loop of `migrate`. -/
def loop (version : String) (seen : List String) (result : Dict) : Except CheckpointError Dict :=
  if version = m.currentVersion then .ok result
  else if _ : version ∈ seen then .error (.migration "checkpoint migration path is unavailable")
  else
    match _ : m.step version with
    | none => .error (.migration "checkpoint migration path is unavailable")
    | some (nextVersion, migration) =>
      match migration result with
      | .error e => .error e
      | .ok (.obj result) => loop nextVersion (version :: seen) result
      | .ok _ => .error (.migration "checkpoint migration must return an object")
termination_by (m.unseen seen).length
decreasing_by exact m.unseen_lt (m.mem_versions_of_step ‹m.step version = _›) ‹version ∉ seen›

def migrate (version : String) (state : Dict) : Except CheckpointError Dict := m.loop version [] state

/-- A call of `register`, of which a refused one changes nothing. -/
def registered (call : String × String × Migration) : CheckpointStateMigrator :=
  match m.register call.1 call.2.1 call.2.2 with
  | .ok m' => m'
  | .error _ => m

end CheckpointStateMigrator

/-- One migration after the other, up to the first that fails. -/
def applyAll : List Migration → Dict → Except CheckpointError Dict
  | [], result => .ok result
  | migration :: rest, result =>
    match migration result with
    | .error e => .error e
    | .ok (.obj result) => applyAll rest result
    | .ok _ => .error (.migration "checkpoint migration must return an object")

end Migrator

section Migrations

variable {m : CheckpointStateMigrator} {version : String} {migrations : List Migration}

/-- The migrations that lead from a version to the current one. -/
abbrev Path (m : CheckpointStateMigrator) (version : String) (migrations : List Migration) : Prop :=
  Chain m.step m.currentVersion version migrations

/-- On a path no version comes twice, so the loop takes it to its end. -/
theorem loop_of_path (h : Path m version migrations) {seen : List String}
    (hseen : Nearer m.step m.currentVersion migrations seen) (state : Dict) :
    m.loop version seen state = applyAll migrations state := by
  induction h generalizing seen state with
  | here =>
    unfold CheckpointStateMigrator.loop
    rw [if_pos rfl]
    rfl
  | next hne hstep rest ih =>
    have hchain := Chain.next hne hstep rest
    unfold CheckpointStateMigrator.loop
    rw [if_neg hne, dif_neg (hseen.not_mem hchain)]
    split
    · rename_i hnone
      rw [hstep] at hnone
      cases hnone
    · rename_i nextVersion migration hsome
      rw [hstep] at hsome
      cases hsome
      rw [applyAll]
      split
      · rfl
      · exact ih (hseen.next hchain) _
      · rfl

/-- What the loop returns came by a path. -/
theorem path_of_loop {seen : List String} {state result : Dict} (h : m.loop version seen state = .ok result) :
    ∃ migrations, Path m version migrations := by
  fun_induction m.loop version seen state with
  | case1 => exact ⟨[], .here⟩
  | case2 => cases h
  | case3 => cases h
  | case4 => cases h
  | case5 version seen state hne hmem nextVersion migration hstep next hnext ih =>
    obtain ⟨migrations, hpath⟩ := ih h
    exact ⟨migration :: migrations, .next hne hstep hpath⟩
  | case6 => cases h

/-- The step of a version: the first call of `register` for it that is not refused. -/
def stepOf (calls : List (String × String × Migration)) (version : String) : Option (String × Migration) :=
  (calls.find? fun call => call.1 = version ∧ call.1 ≠ call.2.1).map Prod.snd

theorem step_of_mem_versions (h : version ∈ m.versions) : ∃ x, m.step version = some x := by
  obtain ⟨entry, hentry, hfrom⟩ := List.mem_map.mp h
  have hfound : (m.migrations.find? fun entry => entry.1 = version).isSome = true :=
    List.find?_isSome.mpr ⟨entry, hentry, by simpa using hfrom⟩
  obtain ⟨found, hfound⟩ := Option.isSome_iff_exists.mp hfound
  exact ⟨found.2, by rw [CheckpointStateMigrator.step, hfound, Option.map_some]⟩

theorem step_registered (m : CheckpointStateMigrator) (call : String × String × Migration) (version : String) :
    (m.registered call).step version = (m.step version).or (stepOf [call] version) := by
  have hsingle : stepOf [call] version = if call.1 = version ∧ call.1 ≠ call.2.1 then some call.2 else none := by
    unfold stepOf
    rw [List.find?_singleton]
    split
    · rename_i h
      rw [if_pos (of_decide_eq_true h), Option.map_some]
    · rename_i h
      rw [if_neg fun hfirst => h (decide_eq_true hfirst), Option.map_none]
  rw [hsingle]
  by_cases h : call.1 = call.2.1 ∨ call.1 ∈ m.versions
  · have hsame : m.registered call = m := by
      rw [CheckpointStateMigrator.registered, CheckpointStateMigrator.register, dif_pos h]
    rw [hsame]
    split
    · rename_i hfirst
      -- a version that has a step keeps it
      rcases h with heq | hmem
      · exact absurd heq hfirst.2
      · obtain ⟨x, hx⟩ := step_of_mem_versions (hfirst.1 ▸ hmem)
        rw [hx, Option.some_or]
    · rw [Option.or_none]
  · have hne : call.1 ≠ call.2.1 := fun heq => h (Or.inl heq)
    have hmore : (m.registered call).migrations = m.migrations ++ [call] := by
      rw [CheckpointStateMigrator.registered, CheckpointStateMigrator.register, dif_neg h]
    rw [CheckpointStateMigrator.step, CheckpointStateMigrator.step, hmore, List.find?_append, Option.map_or]
    by_cases hfrom : call.1 = version
    · simp [hfrom, hfrom ▸ hne]
    · simp [hfrom]

theorem currentVersion_registered (m : CheckpointStateMigrator) (call : String × String × Migration) :
    (m.registered call).currentVersion = m.currentVersion := by
  unfold CheckpointStateMigrator.registered CheckpointStateMigrator.register
  split
  · rename_i h
    split at h
    · cases h
    · cases h
      rfl
  · rfl

theorem run_registered (m : CheckpointStateMigrator) (calls : List (String × String × Migration)) :
    (run CheckpointStateMigrator.registered m calls).currentVersion = m.currentVersion ∧
    ∀ version, (run CheckpointStateMigrator.registered m calls).step version =
      (m.step version).or (stepOf calls version) := by
  induction calls generalizing m with
  | nil => exact ⟨rfl, fun version => (Option.or_none).symm⟩
  | cons call calls ih =>
    obtain ⟨hversion, hstep⟩ := ih (m.registered call)
    refine ⟨hversion.trans (currentVersion_registered m call), ?_⟩
    intro version
    have hcons : stepOf (call :: calls) version = (stepOf [call] version).or (stepOf calls version) := by
      rw [stepOf, stepOf, stepOf, ← List.singleton_append, List.find?_append, Option.map_or]
    calc (run CheckpointStateMigrator.registered (m.registered call) calls).step version
        = ((m.step version).or (stepOf [call] version)).or (stepOf calls version) := by
          rw [hstep version, step_registered]
      _ = (m.step version).or (stepOf (call :: calls) version) := by rw [hcons, Option.or_assoc]

/-- Over every calls of `register`, a path runs along the first accepted call of each version. -/
theorem path_iff (currentVersion : String) (calls : List (String × String × Migration)) :
    Path (run CheckpointStateMigrator.registered (.new currentVersion) calls) version migrations ↔
      Chain (stepOf calls) currentVersion version migrations := by
  obtain ⟨hversion, hstep⟩ := run_registered (.new currentVersion) calls
  have hsteps : (run CheckpointStateMigrator.registered (.new currentVersion) calls).step = stepOf calls := by
    funext version
    exact (hstep version).trans (Option.none_or)
  unfold Path
  rw [hversion, hsteps]
  exact Iff.rfl

theorem stepOf_append {calls later : List (String × String × Migration)} {x : String × Migration}
    (h : stepOf calls version = some x) : stepOf (calls ++ later) version = some x := by
  rw [stepOf, List.find?_append, Option.map_or]
  exact (congrArg (Option.or · _) h).trans (Option.some_or)

end Migrations

/-- Whatever was registered and in whatever order: a version from which the accepted migrations lead to the current one
is migrated by just these, each once and in their order, and no later registration changes that; any other version is
refused, also when its migrations go round in a circle. -/
theorem migrate_along_path (currentVersion : String) (calls later : List (String × String × Migration))
    (version : String) (state : Dict) :
    (∀ migrations, Chain (stepOf calls) currentVersion version migrations →
      (run CheckpointStateMigrator.registered (.new currentVersion) (calls ++ later)).migrate version state =
        applyAll migrations state) ∧
    ((∀ migrations, ¬ Chain (stepOf calls) currentVersion version migrations) →
      ∃ e, (run CheckpointStateMigrator.registered (.new currentVersion) calls).migrate version state = .error e) := by
  refine ⟨?_, ?_⟩
  · intro migrations hchain
    have hpath := (path_iff currentVersion (calls ++ later)).mpr (hchain.mono fun _ _ => stepOf_append)
    exact loop_of_path hpath (fun _ hmem => absurd hmem List.not_mem_nil) state
  · intro hnone
    cases hmigrate : (run CheckpointStateMigrator.registered (.new currentVersion) calls).migrate version state with
    | error e => exact ⟨e, rfl⟩
    | ok result =>
      obtain ⟨migrations, hpath⟩ := path_of_loop hmigrate
      exact absurd ((path_iff currentVersion calls).mp hpath) (hnone migrations)

def demoCalls : List (String × String × Migration) :=
  [("2", "3", fun state => .ok (.obj (state ++ [("v3", .bool true)]))),
    ("1", "2", fun state => .ok (.obj (state ++ [("v2", .bool true)]))), ("2", "1", fun _ => .ok .null)]

theorem migrate_along_path_twice :
    (run CheckpointStateMigrator.registered (.new "3") (demoCalls ++ [("3", "1", fun _ => .ok .null)])).migrate "1"
      [("v1", .bool true)] = .ok [("v1", .bool true), ("v2", .bool true), ("v3", .bool true)] :=
  (migrate_along_path "3" demoCalls [("3", "1", fun _ => .ok .null)] "1" [("v1", .bool true)]).1 _
    (.next (by decide) rfl (.next (by decide) rfl .here))

end CommerceAgent.Checkpoints
