import ZenPass.Migrate.Runners

set_option autoImplicit false

namespace ZenPass.Migrate

open Ddl

variable {migrator : Migrator}

def names (count : Nat) : List String := (migrations.take count).map (·.legacyVersion)

def versions (count : Nat) : List Nat := (migrations.take count).map (·.version)

theorem name_mem {j k : Nat} (inside : j < migrations.length) (few : k ≤ migrations.length) :
    migrations[j].legacyVersion ∈ names k ↔ j < k := by
  have each : ∀ (j : Fin 5) (k : Fin 6), (migrations.get j).legacyVersion ∈ names k ↔ j.val < k.val := by
    decide
  exact each ⟨j, inside⟩ ⟨k, Nat.lt_succ_of_le few⟩

theorem version_mem {j k : Nat} (inside : j < migrations.length) (few : k ≤ migrations.length) :
    migrations[j].version ∈ versions k ↔ j < k := by
  have each : ∀ (j : Fin 5) (k : Fin 6), (migrations.get j).version ∈ versions k ↔ j.val < k.val := by
    decide
  exact each ⟨j, inside⟩ ⟨k, Nat.lt_succ_of_le few⟩

theorem names_succ {k : Nat} (inside : k < migrations.length) :
    names (k + 1) = names k ++ [migrations[k].legacyVersion] := by
  rw [names, List.take_add_one, List.getElem?_eq_getElem inside, Option.toList_some, List.map_append]
  rfl

theorem versions_succ {k : Nat} (inside : k < migrations.length) :
    versions (k + 1) = versions k ++ [migrations[k].version] := by
  rw [versions, List.take_add_one, List.getElem?_eq_getElem inside, Option.toList_some,
    List.map_append]
  rfl

theorem versions_nodup (k : Nat) : (versions k).Nodup := by
  have all : (migrations.map (·.version)).Nodup := by decide
  exact all.sublist ((List.take_sublist k migrations).map _)

theorem replay_succ {k : Nat} (inside : k < migrations.length) :
    replay (migrations.take (k + 1)) =
      (replay (migrations.take k)).bind fun schema => schema.run migrations[k].sql := by
  rw [replay, List.take_add_one, List.getElem?_eq_getElem inside, Option.toList_some,
    List.foldlM_append]
  change (replay (migrations.take k)).bind _ = _
  congr 1
  funext schema
  rw [List.foldlM_cons]
  cases schema.run migrations[k].sql <;> rfl

theorem replay_take {k : Nat} (few : k ≤ migrations.length) :
    ∃ schema, replay (migrations.take k) = some schema := by
  have each : ∀ k : Fin 6, (replay (migrations.take k)).isSome = true := by decide +kernel
  exact Option.isSome_iff_exists.mp (each ⟨k, Nat.lt_succ_of_le few⟩)

theorem names_sorted {k : Nat} (few : k ≤ migrations.length) :
    (names k).insertionSort (· ≤ ·) = names k ∧
      (names k).isPrefixOf (migrations.map (·.legacyVersion)) = true ∧ (names k).length = k := by
  have each : ∀ k : Fin 6, (names k).insertionSort (· ≤ ·) = names k ∧
      (names k).isPrefixOf (migrations.map (·.legacyVersion)) = true ∧
      (names k).length = k := by decide +kernel
  exact each ⟨k, Nat.lt_succ_of_le few⟩

/-- The first `k` migrations have been run, and one of the histories, or both, knows all of them. -/
structure Consistent (db : Database) (k l s : Nat) : Prop where
  few : k ≤ migrations.length
  live : replay (migrations.take k) = some db.live
  executed : db.executed = versions k
  legacy : db.legacyVersions = names l
  sqlx : db.sqlxVersions = versions s
  legacyLe : l ≤ k
  sqlxLe : s ≤ k
  recorded : l = k ∨ s = k

theorem consistent_empty : Consistent {} 0 0 0 where
  few := Nat.zero_le _
  live := rfl
  executed := rfl
  legacy := rfl
  sqlx := rfl
  legacyLe := le_rfl
  sqlxLe := le_rfl
  recorded := .inl rfl

theorem Consistent.apply {db : Database} {k l s : Nat} (consistent : Consistent db k l s)
    (inside : k < migrations.length) :
    ∃ live, applyMigration db migrations[k] =
        some { db with live := live, executed := db.executed ++ [migrations[k].version] } ∧
      replay (migrations.take (k + 1)) = some live := by
  obtain ⟨live, made⟩ := replay_take (Nat.succ_le_of_lt inside)
  have grown := made
  rw [replay_succ inside, consistent.live, Option.bind_some] at grown
  exact ⟨live, by rw [applyMigration, grown, Option.map_some], made⟩

/-- What a runner has ahead of it, between two of its transactions. -/
def Underway (db : Database) : Phase → Prop
  | .createHistory => ∃ k l s, Consistent db k l s ∧ s ≤ l
  | .file remaining => ∃ k s j, Consistent db k k s ∧ j ≤ k ∧ remaining = migrations.drop j
  | .migrated => ∃ s, Consistent db migrations.length migrations.length s
  | .adopt => ∃ k l s, Consistent db k l s ∧ (db.sqlx.isSome = true → l ≤ s)
  | .runMigrator _ => ∃ k l, Consistent db k l k
  | .migrating _ _ states ok => ∃ k l, Consistent db k l k ∧ Migrates db states ok
  | .syncLegacyHistory _ _ => ∃ l, Consistent db migrations.length l migrations.length
  | .finished _ => Consistent db migrations.length migrations.length migrations.length
  | .failed _ => False

theorem Underway.consistent {db : Database} {phase : Phase} (underway : Underway db phase) :
    ∃ k l s, Consistent db k l s := by
  cases phase with
  | createHistory =>
      obtain ⟨k, l, s, consistent, -⟩ := underway
      exact ⟨k, l, s, consistent⟩
  | file remaining =>
      obtain ⟨k, s, -, consistent, -⟩ := underway
      exact ⟨k, k, s, consistent⟩
  | migrated =>
      obtain ⟨s, consistent⟩ := underway
      exact ⟨_, _, s, consistent⟩
  | adopt =>
      obtain ⟨k, l, s, consistent, -⟩ := underway
      exact ⟨k, l, s, consistent⟩
  | runMigrator adopted =>
      obtain ⟨k, l, consistent⟩ := underway
      exact ⟨k, l, k, consistent⟩
  | migrating adopted before states ok =>
      obtain ⟨k, l, consistent, -⟩ := underway
      exact ⟨k, l, k, consistent⟩
  | syncLegacyHistory adopted before =>
      obtain ⟨l, consistent⟩ := underway
      exact ⟨_, l, _, consistent⟩
  | finished outcome => exact ⟨_, _, _, underway⟩
  | failed error => exact underway.elim

theorem underway_createHistory {db : Database} (underway : Underway db .createHistory) :
    Underway (advance migrator (db, .createHistory)).1 (advance migrator (db, .createHistory)).2 := by
  obtain ⟨k, l, s, consistent, first⟩ := underway
  have all : l = k := by
    have le := consistent.legacyLe
    have ge := consistent.sqlxLe
    rcases consistent.recorded with same | same <;> omega
  subst all
  exact ⟨l, s, 0, { consistent with }, Nat.zero_le _, rfl⟩

theorem underway_file {db : Database} {remaining : List Migration}
    (underway : Underway db (.file remaining)) :
    Underway (advance migrator (db, .file remaining)).1 (advance migrator (db, .file remaining)).2 := by
  obtain ⟨k, s, j, consistent, before, rfl⟩ := underway
  have few := consistent.few
  by_cases inside : j < migrations.length
  · rw [List.drop_eq_getElem_cons inside]
    simp only [advance, List.contains_iff_mem, consistent.legacy, name_mem inside few]
    by_cases recorded : j < k
    · rw [if_pos recorded]
      exact ⟨k, s, j + 1, consistent, recorded, rfl⟩
    · -- the first migration that the history does not know is the next one to run
      obtain rfl : j = k := by omega
      obtain ⟨live, applied, made⟩ := consistent.apply inside
      rw [if_neg recorded, applied]
      refine ⟨j + 1, s, j + 1, ?_, le_rfl, rfl⟩
      constructor
      · exact inside
      · exact made
      · rw [versions_succ inside, ← consistent.executed]
      · rw [names_succ inside]
        rfl
      · exact consistent.sqlx
      · exact le_rfl
      · exact Nat.le_succ_of_le consistent.sqlxLe
      · exact .inl rfl
  · rw [List.drop_eq_nil_of_le (Nat.not_lt.mp inside)]
    obtain rfl : k = migrations.length := by omega
    exact ⟨s, consistent⟩

theorem underway_adopt {db : Database} (underway : Underway db .adopt) :
    Underway (advance migrator (db, .adopt)).1 (advance migrator (db, .adopt)).2 := by
  obtain ⟨k, l, s, consistent, known⟩ := underway
  have legacyLe := consistent.legacyLe
  have sqlxLe := consistent.sqlxLe
  have few := consistent.few
  have legacy := consistent.legacy
  have sqlx := consistent.sqlx
  rw [Database.legacyVersions] at legacy
  rw [Database.sqlxVersions] at sqlx
  cases own : db.sqlx with
  | some rows =>
      have all : s = k := by
        have first := known (by rw [own]; rfl)
        rcases consistent.recorded with same | same <;> omega
      subst all
      simp only [advance, own]
      cases db.legacy <;> exact ⟨s, l, consistent⟩
  | none =>
      rw [own, Option.getD_none] at sqlx
      have nothing : s = 0 := by
        have size := congrArg List.length sqlx
        rw [versions, List.length_map, List.length_take, List.length_nil] at size
        omega
      cases other : db.legacy with
      | none =>
          rw [other, Option.getD_none] at legacy
          have empty : l = 0 := by
            have size := congrArg List.length legacy
            rw [names, List.length_map, List.length_take, List.length_nil] at size
            omega
          have all : k = 0 := by
            rcases consistent.recorded with same | same <;> omega
          subst nothing empty all
          simp only [advance, own, other]
          exact ⟨0, 0, consistent⟩
      | some rows =>
          rw [other, Option.getD_some] at legacy
          subst legacy nothing
          obtain ⟨sorted, isPrefix, length⟩ := names_sorted (Nat.le_trans legacyLe few)
          have all : l = k := by
            rcases consistent.recorded with same | same <;> omega
          subst all
          simp only [advance, own, other, adoptLegacyBaseline, sorted, isPrefix, length,
            Bool.not_true, Bool.false_eq_true, if_false, consistent.live, ne_eq, not_true_eq_false]
          refine ⟨l, l, ?_⟩
          constructor
          · exact few
          · exact consistent.live
          · exact consistent.executed
          · rfl
          · rfl
          · exact le_rfl
          · exact le_rfl
          · exact .inl rfl

theorem find_unrecorded {k : Nat} (few : k ≤ migrations.length) :
    migrations.find? (fun migration => !(versions k).contains migration.version) = migrations[k]? := by
  have each : ∀ k : Fin 6, migrations.find?
      (fun migration => !(versions k).contains migration.version) = migrations[k]? := by decide
  exact each ⟨k, Nat.lt_succ_of_le few⟩

theorem versions_subset (k : Nat) : versions k ⊆ migrations.map (·.version) :=
  List.map_subset _ (List.take_subset k migrations)

theorem all_recorded {k : Nat} (few : k ≤ migrations.length)
    (all : ∀ migration ∈ migrations, migration.version ∈ versions k) : k = migrations.length := by
  by_contra less
  have inside : k < migrations.length := by omega
  have recorded := all migrations[k] (List.getElem_mem inside)
  rw [version_mem inside few] at recorded
  exact absurd recorded (Nat.lt_irrefl k)

theorem underway_migrating {db : Database} {adopted : Nat} {before : List Nat}
    {states : List Database} {ok : Bool} (underway : Underway db (.migrating adopted before states ok)) :
    Underway (advance migrator (db, .migrating adopted before states ok)).1
      (advance migrator (db, .migrating adopted before states ok)).2 := by
  obtain ⟨k, l, consistent, migrates⟩ := underway
  have few := consistent.few
  have sqlx := consistent.sqlx
  rw [Database.sqlxVersions] at sqlx
  cases migrates with
  | createTable missing rest =>
      rw [missing, Option.getD_none] at sqlx
      exact ⟨k, l, { consistent with sqlx }, rest⟩
  | versionMissing own unknown =>
      rw [own, Option.getD_some] at sqlx
      exact absurd (sqlx ▸ versions_subset k) unknown
  | applied own known next ran rest =>
      rw [own, Option.getD_some] at sqlx
      subst sqlx
      rw [find_unrecorded few] at next
      obtain ⟨inside, rfl⟩ := List.getElem?_eq_some_iff.mp next
      obtain ⟨live, applied, made⟩ := consistent.apply inside
      cases applied.symm.trans ran
      refine ⟨k + 1, l, ?_, rest⟩
      constructor
      · exact inside
      · exact made
      · rw [versions_succ inside, ← consistent.executed]
        rfl
      · exact consistent.legacy
      · rw [versions_succ inside]
        rfl
      · exact Nat.le_succ_of_le consistent.legacyLe
      · exact le_rfl
      · exact .inr rfl
  | failed own known next fails =>
      rw [own, Option.getD_some] at sqlx
      subst sqlx
      rw [find_unrecorded few] at next
      obtain ⟨inside, rfl⟩ := List.getElem?_eq_some_iff.mp next
      obtain ⟨live, applied, -⟩ := consistent.apply inside
      cases applied.symm.trans fails
  | upToDate own known all =>
      rw [own, Option.getD_some] at sqlx
      subst sqlx
      obtain rfl := all_recorded few all
      exact ⟨l, consistent⟩

theorem underway_syncLegacyHistory {db : Database} {adopted : Nat} {before : List Nat}
    (underway : Underway db (.syncLegacyHistory adopted before)) :
    Underway (advance migrator (db, .syncLegacyHistory adopted before)).1
      (advance migrator (db, .syncLegacyHistory adopted before)).2 := by
  obtain ⟨l, consistent⟩ := underway
  have complete : ∀ l : Fin 6, migrations.foldl (fun rows migration =>
      insertRow rows migration (versions migrations.length)) (names l) = names migrations.length := by
    decide +kernel
  have whole := complete ⟨l, Nat.lt_succ_of_le consistent.legacyLe⟩
  constructor
  · exact consistent.few
  · exact consistent.live
  · exact consistent.executed
  · simp only [advance, Database.legacyVersions, Option.getD_some]
    rw [show db.legacy.getD [] = names l from consistent.legacy, consistent.sqlx]
    exact whole
  · exact consistent.sqlx
  · exact le_rfl
  · exact le_rfl
  · exact .inl rfl

theorem underway_advance (conforms : migrator.Conforms) {db : Database} {phase : Phase}
    (underway : Underway db phase) :
    Underway (advance migrator (db, phase)).1 (advance migrator (db, phase)).2 := by
  cases phase with
  | createHistory => exact underway_createHistory underway
  | file remaining => exact underway_file underway
  | migrated => exact underway
  | adopt => exact underway_adopt underway
  | runMigrator adopted =>
      obtain ⟨k, l, consistent⟩ := underway
      exact ⟨k, l, consistent, conforms db⟩
  | migrating adopted before states ok => exact underway_migrating underway
  | syncLegacyHistory adopted before => exact underway_syncLegacyHistory underway
  | finished outcome => exact underway
  | failed error => exact underway.elim

theorem underway_iterate (conforms : migrator.Conforms) {db : Database} {phase : Phase}
    (underway : Underway db phase) (n : Nat) :
    Underway ((advance migrator)^[n] (db, phase)).1 ((advance migrator)^[n] (db, phase)).2 := by
  induction n with
  | zero => exact underway
  | succ n ih =>
      rw [Function.iterate_succ_apply']
      exact underway_advance conforms ih

def transactionsLeft (migrator : Migrator) : Database × Phase → Nat
  | (_, .createHistory) => migrations.length + 2
  | (_, .file remaining) => remaining.length + 1
  | (db, .adopt) => (migrator.run (advance migrator (db, .adopt)).1).1.length + 4
  | (db, .runMigrator _) => (migrator.run db).1.length + 3
  | (_, .migrating _ _ states _) => states.length + 2
  | (_, .syncLegacyHistory _ _) => 1
  | (_, .migrated) | (_, .finished _) | (_, .failed _) => 0

def Phase.Belongs : Phase → Runner → Prop
  | .createHistory, runner | .file _, runner | .migrated, runner => runner = .bun
  | .adopt, runner | .runMigrator _, runner | .migrating _ _ _ _, runner
  | .syncLegacyHistory _ _, runner | .finished _, runner => runner = .rust
  | .failed _, _ => True

theorem adoptLegacyBaseline_phase (db : Database) (rows : List String) :
    (∃ adopted, (adoptLegacyBaseline db rows).2 = .runMigrator adopted) ∨
      ∃ error, (adoptLegacyBaseline db rows).2 = .failed error := by
  simp only [adoptLegacyBaseline]
  split
  · exact .inr ⟨_, rfl⟩
  · split
    · exact .inr ⟨_, rfl⟩
    · split
      · exact .inr ⟨_, rfl⟩
      · exact .inl ⟨_, rfl⟩

theorem adopt_phase (migrator : Migrator) (db : Database) :
    (∃ adopted, (advance migrator (db, .adopt)).2 = .runMigrator adopted) ∨
      ∃ error, (advance migrator (db, .adopt)).2 = .failed error := by
  simp only [advance]
  split
  · exact adoptLegacyBaseline_phase db _
  · exact .inl ⟨0, rfl⟩

theorem advance_phase (migrator : Migrator) (db : Database) (phase : Phase) (runner : Runner)
    (belongs : phase.Belongs runner) :
    (advance migrator (db, phase)).2.Belongs runner ∧
      (transactionsLeft migrator (db, phase) ≠ 0 →
        transactionsLeft migrator (advance migrator (db, phase)) <
          transactionsLeft migrator (db, phase)) := by
  cases phase with
  | createHistory => exact ⟨belongs, fun _ => Nat.lt_succ_self _⟩
  | file remaining =>
      cases remaining with
      | nil => exact ⟨belongs, fun _ => Nat.lt_succ_self _⟩
      | cons migration remaining =>
          simp only [advance]
          split
          · exact ⟨belongs, fun _ => Nat.lt_succ_self _⟩
          · split
            · exact ⟨trivial, fun _ => Nat.succ_pos _⟩
            · exact ⟨belongs, fun _ => Nat.lt_succ_self _⟩
  | migrated => exact ⟨belongs, fun ahead => absurd rfl ahead⟩
  | adopt =>
      rw [transactionsLeft.eq_3]
      generalize moved : advance migrator (db, .adopt) = next
      obtain ⟨after, onward⟩ := next
      have onwards := adopt_phase migrator db
      rw [moved] at onwards
      rcases onwards with ⟨adopted, rfl⟩ | ⟨error, rfl⟩
      · exact ⟨belongs, fun _ => Nat.lt_succ_self _⟩
      · exact ⟨trivial, fun _ => Nat.succ_pos _⟩
  | runMigrator adopted => exact ⟨belongs, fun _ => Nat.lt_succ_self _⟩
  | migrating adopted before states ok =>
      cases states with
      | nil =>
          cases ok with
          | true => exact ⟨belongs, fun _ => Nat.lt_succ_self _⟩
          | false => exact ⟨trivial, fun _ => Nat.succ_pos _⟩
      | cons next states => exact ⟨belongs, fun _ => Nat.lt_succ_self _⟩
  | syncLegacyHistory adopted before => exact ⟨belongs, fun _ => Nat.lt_succ_self _⟩
  | finished outcome => exact ⟨belongs, fun ahead => absurd rfl ahead⟩
  | failed error => exact ⟨belongs, fun ahead => absurd rfl ahead⟩

theorem exists_end (migrator : Migrator) (db : Database) (phase : Phase) (runner : Runner)
    (belongs : phase.Belongs runner) :
    ∃ n, ((advance migrator)^[n] (db, phase)).2.Belongs runner ∧
      transactionsLeft migrator ((advance migrator)^[n] (db, phase)) = 0 := by
  induction bound : transactionsLeft migrator (db, phase) using Nat.strong_induction_on
    generalizing db phase with
  | _ bound' ih =>
    subst bound
    by_cases ended : transactionsLeft migrator (db, phase) = 0
    · exact ⟨0, belongs, ended⟩
    · obtain ⟨onward, less⟩ := advance_phase migrator db phase runner belongs
      obtain ⟨n, there⟩ := ih _ (less ended) (advance migrator (db, phase)).1
        (advance migrator (db, phase)).2 onward rfl
      exact ⟨n + 1, by rwa [Function.iterate_succ_apply]⟩

theorem succeeded_of_end {db : Database} {phase : Phase} {runner : Runner}
    (underway : Underway db phase) (belongs : phase.Belongs runner)
    (ended : transactionsLeft migrator (db, phase) = 0) : Succeeded runner (db, phase) := by
  have all {l s : Nat} (consistent : Consistent db migrations.length l s)
      (l_eq : l = migrations.length) (runner : Runner)
      (s_eq : runner = .rust → s = migrations.length) :
      ∀ migration ∈ migrations, migration.version ∈ db.executed ∧
        migration.legacyVersion ∈ db.legacyVersions ∧
        (runner = .rust → migration.version ∈ db.sqlxVersions) := by
    intro migration member
    rw [consistent.executed, consistent.legacy, consistent.sqlx, l_eq, versions, names,
      List.take_length]
    refine ⟨List.mem_map_of_mem member, List.mem_map_of_mem member, fun rust => ?_⟩
    rw [s_eq rust, versions, List.take_length]
    exact List.mem_map_of_mem member
  cases phase with
  | migrated =>
      obtain rfl : runner = .bun := belongs
      obtain ⟨s, consistent⟩ := underway
      exact ⟨trivial, all consistent rfl .bun nofun⟩
  | finished outcome =>
      obtain rfl : runner = .rust := belongs
      exact ⟨trivial, all underway rfl .rust fun _ => rfl⟩
  | failed error => exact underway.elim
  | createHistory | file _ | adopt | runMigrator _ | migrating _ _ _ _ | syncLegacyHistory _ _ =>
      cases ended

/-- The history that the runner goes by has all that the other one has. The runner of Rust adopts the
history of Bun if it has none of its own. -/
def MayStart (db : Database) : Runner → Prop
  | .bun => ∀ migration ∈ migrations, migration.version ∈ db.sqlxVersions →
      migration.legacyVersion ∈ db.legacyVersions
  | .rust => db.sqlx.isSome = true → ∀ migration ∈ migrations,
      migration.legacyVersion ∈ db.legacyVersions → migration.version ∈ db.sqlxVersions

def EachMayStart (migrator : Migrator) : Database → List Invocation → Prop
  | _, [] => True
  | db, invocation :: later =>
      MayStart db invocation.runner ∧ EachMayStart migrator (invoke migrator db invocation) later

theorem underway_start {db : Database} {k l s : Nat} (consistent : Consistent db k l s)
    {runner : Runner} (may : MayStart db runner) : Underway db (start runner) := by
  have few := consistent.few
  have legacyLe := consistent.legacyLe
  have sqlxLe := consistent.sqlxLe
  cases runner with
  | bun =>
      refine ⟨k, l, s, consistent, ?_⟩
      by_contra less
      have inside : l < migrations.length := by omega
      have known := may migrations[l] (List.getElem_mem inside)
      rw [consistent.sqlx, consistent.legacy, version_mem inside (by omega),
        name_mem inside (by omega)] at known
      exact absurd (known (by omega)) (Nat.lt_irrefl l)
  | rust =>
      refine ⟨k, l, s, consistent, fun own => ?_⟩
      by_contra less
      have inside : s < migrations.length := by omega
      have known := may own migrations[s] (List.getElem_mem inside)
      rw [consistent.sqlx, consistent.legacy, version_mem inside (by omega),
        name_mem inside (by omega)] at known
      exact absurd (known (by omega)) (Nat.lt_irrefl s)

theorem after_consistent (conforms : migrator.Conforms) {db : Database} {k l s : Nat}
    (consistent : Consistent db k l s) (invocations : List Invocation)
    (each : EachMayStart migrator db invocations) :
    ∃ k l s, Consistent (after migrator db invocations) k l s := by
  induction invocations generalizing db k l s with
  | nil => exact ⟨k, l, s, consistent⟩
  | cons invocation later ih =>
      obtain ⟨may, rest⟩ := each
      have underway := underway_iterate conforms (underway_start consistent may)
        invocation.transactions
      obtain ⟨k', l', s', next⟩ := underway.consistent
      exact ih next rest

/-- A migration that was executed and that the runner will execute again, unless it fails before. -/
def Twice (migration : Migration) (db : Database) (phase : Phase) : Prop :=
  ¬ db.executed.Nodup ∨ migration.version ∈ db.executed ∧
    match phase with
    | .createHistory => migration.legacyVersion ∉ db.legacyVersions
    | .file remaining => migration ∈ remaining ∧ remaining ⊆ migrations ∧
        migration.legacyVersion ∉ db.legacyVersions
    | .adopt => db.sqlx.isSome = true ∧ migration.version ∉ db.sqlxVersions
    | .runMigrator _ | .migrating _ _ _ _ => migration.version ∉ db.sqlxVersions
    | .failed _ => True
    | .migrated | .finished _ | .syncLegacyHistory _ _ => False

-- what is ahead of the runner is what the migrator does from here
def Follows (db : Database) : Phase → Prop
  | .migrating _ _ states ok => Migrates db states ok
  | .createHistory | .file _ | .migrated | .adopt | .runMigrator _ | .syncLegacyHistory _ _
  | .finished _ | .failed _ => True

theorem follows_start (db : Database) (runner : Runner) : Follows db (start runner) := by
  cases runner <;> trivial

theorem follows_advance (conforms : migrator.Conforms) {db : Database} {phase : Phase}
    (follows : Follows db phase) :
    Follows (advance migrator (db, phase)).1 (advance migrator (db, phase)).2 := by
  cases phase with
  | createHistory | migrated | syncLegacyHistory _ _ | finished _ | failed _ => trivial
  | file remaining =>
      cases remaining with
      | nil => trivial
      | cons migration remaining =>
          simp only [advance]
          split
          · trivial
          · split <;> trivial
  | adopt =>
      have onwards := adopt_phase migrator db
      generalize advance migrator (db, .adopt) = next at onwards
      obtain ⟨after, onward⟩ := next
      rcases onwards with ⟨adopted, rfl⟩ | ⟨error, rfl⟩ <;> trivial
  | runMigrator adopted => exact conforms db
  | migrating adopted before states ok =>
      cases follows with
      | createTable missing rest => exact rest
      | applied own known next ran rest => exact rest
      | versionMissing | failed | upToDate => trivial

theorem follows_iterate (conforms : migrator.Conforms) {db : Database} {phase : Phase}
    (follows : Follows db phase) (n : Nat) :
    Follows ((advance migrator)^[n] (db, phase)).1 ((advance migrator)^[n] (db, phase)).2 := by
  induction n with
  | zero => exact follows
  | succ n ih =>
      rw [Function.iterate_succ_apply']
      exact follows_advance conforms ih

theorem applyMigration_executed {db after : Database} {migration : Migration}
    (same : applyMigration db migration = some after) :
    after.executed = db.executed ++ [migration.version] := by
  obtain ⟨live, -, rfl⟩ := Option.map_eq_some_iff.mp same
  rfl

theorem executed_advance {db : Database} {phase : Phase} (follows : Follows db phase) :
    db.executed <+: (advance migrator (db, phase)).1.executed := by
  have applied {migration : Migration} {after : Database}
      (same : applyMigration db migration = some after) : db.executed <+: after.executed := by
    rw [applyMigration_executed same]
    exact List.prefix_append _ _
  cases phase with
  | createHistory | migrated | finished _ | failed _ | syncLegacyHistory _ _ =>
      exact List.prefix_rfl
  | file remaining =>
      cases remaining with
      | nil => exact List.prefix_rfl
      | cons migration remaining =>
          simp only [advance]
          split
          · exact List.prefix_rfl
          · split
            · exact List.prefix_rfl
            · rename_i same
              have grown := applied same
              exact grown
  | adopt =>
      simp only [advance, adoptLegacyBaseline]
      split
      · split
        · exact List.prefix_rfl
        · split
          · exact List.prefix_rfl
          · split <;> exact List.prefix_rfl
      · exact List.prefix_rfl
  | runMigrator adopted => exact List.prefix_rfl
  | migrating adopted before states ok =>
      cases follows with
      | applied own known next ran rest =>
          have grown := applied ran
          exact grown
      | createTable | versionMissing | failed | upToDate => exact List.prefix_rfl

theorem version_injective {migration other : Migration} (known : migration ∈ migrations)
    (otherKnown : other ∈ migrations) (same : migration.version = other.version) :
    migration = other := by
  have all : (migrations.map (·.version)).Nodup := by decide
  exact List.inj_on_of_nodup_map all known otherKnown same

theorem legacyVersion_injective {migration other : Migration} (known : migration ∈ migrations)
    (otherKnown : other ∈ migrations) (same : migration.legacyVersion = other.legacyVersion) :
    migration = other := by
  have all : (migrations.map (·.legacyVersion)).Nodup := by decide
  exact List.inj_on_of_nodup_map all known otherKnown same

theorem applyMigration_twice {db after : Database} {migration : Migration}
    (same : applyMigration db migration = some after) (ran : migration.version ∈ db.executed) :
    ¬ after.executed.Nodup := by
  rw [applyMigration_executed same, List.nodup_append]
  rintro ⟨-, -, disjoint⟩
  exact disjoint _ ran _ (List.mem_singleton_self _) rfl

theorem twice_or_later {migration next : Migration} {db after : Database}
    {remaining : List Migration} (ran : migration.version ∈ db.executed)
    (ahead : migration ∈ next :: remaining) (same : applyMigration db next = some after) :
    ¬ after.executed.Nodup ∨
      migration ≠ next ∧ migration ∈ remaining ∧ migration.version ∈ after.executed := by
  by_cases again : migration = next
  · subst again
    exact .inl (applyMigration_twice same ran)
  · refine .inr ⟨again, (List.mem_cons.mp ahead).resolve_left again, ?_⟩
    rw [applyMigration_executed same]
    exact List.mem_append_left _ ran

theorem twice_file {migration : Migration} {db : Database} {remaining : List Migration}
    (ran : migration.version ∈ db.executed) (ahead : migration ∈ remaining)
    (known : remaining ⊆ migrations) (missing : migration.legacyVersion ∉ db.legacyVersions) :
    Twice migration (advance migrator (db, .file remaining)).1
      (advance migrator (db, .file remaining)).2 := by
  cases remaining with
  | nil => cases ahead
  | cons next remaining =>
      have later : remaining ⊆ migrations := List.Subset.trans (List.subset_cons_self _ _) known
      simp only [advance, List.contains_iff_mem]
      split
      · rename_i recorded
        rcases List.mem_cons.mp ahead with rfl | ahead
        · exact absurd recorded missing
        · exact .inr ⟨ran, ahead, later, missing⟩
      · split
        · exact .inr ⟨ran, trivial⟩
        · rename_i after same
          obtain twice | ⟨again, behind, executed⟩ := twice_or_later ran ahead same
          · exact .inl twice
          · refine .inr ⟨executed, behind, later, fun member => ?_⟩
            rcases List.mem_append.mp member with member | member
            · exact missing member
            · have same := List.mem_singleton.mp member
              exact again (legacyVersion_injective (known ahead)
                (known List.mem_cons_self) same)

theorem twice_migrating {migration : Migration} {db : Database} {adopted : Nat} {before : List Nat}
    {states : List Database} {ok : Bool} (known : migration ∈ migrations)
    (ran : migration.version ∈ db.executed) (missing : migration.version ∉ db.sqlxVersions)
    (migrates : Migrates db states ok) :
    Twice migration (advance migrator (db, .migrating adopted before states ok)).1
      (advance migrator (db, .migrating adopted before states ok)).2 := by
  cases migrates with
  | createTable => exact .inr ⟨ran, List.not_mem_nil⟩
  | versionMissing | failed => exact .inr ⟨ran, trivial⟩
  | @applied _ after rows other states _ own _ next applied =>
      by_cases again : migration = other
      · subst again
        have twice := applyMigration_twice applied ran
        exact .inl twice
      · have ran' : migration.version ∈ after.executed := by
          rw [applyMigration_executed applied]
          exact List.mem_append_left _ ran
        refine .inr ⟨ran', fun recorded => ?_⟩
        rcases List.mem_append.mp recorded with recorded | recorded
        · rw [Database.sqlxVersions, own, Option.getD_some] at missing
          exact missing recorded
        · exact again (version_injective known (List.mem_of_find?_eq_some next)
            (List.mem_singleton.mp recorded))
  | upToDate own _ all =>
      rw [Database.sqlxVersions, own, Option.getD_some] at missing
      exact absurd (all migration known) missing

theorem twice_advance {migration : Migration} (known : migration ∈ migrations) {db : Database}
    {phase : Phase} (follows : Follows db phase) (twice : Twice migration db phase) :
    Twice migration (advance migrator (db, phase)).1 (advance migrator (db, phase)).2 := by
  rcases twice with twice | ⟨ran, ahead⟩
  · exact .inl fun nodup => twice (nodup.sublist (executed_advance follows).sublist)
  · cases phase with
    | createHistory => exact .inr ⟨ran, known, List.Subset.refl _, ahead⟩
    | file remaining => exact twice_file ran ahead.1 ahead.2.1 ahead.2.2
    | adopt =>
        -- there is a history of Rust's own, so nothing is adopted
        obtain ⟨rows, own⟩ := Option.isSome_iff_exists.mp ahead.1
        have onward : advance migrator (db, .adopt) = (db, .runMigrator 0) := by
          simp only [advance]
          split
          · rename_i none
            rw [own] at none
            cases none
          · rfl
        rw [onward]
        exact .inr ⟨ran, ahead.2⟩
    | runMigrator adopted => exact .inr ⟨ran, ahead⟩
    | migrating adopted before states ok => exact twice_migrating known ran ahead follows
    | failed error => exact .inr ⟨ran, trivial⟩
    | migrated | finished _ | syncLegacyHistory _ _ => exact ahead.elim

theorem twice_iterate (conforms : migrator.Conforms) {migration : Migration}
    (known : migration ∈ migrations) {db : Database} {phase : Phase} (follows : Follows db phase)
    (twice : Twice migration db phase) (n : Nat) :
    Twice migration ((advance migrator)^[n] (db, phase)).1 ((advance migrator)^[n] (db, phase)).2 := by
  induction n with
  | zero => exact twice
  | succ n ih =>
      rw [Function.iterate_succ_apply']
      exact twice_advance known (follows_iterate conforms follows n) ih

theorem Twice.not_succeeded {migration : Migration} {db : Database} {phase : Phase}
    {runner : Runner} (twice : Twice migration db phase)
    (succeeded : Succeeded runner (db, phase)) : ¬ db.executed.Nodup := by
  rcases twice with twice | ⟨-, ahead⟩
  · exact twice
  · obtain ⟨ended, -⟩ := succeeded
    cases phase with
    | migrated | finished _ => exact ahead.elim
    | createHistory | file _ | adopt | runMigrator _ | migrating _ _ _ _ | syncLegacyHistory _ _
    | failed _ => cases runner <;> exact ended.elim

theorem twice_start {db : Database} {k l s : Nat} (consistent : Consistent db k l s)
    {runner : Runner} (may : ¬ MayStart db runner) :
    ∃ migration ∈ migrations, Twice migration db (start runner) := by
  have few := consistent.few
  have legacyLe := consistent.legacyLe
  have sqlxLe := consistent.sqlxLe
  cases runner with
  | bun =>
      simp only [MayStart, not_forall] at may
      obtain ⟨migration, known, recorded, missing⟩ := may
      refine ⟨migration, known, .inr ⟨?_, missing⟩⟩
      rw [consistent.sqlx] at recorded
      rw [consistent.executed]
      exact (List.map_subset _ (List.take_subset_take_left _ sqlxLe)) recorded
  | rust =>
      simp only [MayStart, not_forall] at may
      obtain ⟨own, migration, known, recorded, missing⟩ := may
      refine ⟨migration, known, .inr ⟨?_, own, missing⟩⟩
      obtain ⟨j, inside, rfl⟩ := List.getElem_of_mem known
      rw [consistent.legacy, name_mem inside (by omega)] at recorded
      rw [consistent.executed, version_mem inside few]
      omega

/-- If each invocation may start, no migration is executed twice, and of the runners exactly those that
may start complete, with every migration executed once and recorded. -/
theorem migrations_at_most_once (migrator : Migrator) (conforms : migrator.Conforms)
    (invocations : List Invocation) (each : EachMayStart migrator {} invocations) :
    (after migrator {} invocations).executed.Nodup ∧
      ∀ runner, MayStart (after migrator {} invocations) runner ↔
        ∃ n, Succeeded runner ((advance migrator)^[n] (after migrator {} invocations, start runner)) ∧
          ((advance migrator)^[n] (after migrator {} invocations, start runner)).1.executed.Nodup := by
  obtain ⟨k, l, s, consistent⟩ := after_consistent conforms consistent_empty invocations each
  refine ⟨consistent.executed ▸ versions_nodup k, fun runner => ⟨fun may => ?_, ?_⟩⟩
  · have belongs : (start runner).Belongs runner := by cases runner <;> rfl
    obtain ⟨n, there, ended⟩ :=
      exists_end migrator (after migrator {} invocations) (start runner) runner belongs
    have underway := underway_iterate conforms (underway_start consistent may) n
    obtain ⟨k', l', s', next⟩ := underway.consistent
    exact ⟨n, succeeded_of_end underway there ended, next.executed ▸ versions_nodup k'⟩
  · rintro ⟨n, succeeded, nodup⟩
    by_contra may
    obtain ⟨migration, known, twice⟩ := twice_start consistent may
    exact (twice_iterate conforms known (follows_start _ runner) twice n).not_succeeded succeeded nodup

theorem find_of_recorded {done : List Migration} {rows : List Nat} (migration : Migration)
    (remaining : List Migration) (split : done ++ migration :: remaining = migrations)
    (recorded : ∀ earlier ∈ done, earlier.version ∈ rows) (missing : migration.version ∉ rows) :
    migrations.find? (fun migration => !rows.contains migration.version) = some migration := by
  have before : done.find? (fun migration => !rows.contains migration.version) = none := by
    rw [List.find?_eq_none]
    intro earlier member unrecorded
    rw [Bool.not_eq_true', ← Bool.not_eq_true, List.contains_iff_mem] at unrecorded
    exact unrecorded (recorded earlier member)
  rw [← split, List.find?_append, before, Option.none_or, List.find?_cons_of_pos]
  rw [Bool.not_eq_true', ← Bool.not_eq_true, List.contains_iff_mem]
  exact missing

theorem migrateAll_migrates (remaining : List Migration) {done : List Migration} {db : Database}
    {rows : List Nat} (split : done ++ remaining = migrations) (own : db.sqlx = some rows)
    (known : rows ⊆ migrations.map (·.version))
    (recorded : ∀ migration ∈ done, migration.version ∈ rows) :
    Migrates db (migrateAll remaining db).1 (migrateAll remaining db).2 := by
  induction remaining generalizing done db rows with
  | nil =>
      rw [List.append_nil] at split
      exact .upToDate own known (split ▸ recorded)
  | cons migration remaining ih =>
      have onward : (done ++ [migration]) ++ remaining = migrations := by
        rw [List.append_assoc]
        exact split
      have versions : db.sqlxVersions = rows := by rw [Database.sqlxVersions, own, Option.getD_some]
      rw [migrateAll, versions]
      by_cases there : migration.version ∈ rows
      · rw [if_pos (List.contains_iff_mem.mpr there)]
        refine ih onward own known ?_
        rw [List.forall_mem_append, List.forall_mem_singleton]
        exact ⟨recorded, there⟩
      · have next := find_of_recorded migration remaining split recorded there
        rw [if_neg (by rwa [List.contains_iff_mem])]
        cases ran : applyMigration db migration with
        | none => exact .failed own known next ran
        | some after =>
            refine .applied own known next ran (ih onward rfl ?_ ?_)
            · intro version member
              rcases List.mem_append.mp member with member | member
              · exact known member
              · rw [List.mem_singleton.mp member]
                exact List.mem_map_of_mem (List.mem_of_find?_eq_some next)
            · rw [List.forall_mem_append, List.forall_mem_singleton]
              exact ⟨fun earlier member => List.mem_append_left _ (recorded earlier member),
                List.mem_append_right _ (List.mem_singleton_self _)⟩

theorem plain_conforms : Migrator.plain.Conforms := by
  intro db
  have each {db : Database} {rows : List Nat} (own : db.sqlx = some rows) :
      Migrates db
        (if rows.all fun version => (migrations.map (·.version)).contains version then
          migrateAll migrations db else ([], false)).1
        (if rows.all fun version => (migrations.map (·.version)).contains version then
          migrateAll migrations db else ([], false)).2 := by
    split
    · rename_i known
      refine migrateAll_migrates migrations (List.nil_append _) own ?_ (List.forall_mem_nil _)
      intro version member
      exact List.contains_iff_mem.mp (List.all_eq_true.mp known version member)
    · rename_i unknown
      refine .versionMissing own fun known => unknown ?_
      rw [List.all_eq_true]
      exact fun version member => List.contains_iff_mem.mpr (known member)
  obtain ⟨live, executed, legacy, sqlx⟩ := db
  cases sqlx with
  | none => exact .createTable rfl (each rfl)
  | some rows => exact each rfl

-- Bun's runner stops after its second file, Rust's adopts both and goes on
theorem migrations_at_most_once_adopted :
    EachMayStart .plain {} [⟨.bun, 3⟩, ⟨.rust, 20⟩] ∧
      (after .plain {} [⟨.bun, 3⟩, ⟨.rust, 20⟩]).executed = [1, 2, 3, 4, 5] ∧
      ∀ runner, ∃ n,
        Succeeded runner
          ((advance .plain)^[n] (after .plain {} [⟨.bun, 3⟩, ⟨.rust, 20⟩], start runner)) ∧
        ((advance .plain)^[n]
          (after .plain {} [⟨.bun, 3⟩, ⟨.rust, 20⟩], start runner)).1.executed.Nodup := by
  have each : EachMayStart .plain {} [⟨.bun, 3⟩, ⟨.rust, 20⟩] := by
    refine ⟨?_, ?_, trivial⟩ <;> simp only [MayStart] <;> decide +kernel
  refine ⟨each, by decide +kernel, fun runner => ?_⟩
  refine ((migrations_at_most_once .plain plain_conforms _ each).2 runner).mp ?_
  cases runner <;> simp only [MayStart] <;> decide +kernel

/-- Rust's runner stops after two migrations, before Bun's history is brought up to date: Bun's runner
executes the first one again, fails at the second one, and never completes. -/
theorem migration_executed_again :
    (after .plain {} [⟨.rust, 5⟩]).executed = [1, 2] ∧
      (after .plain {} [⟨.rust, 5⟩, ⟨.bun, 20⟩]).executed = [1, 2, 1] ∧
      ∀ n, ¬ Succeeded .bun ((advance .plain)^[n] (after .plain {} [⟨.rust, 5⟩], start .bun)) := by
  refine ⟨by decide +kernel, by decide +kernel, fun n succeeded => ?_⟩
  have before : ∀ n : Fin 3,
      ((advance .plain)^[n] (after .plain {} [⟨.rust, 5⟩], start .bun)).2 ≠ .migrated := by
    decide +kernel
  have fails :
      ((advance .plain)^[3] (after .plain {} [⟨.rust, 5⟩], start .bun)).2 = .failed .database := by
    decide +kernel
  by_cases early : n < 3
  · obtain ⟨ended, -⟩ := succeeded
    have onward := before ⟨n, early⟩
    cases there : ((advance .plain)^[n] (after .plain {} [⟨.rust, 5⟩], start .bun)).2 with
    | migrated => exact onward there
    | _ =>
        rw [there] at ended
        exact ended.elim
  · obtain ⟨later, rfl⟩ := Nat.exists_eq_add_of_le' (Nat.not_lt.mp early)
    have ends : ∃ db, (advance .plain)^[3] (after .plain {} [⟨.rust, 5⟩], start .bun) =
        (db, .failed .database) :=
      ⟨((advance .plain)^[3] (after .plain {} [⟨.rust, 5⟩], start .bun)).1, Prod.ext rfl fails⟩
    obtain ⟨db, there⟩ := ends
    rw [Function.iterate_add_apply, there, Function.iterate_fixed rfl] at succeeded
    exact succeeded.1

end ZenPass.Migrate
