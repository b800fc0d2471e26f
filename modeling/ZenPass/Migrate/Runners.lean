import Mathlib.Data.List.Sort
import Mathlib.Data.String.Basic
import Mathlib.Logic.Function.Iterate
import ZenPass.Lib.Ddl

set_option autoImplicit false

-- `migrate` of `db.mjs` and `run` of `migrate.rs`, one transaction at a time. Each keeps a history
-- table of its own; the tables of the histories are no part of the schema that they migrate.

namespace ZenPass.Migrate

open Ddl

/-- The files of the two directories have the same bytes; `legacyVersion` is the part of the name
before the first underscore, `version` its number. -/
structure Migration where
  version : Nat
  legacyVersion : String
  sql : List Statement
deriving DecidableEq, Repr

def column (name dataType : String) : Column := ⟨name, dataType, false, ""⟩

def nullableColumn (name dataType : String) : Column := ⟨name, dataType, true, ""⟩

def initialSql : List Statement :=
  [.createTable true "accounts"
      [column "account_id" "varchar(128)", ⟨"created_at", "timestamptz", false, "now()"⟩,
        nullableColumn "deleted_at" "timestamptz"]
      [primaryKey "accounts" ["account_id"]],
    .createTable true "opaque_credentials"
      [column "account_id" "varchar(128)", column "credential_record" "bytea",
        ⟨"updated_at", "timestamptz", false, "now()"⟩]
      [primaryKey "opaque_credentials" ["account_id"],
        foreignKey "opaque_credentials" "account_id" "accounts"],
    .createTable true "sessions"
      [column "session_id" "uuid", column "account_id" "varchar(128)", column "token_hash" "bytea",
        column "expires_at" "timestamptz", nullableColumn "revoked_at" "timestamptz"]
      [primaryKey "sessions" ["session_id"], foreignKey "sessions" "account_id" "accounts",
        uniqueKey "sessions" "token_hash"],
    .createTable true "devices"
      [column "device_id" "varchar(128)", column "account_id" "varchar(128)",
        column "name" "varchar(128)", column "public_key" "bytea",
        ⟨"created_at", "timestamptz", false, "now()"⟩, nullableColumn "last_seen_at" "timestamptz",
        nullableColumn "revoked_at" "timestamptz"]
      [primaryKey "devices" ["device_id"], foreignKey "devices" "account_id" "accounts"],
    .createTable true "key_bundles"
      [column "account_id" "varchar(128)", column "bundle" "bytea", column "version" "integer",
        ⟨"updated_at", "timestamptz", false, "now()"⟩]
      [primaryKey "key_bundles" ["account_id"], foreignKey "key_bundles" "account_id" "accounts",
        checked "key_bundles" "version" "version > 0"],
    .createTable true "vault_items"
      [column "vault_id" "varchar(128)", column "item_id" "varchar(128)",
        column "ciphertext" "bytea", column "envelope_version" "varchar(64)",
        column "revision" "bigint", ⟨"deleted", "boolean", false, "false"⟩,
        ⟨"created_at", "timestamptz", false, "now()"⟩, ⟨"updated_at", "timestamptz", false, "now()"⟩]
      [primaryKey "vault_items" ["vault_id", "item_id"],
        checked "vault_items" "envelope_version" "envelope_version = 'crypto-envelope/v1'",
        checked "vault_items" "revision" "revision > 0"]]

def authSessionsAndRateLimitSql : List Statement :=
  [.addColumn false "sessions" (nullableColumn "device_id" "varchar(128)")
      [foreignKey "sessions" "device_id" "devices"],
    .createTable true "auth_rate_limits"
      [column "account_id" "varchar(128)", column "scope" "varchar(64)",
        column "window_start" "timestamptz", ⟨"count", "integer", false, "0"⟩]
      [primaryKey "auth_rate_limits" ["account_id", "scope", "window_start"],
        foreignKey "auth_rate_limits" "account_id" "accounts"]]

def syncSql : List Statement :=
  [.createTable true "vaults"
      [column "vault_id" "varchar(128)", column "account_id" "varchar(128)",
        ⟨"created_at", "timestamptz", false, "now()"⟩]
      [primaryKey "vaults" ["vault_id"], foreignKey "vaults" "account_id" "accounts"],
    .createSequence true "vault_change_sequence",
    .addColumn true "vault_items"
      ⟨"sequence", "bigint", false, "nextval('vault_change_sequence')"⟩ [],
    .createIndex true ⟨"vault_items", "vault_items_sequence_key", true, ["sequence"]⟩,
    .createIndex true
      ⟨"vault_items", "vault_items_vault_sequence_idx", false, ["vault_id", "sequence"]⟩,
    .createTable true "mutation_outcomes"
      [column "account_id" "varchar(128)", column "mutation_id" "varchar(128)",
        column "vault_id" "varchar(128)", column "status_code" "integer",
        column "response_body" "jsonb", ⟨"created_at", "timestamptz", false, "now()"⟩]
      [primaryKey "mutation_outcomes" ["account_id", "mutation_id"],
        foreignKey "mutation_outcomes" "account_id" "accounts"]]

def deviceEnrollmentSql : List Statement :=
  [.dropNotNull "devices" "public_key",
    .addColumn false "devices" ⟨"enrollment_mode", "varchar(32)", false, "'legacy-public-key'"⟩
      [checked "devices" "enrollment_mode"
        "enrollment_mode IN ('legacy-public-key', 'bearer-session-v1')"],
    .addConstraint
      { table := "devices"
        name := "devices_public_key_required_unless_bearer_session"
        kind := .check "enrollment_mode = 'bearer-session-v1' OR public_key IS NOT NULL"
        columns := ["enrollment_mode", "public_key"] }]

def sessionProvenanceSql : List Statement :=
  [.addColumn false "sessions" ⟨"issued_via", "varchar(32)", false, "'opaque-login'"⟩
    [checked "sessions" "issued_via" "issued_via IN ('opaque-login', 'refresh')"]]

def migrations : List Migration :=
  [⟨1, "001", initialSql⟩, ⟨2, "002", authSessionsAndRateLimitSql⟩, ⟨3, "003", syncSql⟩,
    ⟨4, "004", deviceEnrollmentSql⟩, ⟨5, "005", sessionProvenanceSql⟩]

structure Database where
  live : Schema := {}
  -- the migrations whose SQL was executed on the live schema and committed, the oldest first
  executed : List Nat := []
  -- `schema_migrations`
  legacy : Option (List String) := none
  -- `_sqlx_migrations`; its checksums are those of the embedded migrations
  sqlx : Option (List Nat) := none
deriving DecidableEq

def Database.legacyVersions (db : Database) : List String := db.legacy.getD []

def Database.sqlxVersions (db : Database) : List Nat := db.sqlx.getD []

def replay (script : List Migration) : Option Schema :=
  script.foldlM (fun schema migration => schema.run migration.sql) {}

/-- What is compared of a schema, in the order of the names. -/
structure SchemaDump where
  tables : List String
  columns : List (String × Column)
  sequences : List String
  constraints : List Constraint
  indexes : List Index
deriving DecidableEq

def SchemaDump.capture (schema : Schema) : SchemaDump where
  tables := schema.tables.insertionSort (· ≤ ·)
  columns := schema.columns.insertionSort fun a b => a.1 ≤ b.1
  sequences := schema.sequences.insertionSort (· ≤ ·)
  constraints := schema.constraints.insertionSort fun a b => a.name ≤ b.name
  indexes := schema.indexes.insertionSort fun a b => a.name ≤ b.name

def applyMigration (db : Database) (migration : Migration) : Option Database :=
  (db.live.run migration.sql).map fun live =>
    { db with live := live, executed := db.executed ++ [migration.version] }

-- `Migrator::run` of SQLx: the databases that its transactions leave, in order, and whether it is Ok
structure Migrator where
  run : Database → List Database × Bool

-- What SQLx documents of it: its table is created if it is not there, a recorded version that is not
-- embedded is an error, and the migrations that are not recorded are applied in order, each with its
-- row in one transaction, up to the first one that fails.
inductive Migrates : Database → List Database → Bool → Prop
  | createTable {db : Database} {states : List Database} {ok : Bool} (missing : db.sqlx = none)
      (rest : Migrates { db with sqlx := some [] } states ok) :
      Migrates db ({ db with sqlx := some [] } :: states) ok
  | versionMissing {db : Database} {rows : List Nat} (own : db.sqlx = some rows)
      (unknown : ¬ rows ⊆ migrations.map (·.version)) : Migrates db [] false
  | applied {db after : Database} {rows : List Nat} {migration : Migration} {states : List Database}
      {ok : Bool} (own : db.sqlx = some rows) (known : rows ⊆ migrations.map (·.version))
      (next : migrations.find? (fun migration => !rows.contains migration.version) = some migration)
      (ran : applyMigration db migration = some after)
      (rest : Migrates { after with sqlx := some (rows ++ [migration.version]) } states ok) :
      Migrates db ({ after with sqlx := some (rows ++ [migration.version]) } :: states) ok
  | failed {db : Database} {rows : List Nat} {migration : Migration} (own : db.sqlx = some rows)
      (known : rows ⊆ migrations.map (·.version))
      (next : migrations.find? (fun migration => !rows.contains migration.version) = some migration)
      (fails : applyMigration db migration = none) : Migrates db [] false
  | upToDate {db : Database} {rows : List Nat} (own : db.sqlx = some rows)
      (known : rows ⊆ migrations.map (·.version))
      (all : ∀ migration ∈ migrations, migration.version ∈ rows) : Migrates db [] true

def Migrator.Conforms (migrator : Migrator) : Prop :=
  ∀ db, Migrates db (migrator.run db).1 (migrator.run db).2

inductive MigrateError where
  | historyMismatch
  | schemaDrift
  | database
  | runner
deriving DecidableEq, Repr

structure Outcome where
  adopted : Nat
  applied : List Nat
  upToDate : Bool
deriving DecidableEq, Repr

inductive Phase where
  -- the runner of Bun
  | createHistory
  | file (remaining : List Migration)
  | migrated
  -- the runner of Rust
  | adopt
  | runMigrator (adopted : Nat)
  | migrating (adopted : Nat) (before : List Nat) (states : List Database) (ok : Bool)
  | syncLegacyHistory (adopted : Nat) (before : List Nat)
  | finished (outcome : Outcome)
  | failed (error : MigrateError)
deriving DecidableEq

inductive Runner where
  | bun
  | rust
deriving DecidableEq, Repr

def start : Runner → Phase
  | .bun => .createHistory
  | .rust => .adopt

/-- A history that is a prefix of the known one, over a schema that the prefix makes, gets its baseline
rows. The replay is rolled back. -/
def adoptLegacyBaseline (db : Database) (rows : List String) : Database × Phase :=
  let applied := rows.insertionSort (· ≤ ·)
  if !applied.isPrefixOf (migrations.map (·.legacyVersion)) then (db, .failed .historyMismatch)
  else
    let baseline := migrations.take applied.length
    match replay baseline with
    | none => (db, .failed .database)
    | some probe =>
        if SchemaDump.capture probe ≠ SchemaDump.capture db.live then (db, .failed .schemaDrift)
        else ({ db with sqlx := some (baseline.map (·.version)) }, .runMigrator applied.length)

def insertRow (rows : List String) (migration : Migration) (applied : List Nat) : List String :=
  if applied.contains migration.version && !rows.contains migration.legacyVersion then
    rows ++ [migration.legacyVersion]
  else rows

/-- One transaction, or a look at the histories that changes nothing. -/
def advance (migrator : Migrator) : Database × Phase → Database × Phase
  | (db, .createHistory) => ({ db with legacy := some db.legacyVersions }, .file migrations)
  | (db, .file []) => (db, .migrated)
  | (db, .file (migration :: remaining)) =>
      if db.legacyVersions.contains migration.legacyVersion then (db, .file remaining)
      else
        match applyMigration db migration with
        | none => (db, .failed .database)
        | some after =>
            ({ after with legacy := some (db.legacyVersions ++ [migration.legacyVersion]) },
              .file remaining)
  | (db, .adopt) =>
      match db.legacy, db.sqlx with
      | some rows, none => adoptLegacyBaseline db rows
      | _, _ => (db, .runMigrator 0)
  | (db, .runMigrator adopted) =>
      (db, .migrating adopted db.sqlxVersions (migrator.run db).1 (migrator.run db).2)
  | (_, .migrating adopted before (next :: states) ok) => (next, .migrating adopted before states ok)
  | (db, .migrating adopted before [] true) => (db, .syncLegacyHistory adopted before)
  | (db, .migrating _ _ [] false) => (db, .failed .runner)
  | (db, .syncLegacyHistory adopted before) =>
      let after := db.sqlxVersions
      let applied := after.filter fun version => !before.contains version
      ({ db with legacy := some (migrations.foldl
          (fun rows migration => insertRow rows migration after) db.legacyVersions) },
        .finished ⟨adopted, applied, applied.isEmpty⟩)
  | (db, .migrated) => (db, .migrated)
  | (db, .finished outcome) => (db, .finished outcome)
  | (db, .failed error) => (db, .failed error)

structure Invocation where
  runner : Runner
  transactions : Nat

def invoke (migrator : Migrator) (db : Database) (invocation : Invocation) : Database :=
  ((advance migrator)^[invocation.transactions] (db, start invocation.runner)).1

def after (migrator : Migrator) (db : Database) (invocations : List Invocation) : Database :=
  invocations.foldl (invoke migrator) db

/-- The runner has ended without an error, every migration is applied and recorded in the histories
that the runner consults. -/
def Succeeded (runner : Runner) (state : Database × Phase) : Prop :=
  (match runner, state.2 with
    | .bun, .migrated => True
    | .rust, .finished _ => True
    | _, _ => False) ∧
  ∀ migration ∈ migrations, migration.version ∈ state.1.executed ∧
    migration.legacyVersion ∈ state.1.legacyVersions ∧
    (runner = .rust → migration.version ∈ state.1.sqlxVersions)

def migrateAll : List Migration → Database → List Database × Bool
  | [], _ => ([], true)
  | migration :: remaining, db =>
      if db.sqlxVersions.contains migration.version then migrateAll remaining db
      else
        match applyMigration db migration with
        | none => ([], false)
        | some after =>
            let next := { after with sqlx := some (db.sqlxVersions ++ [migration.version]) }
            (next :: (migrateAll remaining next).1, (migrateAll remaining next).2)

def Migrator.plain : Migrator where
  run db :=
    let created := { db with sqlx := some db.sqlxVersions }
    let ran :=
      if db.sqlxVersions.all fun version => (migrations.map (·.version)).contains version then
        migrateAll migrations created
      else ([], false)
    (if db.sqlx.isSome then ran.1 else created :: ran.1, ran.2)

-- Bun's runner stops after its second file
example : (after .plain {} [⟨.bun, 3⟩, ⟨.rust, 20⟩]).legacy =
    some ["001", "002", "003", "004", "005"] := by
  decide +kernel

end ZenPass.Migrate
