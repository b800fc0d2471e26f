import Mathlib.Data.List.Basic

set_option autoImplicit false

namespace ZenPass.Ddl

structure Column where
  name : String
  dataType : String
  nullable : Bool := false
  default : String := ""
deriving DecidableEq, Repr

inductive ConstraintKind where
  | primaryKey
  | foreignKey (references : String)
  | unique
  | check (expression : String)
deriving DecidableEq, Repr

structure Constraint where
  table : String
  name : String
  kind : ConstraintKind
  columns : List String
deriving DecidableEq, Repr

structure Index where
  table : String
  name : String
  unique : Bool
  columns : List String
deriving DecidableEq, Repr

structure Schema where
  tables : List String := []
  columns : List (String × Column) := []
  sequences : List String := []
  constraints : List Constraint := []
  indexes : List Index := []
deriving DecidableEq, Repr

inductive Statement where
  | createTable (ifNotExists : Bool) (table : String) (columns : List Column)
      (constraints : List Constraint)
  | addColumn (ifNotExists : Bool) (table : String) (column : Column)
      (constraints : List Constraint)
  | dropNotNull (table column : String)
  | addConstraint (constraint : Constraint)
  | createSequence (ifNotExists : Bool) (name : String)
  | createIndex (ifNotExists : Bool) (index : Index)
deriving DecidableEq, Repr

def primaryKey (table : String) (columns : List String) : Constraint where
  table := table
  name := table ++ "_pkey"
  kind := .primaryKey
  columns := columns

def foreignKey (table column references : String) : Constraint where
  table := table
  name := table ++ "_" ++ column ++ "_fkey"
  kind := .foreignKey references
  columns := [column]

def uniqueKey (table column : String) : Constraint where
  table := table
  name := table ++ "_" ++ column ++ "_key"
  kind := .unique
  columns := [column]

def checked (table column expression : String) : Constraint where
  table := table
  name := table ++ "_" ++ column ++ "_check"
  kind := .check expression
  columns := [column]

namespace Schema

def indexOf (constraint : Constraint) : List Index :=
  match constraint.kind with
  | .primaryKey | .unique => [⟨constraint.table, constraint.name, true, constraint.columns⟩]
  | .foreignKey _ | .check _ => []

def hasColumn (schema : Schema) (table column : String) : Bool :=
  schema.columns.any fun entry => entry.1 == table && entry.2.name == column

def addConstraint (schema : Schema) (constraint : Constraint) : Option Schema :=
  let taken := schema.constraints.any fun other =>
    other.table == constraint.table && other.name == constraint.name
  let target :=
    match constraint.kind with
    | .foreignKey references => schema.tables.contains references
    | _ => true
  if taken || !target || !constraint.columns.all (schema.hasColumn constraint.table) then none
  else some { schema with
    constraints := schema.constraints ++ [constraint]
    indexes := schema.indexes ++ indexOf constraint }

def execute (schema : Schema) : Statement → Option Schema
  | .createTable ifNotExists table columns constraints =>
      if schema.tables.contains table then (if ifNotExists then some schema else none)
      else
        constraints.foldlM addConstraint { schema with
          tables := schema.tables ++ [table]
          columns := schema.columns ++ columns.map fun column => (table, column) }
  | .addColumn ifNotExists table column constraints =>
      if !schema.tables.contains table then none
      else if schema.hasColumn table column.name then (if ifNotExists then some schema else none)
      else
        constraints.foldlM addConstraint { schema with
          columns := schema.columns ++ [(table, column)] }
  | .dropNotNull table column =>
      if schema.hasColumn table column then
        some { schema with columns := schema.columns.map fun entry =>
          if entry.1 == table && entry.2.name == column then
            (entry.1, { entry.2 with nullable := true })
          else entry }
      else none
  | .addConstraint constraint => schema.addConstraint constraint
  | .createSequence ifNotExists name =>
      if schema.sequences.contains name then (if ifNotExists then some schema else none)
      else some { schema with sequences := schema.sequences ++ [name] }
  | .createIndex ifNotExists index =>
      if schema.indexes.any fun other => other.name == index.name then
        (if ifNotExists then some schema else none)
      else if schema.tables.contains index.table then
        some { schema with indexes := schema.indexes ++ [index] }
      else none

def run (schema : Schema) (script : List Statement) : Option Schema := script.foldlM execute schema

end Schema

example : ((({} : Schema).run [.createTable true "t" [⟨"a", "integer", false, ""⟩] [],
      .addColumn false "t" ⟨"b", "integer", true, ""⟩ []]).bind fun schema =>
        schema.run [.addColumn false "t" ⟨"b", "integer", true, ""⟩ []]) = none ∧
    ((({} : Schema).run [.createTable true "t" [⟨"a", "integer", false, ""⟩] []]).bind fun schema =>
        schema.run [.createTable true "t" [⟨"a", "integer", false, ""⟩] []]).isSome := by
  decide +kernel

end ZenPass.Ddl
