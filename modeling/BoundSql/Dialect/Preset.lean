import BoundSql.Dialect.Basic

/-!
# The dialects of three databases

Each one is a record of settings. Other dialects are made by changing fields of one of them.
-/

namespace BoundSql

namespace Calendar.Pattern

/-- Date and time with a `T` between them, the fraction of a second only where there is one, and
the offset. -/
def iso : Pattern :=
  ⟨[.year, .literal '-', .month, .literal '-', .day, .literal 'T', .hour, .literal ':', .minute,
    .literal ':', .second, .fraction, .offset]⟩

/-- Date and time with a space between them, always with microseconds. -/
def spaced : Pattern :=
  ⟨[.year, .literal '-', .month, .literal '-', .day, .literal ' ', .hour, .literal ':', .minute,
    .literal ':', .second, .micros]⟩

end Calendar.Pattern

namespace Dialect

/-- PostgreSQL. -/
def postgres : Dialect where
  name := "postgresql"
  identifierQuote := '"'
  placeholder := .numbered
  locking := true
  insertReturning := .returning
  unboundedLimit := none
  foreignKeys := .inline
  literals :=
    { bytes := .bytea
      nonFinite := .cast
      backslashEscapes := false
      datetime := .iso
      currentTimestamp := "CURRENT_TIMESTAMP"
      wrapBlobDefaults := false }
  types :=
    { int := "INTEGER"
      bigInt := "BIGINT"
      string := "TEXT"
      bool := "BOOLEAN"
      double := "DOUBLE PRECISION"
      uuid := "UUID"
      date := "TIMESTAMPTZ"
      json := "JSONB"
      bytes := "BYTEA"
      increments := "BIGSERIAL PRIMARY KEY" }

/-- MySQL and MariaDB. -/
def mysql : Dialect where
  name := "mysql"
  identifierQuote := '\x60'
  placeholder := .question
  locking := true
  insertReturning := .lastInsertId
  unboundedLimit := some "18446744073709551615"
  foreignKeys := .tableConstraint
  literals :=
    { bytes := .hex
      nonFinite := .null
      backslashEscapes := true
      datetime := .spaced
      currentTimestamp := "CURRENT_TIMESTAMP(6)"
      wrapBlobDefaults := true }
  types :=
    { int := "INT"
      bigInt := "BIGINT"
      string := "VARCHAR(255)"
      bool := "BOOLEAN"
      double := "DOUBLE"
      uuid := "CHAR(36)"
      date := "DATETIME(6)"
      json := "JSON"
      bytes := "LONGBLOB"
      increments := "BIGINT UNSIGNED AUTO_INCREMENT PRIMARY KEY" }

/-- SQLite, which has no row locks. -/
def sqlite : Dialect where
  name := "sqlite"
  identifierQuote := '"'
  placeholder := .question
  locking := false
  insertReturning := .returning
  unboundedLimit := some "-1"
  foreignKeys := .inline
  literals :=
    { bytes := .hex
      nonFinite := .overflow
      backslashEscapes := false
      datetime := .iso
      currentTimestamp := "CURRENT_TIMESTAMP"
      wrapBlobDefaults := false }
  types :=
    { int := "INTEGER"
      bigInt := "INTEGER"
      string := "TEXT"
      bool := "INTEGER"
      double := "REAL"
      uuid := "TEXT"
      date := "TEXT"
      json := "TEXT"
      bytes := "BLOB"
      increments := "INTEGER PRIMARY KEY AUTOINCREMENT" }

end Dialect

end BoundSql
