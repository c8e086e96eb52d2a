import Sift.Dialect

/-!
# Configuration
-/
namespace Sift

/-- The severity of an event. -/
inductive Level where
  | error
  | warn
  | info
  | debug
  | trace
deriving DecidableEq

def Level.name : Level → String
  | .error => "ERROR"
  | .warn => "WARN"
  | .info => "INFO"
  | .debug => "DEBUG"
  | .trace => "TRACE"

/-- How statements are logged. -/
structure LogConfig where
  enabled : Bool
  level : Level
  /-- The length in bytes beyond which a logged statement is cut. -/
  maxLength : Option Nat

namespace LogConfig

/-- Statements are logged for debugging, the first 200 bytes of each. -/
def standard : LogConfig := ⟨true, .debug, some 200⟩

/-- The last place between two characters, or at an end, that is at or before a byte. Places are tried backward from
the byte. -/
def lastPlace (sql : String) : Nat → sql.Pos
  | 0 => sql.startPos
  | n + 1 =>
    if between : String.Pos.Raw.IsValid sql ⟨n + 1⟩ then ⟨⟨n + 1⟩, between⟩ else lastPlace sql n

/-- A statement as it is logged: whole characters up to the limit, and dots for the rest. -/
def truncate (c : LogConfig) (sql : String) : String :=
  match c.maxLength with
  | some n =>
    if n < sql.utf8ByteSize then (sql.sliceTo (lastPlace sql n)).copy ++ "..." else sql
  | none => sql

end LogConfig

/-- How statements are compiled. -/
structure Config where
  dialect : Dialect
  /-- The greatest limit of a select. -/
  maxPageSize : Option Int64
  /-- Whether a delete without restrictions deletes every row. -/
  allowDeleteAll : Bool
  /-- Whether a select of one table lists its columns as `*`. -/
  selectStar : Bool
  log : LogConfig

/-- PostgreSQL, at most 1000 rows a page, no unrestricted delete, listed columns. -/
def Config.standard : Config := ⟨.postgres, some 1000, false, false, .standard⟩

end Sift
