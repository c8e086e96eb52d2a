import Sift.Statement.Joined
import Sift.Value.Wire

/-!
# Joined rows

A fetched row of a joined select, split by row type. A node whose identifier is
null is the missing side of an outer join and has no record.
-/
namespace Sift

/-- The selected nodes, each with its record if the row has one. -/
structure JoinedRow where
  slots : List (JoinNode × Option Record)

/-- A column of a fetched row as the driver gives it. -/
structure FetchedColumn where
  label : String
  type : WireType
  raw : Option Bytes

namespace JoinedRow

/-- The columns of a node, each read by its label. -/
def record (read : String → Except Error Value) (n : JoinNode) : Except Error Record := do
  let entries ← n.row.columns.mapM fun c => do
    return (c.name, ← read (Identifier.label n.name c.name))
  return .ofList entries

/-- Whether a record is that of a missing row. The root has always one. -/
def isAbsent (n : JoinNode) (r : Record) : Bool := n.edge.isSome && (r.valueOf n.row.id).isNull

/-- Splits a row whose columns are read by label. -/
def split (g : JoinGraph) (read : String → Except Error Value) : Except Error JoinedRow := do
  let slots ← g.selected.mapM fun n => do
    let r ← record read n
    return (n, if isAbsent n r then none else some r)
  return ⟨slots⟩

/-- Splits a row of labelled values. A label that is missing reads as null. -/
def ofValues (g : JoinGraph) (values : List (String × Value)) : Except Error JoinedRow :=
  split g fun label => .ok (.ofOption (values.lookup label))

/-- The record of a row type. -/
def get? (row : JoinedRow) (r : RowType) : Option Record :=
  (row.slots.find? fun (n, _) => n.row.name == r.name).bind (·.2)

/-- The record of a node. -/
def getNode? (row : JoinedRow) (id : Nat) : Option Record :=
  (row.slots.find? fun (n, _) => n.id == id).bind (·.2)

end JoinedRow

/-- The letters of a label in lower case, which is how labels are compared when none is equal. -/
def foldLabel (s : String) : List Char := s.toList.map Char.toLower

/-- The place of the column with a label: the first equal one, else the first that differs in case
only. -/
def fetchedPlace? (columns : List FetchedColumn) (label : String) : Option Nat :=
  (columns.findIdx? fun c => c.label == label).or
    (columns.findIdx? fun c => foldLabel c.label == foldLabel label)

/-- Reads the column with a label. -/
def readFetched (columns : List FetchedColumn) (label : String) : Except Error Value :=
  match fetchedPlace? columns label with
  | none => .error (.driver (.noColumn label))
  | some i =>
    match columns[i]? with
    | none => .error (.driver (.noColumn label))
    | some c =>
      let undecodable := Error.driver (.undecodable i)
      if c.type.isReadable then (Value.read c.type c.raw).mapError fun _ => undecodable
      else .error undecodable

/-- Splits a row as the driver gives it. -/
def JoinedRow.ofFetched (g : JoinGraph) (columns : List FetchedColumn) : Except Error JoinedRow :=
  split g (readFetched columns)

end Sift
