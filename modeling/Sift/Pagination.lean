import Sift.Error
import Sift.Value.OfJson

/-!
# Windows and pages

A window limits how many rows are returned and skips the rows before an offset.
A page is the rows of a window with the count of all rows.
-/
namespace Sift

/-- A window; without limit and offset it shows every row. -/
structure Pagination where
  limit : Option Int64
  offset : Option Int64
deriving DecidableEq

namespace Pagination

/-- The window of all rows. -/
def all : Pagination := ⟨none, none⟩

def isEmpty (p : Pagination) : Bool := p.limit.isNone && p.offset.isNone

/-- The window of a page; pages count from 1. -/
def page (number size : Int64) : Except Error Pagination :=
  if number < 1 then .error (.argument (.page number))
  else if size < 1 then .error (.argument (.perPage size))
  else
    match int64? ((number.toInt - 1) * size.toInt) with
    | some offset => .ok ⟨some size, some offset⟩
    | none => .error (.argument (.pageOverflow number size))

/-- Refuses negative limits and offsets. -/
def validate (p : Pagination) : Except Error Unit := do
  match p.limit with
  | some n => if n < 0 then throw (.argument (.limit n))
  | none => pure ()
  match p.offset with
  | some n => if n < 0 then throw (.argument (.offset n))
  | none => pure ()

/-- The window with a limit of at most `max`, if it has a limit. -/
def clamp (p : Pagination) (max : Int64) : Pagination :=
  { p with limit := p.limit.map fun n => if max < n then max else n }

/-- Whether a window is reduced by a greatest page size. -/
def exceeds (p : Pagination) (max : Int64) : Bool :=
  match p.limit with
  | some n => decide (max < n)
  | none => false

end Pagination

/-- The rows of a window and the number of rows in all windows. -/
structure Page (α : Type) where
  items : List α
  total : Int64
  limit : Option Int64
  offset : Int64

namespace Page

variable {α β : Type}

def of (items : List α) (total : Int64) (window : Pagination) : Page α :=
  ⟨items, total, window.limit, window.offset.getD 0⟩

/-- The page of a result without rows. -/
def empty (window : Pagination) : Page α := of [] 0 window

/-- The number of pages; rows that are not paged make one page, no rows none. The sum of the rows and
the size of a page wraps around if it exceeds 64 bits. -/
def totalPages (p : Page α) : Int64 :=
  match p.limit with
  | some n => if 0 < n then (p.total + n - 1) / n else if 0 < p.total then 1 else 0
  | none => if 0 < p.total then 1 else 0

/-- Whether rows follow the page. -/
def hasNext (p : Page α) : Bool := decide (p.offset + Int64.ofNat p.items.length < p.total)

/-- The same window over transformed rows. -/
def map (f : α → β) (p : Page α) : Page β := { p with items := p.items.map f }

end Page
end Sift
