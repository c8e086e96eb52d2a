import Sift.Config

/-!
# Events

What compiling a statement reports besides its result. A trace is a result, or an
error, with the events up to it.
-/
namespace Sift

inductive Event where
  /-- A compiled statement, logged under the name of its operation. -/
  | statement (level : Level) (operation : String) (dialect : Dialect) (params : Nat)
    (predictsEmpty : Bool) (sql : String)
  /-- A limit reduced to the greatest page size. -/
  | clamped (requested : Option Int64) (max : Int64)
  /-- A delete that deletes nothing because it is not restricted. -/
  | unrestrictedDelete (joined : Bool) (table : String)
  /-- A placement of nulls that the dialect cannot write. -/
  | nullsIgnored (placement : NullPlacement)
  /-- The name of a joined table in the statement. -/
  | tableNamed (name table row : String)
  /-- A statement that is not run because no row can match. -/
  | shortCircuited (sql : String)

namespace Event

def level : Event → Level
  | .statement level .. => level
  | .clamped .. | .unrestrictedDelete .. | .nullsIgnored .. => .warn
  | .tableNamed .. => .trace
  | .shortCircuited .. => .debug

/-- The text of an event; statements are logged without one. -/
def message? : Event → Option String
  | .statement .. => none
  | .clamped .. => some "page size clamped to max_page_size"
  | .unrestrictedDelete .. =>
    some ("DELETE without restrictions matches no rows; "
      ++ "set allow_delete_all to delete everything")
  | .nullsIgnored .. =>
    some "MySQL has no NULLS FIRST/LAST; using the database default placement"
  | .tableNamed .. => some "assigned join alias"
  | .shortCircuited .. => some "short-circuiting statement predicted to match no rows"

end Event

/-- A result or an error, and the events up to it. -/
structure Traced (α : Type) where
  events : List Event
  result : Except Error α

namespace Traced

variable {α β : Type}

/-- A result without events. -/
def lift (x : Except Error α) : Traced α := ⟨[], x⟩

/-- Events without a result. -/
def emit (es : List Event) : Traced Unit := ⟨es, .ok ()⟩

instance : Monad Traced where
  pure a := ⟨[], .ok a⟩
  bind x f :=
    match x.result with
    | .ok a => ⟨x.events ++ (f a).events, (f a).result⟩
    | .error e => ⟨x.events, .error e⟩

instance : MonadLift (Except Error) Traced := ⟨lift⟩

@[simp] theorem result_pure (a : α) : (pure a : Traced α).result = .ok a := rfl

@[simp] theorem result_lift (x : Except Error α) : (lift x).result = x := rfl

@[simp] theorem result_emit (es : List Event) : (emit es).result = .ok () := rfl

@[simp] theorem result_bind (x : Traced α) (f : α → Traced β) :
    (x >>= f).result = x.result >>= fun a => (f a).result := by
  show (match x.result with
    | .ok a => (⟨x.events ++ (f a).events, (f a).result⟩ : Traced β)
    | .error e => ⟨x.events, .error e⟩).result = _
  cases x.result <;> rfl

end Traced
end Sift
