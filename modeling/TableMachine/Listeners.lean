import Std.Data.HashMap
import TableMachine.Naming.Notification
import TableMachine.Text.Quoted

/-!
# Listener registries

A registry keeps handlers, each registered either for one notification name or for every
notification, under an identifier drawn from a counter and never reused. The handlers of each
name sit in a vector of their own, in a hash map keyed by the name; the catch-all handlers sit in
one more vector. Emitting a notification calls the handlers of its name, in registration order,
then the catch-all handlers, in registration order.

Removing a handler looks for its identifier among the catch-all handlers first, then in the
vectors of the map, in the map's iteration order, and takes out the first registration it finds.
A vector left empty stays in the map.

The handlers are values of any type, so that calling them is left to the caller
(`Listeners.handlersFor`, `Listeners.deliveredTo`).
-/

namespace TableMachine

/-- The identifier of a registration. -/
structure ListenerId where
  val : Nat
  deriving DecidableEq, Repr, Inhabited

/-- A registry of handlers. -/
structure Listeners (α : Type) where
  /-- The handlers of each notification name, with their identifiers, in registration order. -/
  named : Std.HashMap String (List (ListenerId × α)) := {}
  /-- The catch-all handlers, with their identifiers, in registration order. -/
  any : List (ListenerId × α) := []
  /-- The identifier the next registration gets. -/
  nextId : Nat := 0

namespace Listeners

variable {α : Type}

/-- Registers a handler for one notification name, at the end of that name's vector (made empty
first if the name has none); returns the registry and the new identifier. -/
def on (l : Listeners α) (name : String) (h : α) : Listeners α × ListenerId :=
  let id : ListenerId := ⟨l.nextId⟩
  let named := l.named.alter name fun v => some (v.getD [] ++ [(id, h)])
  ({ l with named, nextId := l.nextId + 1 }, id)

/-- Registers a handler for every notification, at the end of the catch-all vector. -/
def onAny (l : Listeners α) (h : α) : Listeners α × ListenerId :=
  let id : ListenerId := ⟨l.nextId⟩
  ({ l with any := l.any ++ [(id, h)], nextId := l.nextId + 1 }, id)

/-- A vector without its first registration of an identifier, if it has one. -/
def removeFirst (v : List (ListenerId × α)) (id : ListenerId) : Option (List (ListenerId × α)) :=
  (v.findIdx? (·.1 = id)).map v.eraseIdx

/-- A name's vector without its first registration of an identifier, with the name, if the vector
has one. -/
def removeFirstIn (id : ListenerId) (e : String × List (ListenerId × α)) :
    Option (String × List (ListenerId × α)) :=
  (removeFirst e.2 id).map (e.1, ·)

/-- Removes the handler of an identifier: the first catch-all handler with it, or else the first
handler with it in the first vector of the map, in iteration order, that holds one. Tells whether
there was one. -/
def off (l : Listeners α) (id : ListenerId) : Listeners α × Bool :=
  match removeFirst l.any id with
  | some any => ({ l with any }, true)
  | none =>
    match l.named.toList.findSome? (removeFirstIn id) with
    | some (name, v) => ({ l with named := l.named.insert name v }, true)
    | none => (l, false)

/-- The number of handlers registered for a name (catch-all handlers not counted). -/
def count (l : Listeners α) (name : String) : Nat := (l.named.getD name []).length

/-- The number of handlers, catch-all handlers included. -/
def size (l : Listeners α) : Nat := l.named.fold (fun n _ v => n + v.length) 0 + l.any.length

/-- Whether no handler is registered. -/
def isEmpty (l : Listeners α) : Bool := l.size == 0

/-- The registrations a notification calls, in calling order: those of its name, then the
catch-all ones. -/
def registrationsFor (l : Listeners α) (n : Notification) : List (ListenerId × α) :=
  l.named.getD n.name [] ++ l.any

/-- The handlers a notification calls, in calling order. -/
def handlersFor (l : Listeners α) (n : Notification) : List α := (l.registrationsFor n).map (·.2)

/-- What the handler registered under `id` receives from notifications emitted one after
another: each notification once for each call of that handler. -/
def deliveredTo (l : Listeners α) (id : ListenerId) (ns : List Notification) : List Notification :=
  ns.flatMap fun n => ((l.registrationsFor n).filter (·.1 = id)).map fun _ => n

/-- Inserts a name into a sorted list without duplicates. -/
def insertName (n : String) : List String → List String
  | [] => [n]
  | m :: rest => if n < m then n :: m :: rest else if n = m then m :: rest else m :: insertName n rest

/-- The names with at least one handler, sorted. -/
def names (l : Listeners α) : List String :=
  ((l.named.toList.filter (!·.2.isEmpty)).map (·.1)).foldl (fun acc n => insertName n acc) []

/-- The summary of a registry: each name with its number of handlers, then the number of
catch-all handlers, as `Listeners { named: [("update", 2)], any: 1 }`. -/
def summary (l : Listeners α) : String :=
  let named := (l.names.map fun n => "(" ++ Text.quote n ++ ", " ++ toString (l.count n) ++ ")")
  "Listeners \x7b named: [" ++ String.intercalate ", " named ++ "], any: " ++
    toString l.any.length ++ " \x7d"

end Listeners

end TableMachine
