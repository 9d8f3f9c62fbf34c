import TableMachine.Naming.Label
import TableMachine.Json.Value

/-!
# Notifications

Every accepted move from `src` to `dst` announces itself by a sequence of named notifications
(`moveNotifications`):

* `update` first, always;
* for a move that stays put: `staying` and `stayingIn<Src>`;
* for a move to another state: `leaving<Src>`, `entering<Dst>` and `goingFrom<Src>To<Dst>`,
  then `final` when the move is marked as reaching a terminal state.

A terminal state that receives input announces `inFinal` instead (`inFinalNotification`).
The labels inside the names follow the table's `Capitalization`.
-/

namespace TableMachine

/-- What a notification is about. -/
inductive Signal where
  | update (src dst : String)
  | staying (state : String)
  | stayingIn (state : String)
  | leaving (src dst : String)
  | entering (src dst : String)
  | goingFrom (src dst : String)
  | final (src dst : String)
  | inFinal (state : String)
  deriving DecidableEq, Repr, Inhabited

/-- A named notification. -/
structure Notification where
  name : String
  signal : Signal
  deriving DecidableEq, Repr, Inhabited

namespace Signal

/-- The kind of a signal, as it is written in JSON. -/
def kind : Signal → String
  | .update .. => "update"
  | .staying .. => "staying"
  | .stayingIn .. => "staying_in"
  | .leaving .. => "leaving"
  | .entering .. => "entering"
  | .goingFrom .. => "going_from"
  | .final .. => "final"
  | .inFinal .. => "in_final"

/-- The payload fields of a signal in JSON: `from` and `to`, or `state`. -/
def payload : Signal → List (String × Json)
  | .update s d | .leaving s d | .entering s d | .goingFrom s d | .final s d =>
    [("from", .str s), ("to", .str d)]
  | .staying s | .stayingIn s | .inFinal s => [("state", .str s)]

end Signal

namespace Notification

/-- The arguments a handler receives: both ends for `update` and `goingFrom`, the destination
for `leaving`, the origin for `entering` and `final`, the state for `staying` and `inFinal`, and
none for `stayingIn`. -/
def args (n : Notification) : List String :=
  match n.signal with
  | .update s d | .goingFrom s d => [s, d]
  | .staying s | .inFinal s => [s]
  | .stayingIn _ => []
  | .leaving _ d => [d]
  | .entering s _ | .final s _ => [s]

/-- The JSON fields of a notification: name, kind, then the payload. -/
def fields (n : Notification) : List (String × Json) :=
  ("name", .str n.name) :: ("kind", .str n.signal.kind) :: n.signal.payload

/-- A notification as a JSON object. -/
def toJson (n : Notification) : Json := .obj n.fields

end Notification

/-- The notifications of an accepted move from `src` to `dst`; `reachesFinal` appends `final` to
a move between two different states. -/
def moveNotifications (src dst : String) (caps : Capitalization) (reachesFinal : Bool) :
    List Notification :=
  let srcLabel := caps.label src
  let update : Notification := ⟨"update", .update src dst⟩
  if src = dst then
    [update, ⟨"staying", .staying src⟩, ⟨"stayingIn" ++ srcLabel, .stayingIn src⟩]
  else
    let dstLabel := caps.label dst
    let cross : List Notification :=
      [update, ⟨"leaving" ++ srcLabel, .leaving src dst⟩, ⟨"entering" ++ dstLabel, .entering src dst⟩,
        ⟨"goingFrom" ++ srcLabel ++ "To" ++ dstLabel, .goingFrom src dst⟩]
    if reachesFinal then cross ++ [⟨"final", .final src dst⟩] else cross

/-- The notification of input that reaches a terminal state. -/
def inFinalNotification (state : String) : Notification := ⟨"inFinal", .inFinal state⟩

end TableMachine
