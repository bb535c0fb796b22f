import ReplayGen.Command.Filter
import ReplayGen.Text.Quoted

set_option autoImplicit false

namespace ReplayGen

namespace Event

def FieldValue.shown : FieldValue → String
  | .text value => Text.quote value
  | .bare value => value

def logLine (event : Event) : String :=
  let fields := event.fields.map fun (name, value) => " " ++ name ++ "=" ++ value.shown
  event.level.name ++ " " ++ event.source ++ ": " ++ event.message ++ String.join fields

end Event

def logLines (filter : Filter) (events : List Event) : List String :=
  (events.filter filter.shows).map Event.logLine

end ReplayGen
