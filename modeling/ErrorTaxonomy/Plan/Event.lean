/-! # Events — what a run reports while it works

Each event has a level, a text and named values. -/

namespace ErrorTaxonomy

/-- How urgent an event is. -/
inductive EventLevel where
  | debug
  | warning
  deriving Repr, DecidableEq

/-- The name of a level. -/
def EventLevel.name : EventLevel → String
  | .debug => "DEBUG"
  | .warning => "WARN"

/-- Something that a run reports. -/
inductive Event where
  /-- A message has been planned. -/
  | planned (message kind : String)
  /-- A message cannot be planned. -/
  | notPlanned (message : String)
  /-- A unit has no errors. -/
  | noErrors (file : String)
  /-- A mentioned field holds a message that is not loaded. -/
  | unresolvedCause (message field typeName : String)
  /-- A union member is a message that is not loaded. -/
  | unresolvedMember (typeName : String)
  /-- A program has formatted an artifact. -/
  | formatted (program artifact : String)
  deriving Repr, DecidableEq

namespace Event

/-- The level of an event. -/
def level : Event → EventLevel
  | .unresolvedCause _ _ _ => .warning
  | .unresolvedMember _ => .warning
  | _ => .debug

/-- The wording of an event. -/
def text : Event → String
  | .planned _ _ => "planned"
  | .notPlanned _ => "planning failed"
  | .noErrors _ => "no error messages; skipping"
  | .unresolvedCause _ _ _ =>
    "referenced message is not in the schema snapshot; not treated as a cause"
  | .unresolvedMember _ => "message type not in schema snapshot; guessing its path"
  | .formatted program _ => "formatted with " ++ program

/-- The named values of an event. -/
def values : Event → List (String × String)
  | .planned message kind => [("error_message", message), ("kind", kind)]
  | .notPlanned message => [("error_message", message)]
  | .noErrors file => [("file", file)]
  | .unresolvedCause message field typeName =>
    [("error_message", message), ("field", field), ("type_name", typeName)]
  | .unresolvedMember typeName => [("type_name", typeName)]
  | .formatted _ artifact => [("artifact", artifact)]

end Event
end ErrorTaxonomy
