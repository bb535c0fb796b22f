import ReplayGen.Command.FieldTest
import ReplayGen.Event

set_option autoImplicit false

/-!
# Log filters

A filter decides which events of a command are shown. It is written as directives with commas
between them. A directive is a level, or a target with or without one, as in
`target[span{field}]=level`. Of the directives that care about an event, the most specific
one settles whether it is severe enough.
-/

namespace ReplayGen

namespace Level

def all : List Level := [trace, debug, info, warn, error]

def number (level : Level) : Nat :=
  6 - level.severity

end Level

abbrev Threshold := Option Level

namespace Threshold

def number? (text : List Char) : Option Nat :=
  let digits := if text.head? = some '+' then text.tail else text
  if !digits.isEmpty && digits.all Char.isDigit then
    some (digits.foldl (fun value c => 10 * value + (c.toNat - '0'.toNat)) 0)
  else none

def ofName? (name : String) : Option Threshold :=
  let upper := name.map Char.toUpper
  let number := number? name.toList
  if upper = "OFF" ∨ number = some 0 then some none
  else (Level.all.find? fun level => upper = level.name || number = some level.number).map some

def shows (threshold : Threshold) (level : Level) : Bool :=
  threshold.any fun least => least.severity ≤ level.severity

end Threshold

namespace Event

def source : Event → String
  | passingBlob .. | lookingUpProgram .. => "gl_retrace_gen::glretrace"
  | _ => "gl_retrace_gen::retrace"

def fieldNames (event : Event) : List String :=
  "message" :: event.fields.map Prod.fst

end Event

structure Directive where
  target : String := ""
  -- A directive for a span cares about no event, because no event is in a span.
  inSpan : Bool := false
  field : Option FieldTest := none
  threshold : Threshold := some .trace
  deriving DecidableEq, Repr

namespace Directive

-- The values of fields are only known for spans.
def caresAbout (directive : Directive) (event : Event) : Bool :=
  !directive.inSpan && directive.target.toList.isPrefixOf event.source.toList &&
    directive.field.all fun field => field.value.isNone && field.name ∈ event.fieldNames

-- How much a directive asks for: a longer target, then a field, then a later name.
def rank (directive : Directive) : Nat × Nat × String :=
  (directive.target.length, directive.field.toList.length,
    (directive.field.map FieldTest.name).getD "")

def outranks (directive other : Directive) : Bool :=
  let (length, fields, name) := directive.rank
  let (length', fields', name') := other.rank
  length' < length ||
    (length = length' && (fields' < fields || (fields = fields' && name' < name)))

/-- Characters at the same position of the trimmed text, by which parts are told apart, and of
the text as it stands, from which they are cut. -/
abbrev Cells := List (Char × Char)

def cut (cells : Cells) : String :=
  String.ofList (cells.map Prod.snd)

def untilAny (stops : List Char) (cells : Cells) : Cells × Cells :=
  cells.span fun cell => cell.1 ∉ stops

def withLevel? (directive : Directive) (name : String) : Option Directive :=
  if name.isEmpty then some directive
  else (Threshold.ofName? name).map fun threshold => { directive with threshold }

def afterSpan? (directive : Directive) (cells : Cells) (rest : String) : Option Directive :=
  match cells with
  | [] => some directive
  | ('=', _) :: level => directive.withLevel? (cut level ++ rest)
  | _ => none

def spanPart? (directive : Directive) (cells : Cells) (rest : String) : Option Directive :=
  match untilAny [']', '\x7b'] cells with
  | (_, (']', _) :: after) => afterSpan? { directive with inSpan := true } after rest
  | (name, _ :: inner) =>
      match untilAny ['\x7d'] inner with
      | ([], _) => none
      | (field, _ :: (']', _) :: after) => do
          let test ← FieldTest.ofText? (cut field)
          afterSpan? { directive with inSpan := !name.isEmpty, field := some test } after rest
      | _ => none
  | _ => none

-- A directive that is no more than a name is a level if there is one of that name.
def ofName (name : String) : Directive :=
  match Threshold.ofName? name with
  | some threshold => { threshold }
  | none => { target := name }

def startsName (c : Char) : Bool :=
  c ∈ ['-', ':', '_'] || Text.isAlphanumeric c

def ofText? (text : String) : Option Directive :=
  let trimmed := Text.trim text.toList
  let cells := trimmed.zip text.toList
  let rest := String.ofList (text.toList.drop trimmed.length)
  match cells with
  | [] => none
  | ('[', _) :: inner => spanPart? {} inner rest
  | (first, _) :: _ =>
      if startsName first then
        match untilAny ['=', '['] cells with
        | (_, []) => some (ofName text)
        | (target, ('[', _) :: inner) => spanPart? { target := cut target } inner rest
        | (target, _ :: level) => withLevel? { target := cut target } (cut level ++ rest)
      else none

end Directive

abbrev Filter := List Directive

namespace Filter

def ofLevel (level : Level) : Filter :=
  [{ threshold := some level }]

def standard : Filter := ofLevel .warn

/-- The filter of that text; the standard one if some directive has no meaning. No directives
at all show errors. -/
def ofText (text : String) : Filter :=
  match ((text.splitToList (· = ',')).filter (!·.isEmpty)).mapM Directive.ofText? with
  | none => standard
  | some [] => ofLevel .error
  | some directives => directives

-- The most specific directive for an event. Of equals the last counts.
def deciding? (filter : Filter) (event : Event) : Option Directive :=
  let prefer (best : Option Directive) (next : Directive) : Option Directive :=
    if best.any (·.outranks next) then best else some next
  (filter.filter (·.caresAbout event)).foldl prefer none

def shows (filter : Filter) (event : Event) : Bool :=
  (filter.deciding? event).any (·.threshold.shows event.level)

end Filter

end ReplayGen
