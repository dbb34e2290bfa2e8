import TestRollup.Number.Floating
import TestRollup.Pattern.Grammar
import TestRollup.Report.Event
import TestRollup.Text.Bytes

/- Log filters. A filter is a list of rules, given as text with commas between
   them. Each rule sets a limit for some of the events: a level alone for all of
   them; a place with an equals sign and a level for the events that come from
   there; and a name in brackets and braces for those that have such a field. Of
   the rules that concern an event the most specific one decides, and an event
   that no rule concerns is left out. A text in which one rule cannot be read
   counts as no filter at all, and then warnings and errors are let through. -/
namespace TestRollup.Command

open Report

/-- The position of a level, the most pressing first. -/
def levelRank : Level → Nat
  | .error => 0
  | .warn => 1
  | .info => 2
  | .debug => 3
  | .trace => 4

/-- The limits that a rule can set, by their names and in the order of their
numbers; `off` lets nothing through. -/
def namedLimits : List (String × Option Level) :=
  [("off", none), ("error", some .error), ("warn", some .warn), ("info", some .info),
    ("debug", some .debug), ("trace", some .trace)]

/-- The limit that a text of digits numbers. -/
def limitNumbered? (digits : List Char) : Option (Option Level) :=
  if digits.isEmpty || !Number.allDigits digits then none
  else (namedLimits[Number.valueOfDigits digits]?).map (·.2)

/-- The limit that a name in letters of any case or a number, with a plus sign or
without, stands for. -/
def limitNamed? (name : List Char) : Option (Option Level) :=
  match limitNumbered? (if ['+'].isPrefixOf name then name.drop 1 else name) with
  | some limit => some limit
  | none => namedLimits.lookup (String.ofList (name.map Char.toLower))

/-- Which of the events from a place a rule is about. -/
inductive Scope where
  /-- All of them. -/
  | all
  /-- Those that have this field. -/
  | withField (name : String)
  /-- Those inside a span of time with a name or with a field of some value; this
  program marks no spans, so there are none. -/
  | inSpan
  deriving DecidableEq

/-- A rule of a filter. -/
structure FilterRule where
  /-- Only events from places whose names start so; without it, from everywhere. -/
  origin : Option String
  scope : Scope
  /-- The least pressing level that is let through; without it, none. -/
  limit : Option Level
  deriving DecidableEq

namespace Scope

/-- The event is one of those that the scope holds. -/
def holds (scope : Scope) (event : Event) : Bool :=
  match scope with
  | all => true
  | withField name => name == "message" || event.fields.any fun f => f.1 == name
  | inSpan => false

/-- A scope with a field is more specific than one without; of two fields, the
one that comes later in the order of code points is. -/
def outranks : Scope → Scope → Bool
  | withField a, withField b => List.lex b.toList a.toList fun x y => x.toNat < y.toNat
  | withField _, all => true
  | _, _ => false

/-- A field can be asked for by its name alone, or by a value behind an equals
sign: a number or a pattern. What follows a second equals sign does not matter. -/
def isReadableField (field : List Char) : Bool :=
  match field.dropWhile (· != '=') with
  | [] => true
  | _ :: value =>
    Number.isFloating (value.takeWhile (· != '=')) ||
      Pattern.isPattern (value.takeWhile (· != '='))

/-- Reads a scope behind its opening bracket in a text; what follows it is left. The
value of the field is looked for as many bytes to the left as the indent takes. -/
def read? (text : List Char) (indent : Nat) (cs : List Char) : Option (Scope × List Char) :=
  let isName := fun c => c != ']' && c != '\x7b'
  match cs.dropWhile isName with
  | ']' :: rest => some (inSpan, rest)
  | '\x7b' :: inner =>
    let field := inner.takeWhile (· != '\x7d')
    let start := Text.byteCount text - Text.byteCount inner - indent
    let looked := Text.sliceBytes? start (Text.byteCount field) text
    match inner.dropWhile (· != '\x7d') with
    | '\x7d' :: ']' :: rest =>
      if field.isEmpty || !looked.any isReadableField then none
      else if (cs.takeWhile isName).isEmpty && !field.contains '=' then
        some (withField (String.ofList field), rest)
      else some (inSpan, rest)
    | _ => none
  | _ => none

end Scope

namespace FilterRule

/-- The character can stand at the start of a rule. -/
def isOpening (c : Char) : Bool :=
  c == '[' || c == '-' || c == ':' || c == '_' || Text.isAlphanumeric c

/-- Reads the limit at the end of a rule; without one, everything is let through.
An indented rule has no limit of its own. -/
def limitAtEnd? (indent : Nat) (cs : List Char) : Option (Option Level) :=
  if cs.all Text.isBlank then some (some .trace)
  else if indent ≠ 0 then none
  else
    match cs with
    | ['='] => some (some .trace)
    | '=' :: name => limitNamed? name
    | _ => none

/-- Reads a rule. A text that could be a level or a place is a level. -/
def ofText? (text : List Char) : Option FilterRule :=
  let isPlace := fun c => c != '=' && c != '['
  let place := text.takeWhile isPlace
  let origin := String.ofList place
  let indent := Text.byteCount (text.takeWhile Text.isBlank)
  if !(Text.trim text).head?.any isOpening then none
  else
    match text.dropWhile isPlace with
    | [] =>
      match limitNamed? place with
      | some limit => some ⟨none, .all, limit⟩
      | none => some ⟨some origin, .all, some .trace⟩
    | '[' :: cs => do
      let (scope, rest) ← Scope.read? text indent cs
      let limit ← limitAtEnd? indent rest
      some ⟨if place.isEmpty then none else some origin, scope, limit⟩
    | rest => (limitAtEnd? indent rest).map fun limit => ⟨some origin, .all, limit⟩

/-- The rule is about the event. -/
def concerns (r : FilterRule) (event : Event) : Bool :=
  (r.origin.all fun place => place.toList.isPrefixOf event.origin.toList) && r.scope.holds event

/-- How narrow the place of a rule is. -/
def depth (r : FilterRule) : Nat :=
  match r.origin with
  | none => 0
  | some place => place.length + 1

/-- The rule is more specific than the other: its place is narrower, or is as
narrow and its scope is more specific. -/
def outranks (r s : FilterRule) : Bool :=
  s.depth < r.depth || (s.depth == r.depth && r.scope.outranks s.scope)

/-- The rule lets the event through, if it decides about it. -/
def admits (r : FilterRule) (event : Event) : Bool :=
  match r.limit with
  | none => false
  | some limit => levelRank event.level ≤ levelRank limit

end FilterRule

/-- What a log lets through. -/
structure LogFilter where
  rules : List FilterRule
  deriving DecidableEq

namespace LogFilter

/-- The filter that sets one limit for all events. -/
def upTo (limit : Level) : LogFilter := ⟨[⟨none, .all, some limit⟩]⟩

/-- The filter that holds if none is given. -/
def standard : LogFilter := upTo .warn

/-- The filter that a text gives. -/
def ofText (text : String) : LogFilter :=
  match ((text.toList.splitOn ',').filter (!·.isEmpty)).mapM FilterRule.ofText? with
  | some rules => ⟨rules⟩
  | none => standard

/-- The filter that an optional text gives. -/
def ofSetting (setting : Option String) : LogFilter :=
  match setting with
  | none => standard
  | some text => ofText text

/-- The rule that decides about an event: of those that concern it the most
specific one, and of two that are equally specific the later one. -/
def decidingRule? (f : LogFilter) (event : Event) : Option FilterRule :=
  (f.rules.filter (·.concerns event)).foldl
    (fun best r =>
      match best with
      | none => some r
      | some b => if b.outranks r then some b else some r)
    none

/-- The filter lets the event through. -/
def admits (f : LogFilter) (event : Event) : Bool :=
  (f.decidingRule? event).any (·.admits event)

/-- One limit for all events lets through what is at least as pressing. -/
theorem admits_upTo (limit : Level) (event : Event) :
    (upTo limit).admits event = decide (levelRank event.level ≤ levelRank limit) := by
  simp [upTo, admits, decidingRule?, FilterRule.concerns, Scope.holds, FilterRule.admits]

/-- No level is less pressing than `trace`, so up to there everything is let through. -/
theorem admits_upTo_trace (event : Event) : (upTo .trace).admits event = true := by
  rw [admits_upTo]
  cases event.level <;> rfl

end LogFilter

end TestRollup.Command
