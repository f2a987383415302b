import StepFlow.Json.Schema
import StepFlow.Pattern.Reader

/-! # Rules for checking programs

Standalone variables fall into groups by ordered patterns; each group and each kind of step has
limits of its own. Rules are data and go through JSON unchanged, so patterns are kept as text. The
order of the groups decides which one a variable falls into: the first whose excluding patterns do
not occur in the variable's line while one of its other patterns does.
-/

namespace StepFlow

open Schema

/-- What holds for the variables of one group. -/
structure GroupRule where
  name : String
  description : String := ""
  patterns : List String := []
  excluded : List String := []
  needsConditions : Bool := false
  maxConditions : Option Int := none
  dataType : String := "Bool"
  arrayName : String := ""
  deriving Repr, DecidableEq

/-- What holds for one kind of step. -/
structure StepLimits where
  allowsEntry : Bool := true
  allowsExit : Bool := true
  maxConditions : Option Int := none
  maxTransitions : Option Int := none
  deriving Repr, DecidableEq

/-- What holds for the rest step and for the numbered steps. -/
structure StepRules where
  rest : StepLimits :=
    { allowsEntry := false, maxConditions := some 10, maxTransitions := some 0 }
  sequential : StepLimits := { maxConditions := some 20, maxTransitions := some 5 }
  deriving Repr, DecidableEq

/-- Which timers are allowed. -/
structure TimerRules where
  units : List String := ["Sek", "Min", "s", "m"]
  maxValue : Int := 3600
  deriving Repr, DecidableEq

/-- How references to other programs are treated. -/
inductive ReferenceMode where
  /-- One that cannot be resolved is an error. -/
  | strict
  /-- One that cannot be resolved is a warning. -/
  | warn
  /-- References are not checked. -/
  | lenient
  deriving Repr, DecidableEq

/-- How references to other programs are checked. -/
structure ReferenceRules where
  mode : ReferenceMode := .lenient
  stepsMustExist : Bool := true
  deriving Repr, DecidableEq

/-- The groups that are used when a rule set names none. -/
def defaultGroups : List (String × GroupRule) :=
  [("general",
    { name := "Hulpmerker"
      description := "Auxiliary markers (Bool)"
      patterns := [
        "^[a-zA-Z][a-zA-Z0-9_]*\\s*=\\s*$",
        "^[^:]+\\s*=\\s*$",
        "^(Freigabe|Start|Aktuell|Aktuelle)\\s+(.+)\\s*=$",
        "^(Einfuhr|Ausfuhr|Füllen|Entleeren|Umschwimmen|Freigabe)\\s+(.+)\\s*=$",
        "^(Wartereihe|Beschäftigt|Gestartet|Fertig|Aktiv)\\s+(.+)\\s*=$",
        "^[^=]*\\b(Freigabe|Release|Enable|Enabled)\\b[^=]*\\s*=\\s*$",
        "^[^=]*\\b(von|of|from)\\b[^=]*\\s*=\\s*$",
        "^[^=]*\\b(Bereit|Ready|Aktiv|Active|Verfügbar|Available|Besetzt|Occupied)\\b[^=]*\\s*=\\s*$"]
      excluded := [
        "^STORING:",
        "^MELDING:",
        "^TIJD\\s*=",
        "^Teller\\s*=",
        "^Variabele\\s*=",
        "(?i)\\b(Störung|Storing|Fault|Alarm|Error|Fehler)\\b",
        "(?i)\\b(Melding|Meldung|Message|Nachricht)\\b",
        "(?i)\\b(Info|Information)\\b.*\\b(Display|Screen|Monitor|Anzeige)\\b"]
      needsConditions := true
      maxConditions := some 20
      arrayName := "Hulp" }),
   ("fault",
    { name := "Storing"
      description := "Fault/alarm variables (Bool)"
      patterns := [
        "^STORING:\\s*[^=]+\\s*=\\s*$",
        "^STÖRUNG:\\s*[^=]+\\s*=\\s*$",
        "^FAULT:\\s*[^=]+\\s*=\\s*$",
        "(?i)^[^=]*\\b(Störung|Storing|Fault|Alarm|Error|Fehler)\\b[^=]*\\s*(=\\s*)?$"]
      needsConditions := true
      maxConditions := some 10
      arrayName := "Storing" }),
   ("message",
    { name := "Melding"
      description := "Notification variables (Bool)"
      patterns := [
        "^MELDING:\\s*[^=]+\\s*=\\s*$",
        "^MELDUNG:\\s*[^=]+\\s*=\\s*$",
        "^MESSAGE:\\s*[^=]+\\s*=\\s*$",
        "(?i)^[^=]*\\b(Melding|Meldung|Message|Nachricht|Info|Information)\\b[^=]*\\s*(=\\s*)?$"]
      needsConditions := true
      maxConditions := some 10
      arrayName := "Melding" }),
   ("timer",
    { name := "Tijd"
      description := "Timer variables (IEC_TIMER)"
      patterns := ["(?i)^(TIJD|ZEIT|TIME)\\s*=\\s*[^=]+$"]
      maxConditions := some 0
      dataType := "IEC_TIMER"
      arrayName := "Tijd" }),
   ("counter",
    { name := "Teller"
      description := "Counter variables (Int)"
      patterns := ["(?i)^(Teller|COUNTER|ZÄHLER)\\s*=\\s*[^=]+$"]
      maxConditions := some 0
      dataType := "Int"
      arrayName := "Teller" }),
   ("variable",
    { name := "Variabele"
      description := "General integer variables (Int)"
      patterns := ["(?i)^(Variabele|VARIABLE)\\s*=\\s*[^=]+$"]
      maxConditions := some 0
      dataType := "Int"
      arrayName := "Variable" })]

/-- All rules for checking programs. -/
structure CheckRules where
  version : String := "1.1.0"
  groups : List (String × GroupRule) := defaultGroups
  defaultGroup : String := "general"
  steps : StepRules := {}
  timer : TimerRules := {}
  references : ReferenceRules := {}
  deriving Repr, DecidableEq

namespace GroupRule

/-- Texts of patterns. The first that is none is a fault. -/
def patternTexts (json : Json) : Checked (List String) :=
  (texts json).andThen fun patterns =>
    match patterns.findSome? fun pattern =>
      match Pattern.read pattern with
      | .ok _ => none
      | .error fault =>
        some s!"invalid pattern {Text.quoted pattern}: {fault.message pattern}" with
    | some reason => .fail (.rejected reason)
    | none => .valid patterns

/-- Reads the rule of a group. -/
def ofJson : Json → Checked GroupRule := record fun fields =>
  GroupRule.mk
    <$> required "name" text fields
    <*> optional "description" text "" fields
    <*> optional "patterns" patternTexts [] fields
    <*> optional "exclude_patterns" patternTexts [] fields
    <*> optional "requires_conditions" truth false fields
    <*> optional "max_conditions" (nullable integer) none fields
    <*> optional "data_type" text "Bool" fields
    <*> optional "array_name" text "" fields

/-- Writes the rule of a group. -/
def toJson (rule : GroupRule) : Json :=
  .obj [("name", .str rule.name), ("description", .str rule.description),
    ("patterns", .strings rule.patterns), ("exclude_patterns", .strings rule.excluded),
    ("requires_conditions", .bool rule.needsConditions),
    ("max_conditions", .ofOption .int rule.maxConditions),
    ("data_type", .str rule.dataType), ("array_name", .str rule.arrayName)]

/-- Whether the group keeps a line out. -/
def excludes (rule : GroupRule) (line : String) : Bool :=
  rule.excluded.any fun pattern => Pattern.textOccursIn pattern line

/-- Whether the group takes a line in. -/
def includes (rule : GroupRule) (line : String) : Bool :=
  rule.patterns.any fun pattern => Pattern.textOccursIn pattern line

/-- Whether a line falls into the group, if no group before takes it. -/
def accepts (rule : GroupRule) (line : String) : Bool := !rule.excludes line && rule.includes line

end GroupRule

namespace StepLimits

/-- Reads the limits of a kind of step; what is left out has the limits of no kind. -/
def ofJson : Json → Checked StepLimits := record fun fields =>
  StepLimits.mk
    <$> optional "allows_entry_conditions" truth true fields
    <*> optional "allows_exit_conditions" truth true fields
    <*> optional "max_conditions" (nullable integer) none fields
    <*> optional "max_transitions" (nullable integer) none fields

/-- Writes the limits of a kind of step. -/
def toJson (limits : StepLimits) : Json :=
  .obj [("allows_entry_conditions", .bool limits.allowsEntry),
    ("allows_exit_conditions", .bool limits.allowsExit),
    ("max_conditions", .ofOption .int limits.maxConditions),
    ("max_transitions", .ofOption .int limits.maxTransitions)]

end StepLimits

namespace StepRules

/-- Reads the rules of steps. -/
def ofJson : Json → Checked StepRules := record fun fields =>
  StepRules.mk
    <$> optional "rest" StepLimits.ofJson ({} : StepRules).rest fields
    <*> optional "sequential" StepLimits.ofJson ({} : StepRules).sequential fields

/-- Writes the rules of steps. -/
def toJson (rules : StepRules) : Json :=
  .obj [("rest", rules.rest.toJson), ("sequential", rules.sequential.toJson)]

end StepRules

namespace TimerRules

/-- Reads the rules of timers. -/
def ofJson : Json → Checked TimerRules := record fun fields =>
  TimerRules.mk
    <$> optional "allowed_units" texts ({} : TimerRules).units fields
    <*> optional "max_value" integer ({} : TimerRules).maxValue fields

/-- Writes the rules of timers. -/
def toJson (rules : TimerRules) : Json :=
  .obj [("allowed_units", .strings rules.units), ("max_value", .int rules.maxValue)]

/-- Whether a unit of time is allowed, in any letter case. -/
def allowsUnit (rules : TimerRules) (unit : String) : Bool :=
  (rules.units.map Text.lower).contains (Text.lower unit)

end TimerRules

namespace ReferenceMode

/-- The word for a mode. -/
def word : ReferenceMode → String
  | .strict => "strict"
  | .warn => "warn"
  | .lenient => "lenient"

/-- The mode that a word names. -/
def ofWord? (word : String) : Option ReferenceMode :=
  [strict, warn, lenient].find? (·.word == word)

end ReferenceMode

namespace ReferenceRules

/-- Reads how references are checked. -/
def ofJson : Json → Checked ReferenceRules := record fun fields =>
  ReferenceRules.mk
    <$> optional "mode" (choice .unknownChoice ReferenceMode.ofWord?) .lenient fields
    <*> optional "require_steps_exist" truth true fields

/-- Writes how references are checked. -/
def toJson (rules : ReferenceRules) : Json :=
  .obj [("mode", .str rules.mode.word), ("require_steps_exist", .bool rules.stepsMustExist)]

end ReferenceRules

namespace CheckRules

/-- Reads a rule set. -/
def ofJson : Json → Checked CheckRules := record fun fields =>
  CheckRules.mk
    <$> optional "version" text ({} : CheckRules).version fields
    <*> optional "groups" (Schema.map GroupRule.ofJson) defaultGroups fields
    <*> optional "default_group" text ({} : CheckRules).defaultGroup fields
    <*> optional "steps" StepRules.ofJson {} fields
    <*> optional "timer" TimerRules.ofJson {} fields
    <*> optional "cross_references" ReferenceRules.ofJson {} fields

/-- The fields of a rule set. -/
def toFields (rules : CheckRules) : List (String × Json) :=
  [("version", .str rules.version),
    ("groups", .obj (rules.groups.map fun (key, rule) => (key, rule.toJson))),
    ("default_group", .str rules.defaultGroup), ("steps", rules.steps.toJson),
    ("timer", rules.timer.toJson), ("cross_references", rules.references.toJson)]

/-- Writes a rule set. -/
def toJson (rules : CheckRules) : Json := .obj rules.toFields

/-- The group of a variable's line: the first that accepts it, else the default group. -/
def classify (rules : CheckRules) (line : String) : String :=
  match rules.groups.find? fun (_, rule) => rule.accepts line with
  | some (key, _) => key
  | none => rules.defaultGroup

/-- Changes one field of a rule set. Maps of groups and of kinds of steps are united, other values
replaced. -/
def override (fields : List (String × Json)) (change : String × Json) : List (String × Json) :=
  let merged := match fields.lookup change.1, change.2 with
    | some (.obj old), .obj new =>
      if change.1 = "groups" ∨ change.1 = "steps" then .obj (Json.putAll old new) else change.2
    | _, _ => change.2
  Json.put change.1 merged fields

/-- The rule set with changes applied in order. -/
def merged (rules : CheckRules) (changes : List (String × Json)) : Checked CheckRules :=
  ofJson (.obj (changes.foldl override rules.toFields))

end CheckRules

end StepFlow
