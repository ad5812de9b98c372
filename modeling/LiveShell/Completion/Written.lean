import LiveShell.Completion.Completer
import LiveShell.Text.Json

/-!
What completion works with and what it gives, as JSON.
-/

namespace LiveShell

open Text

/-- A text, or null for none. -/
def Text.Json.ofOption : Option String → Json
  | some value => .string value
  | none => .null

/-- A node with its kind, its span and its parts. -/
def Node.written : Node → Json
  | .string span value raw => described "string" span [("value", .string value), ("raw", .string raw)]
  | .identifier span name => described "identifier" span [("name", .string name)]
  | .member span object property computed =>
      described "attribute" span
        [("object", object.written), ("property", property.written), ("computed", .bool computed)]
  | .call span callee arguments =>
      described "call" span
        [("callee", callee.written), ("arguments", .list (arguments.map fun node => node.written))]
  | .other span => described "other" span []
where
  described (kind : String) (span : Span) (parts : List (String × Json)) : Json :=
    .object ([("kind", .string kind), ("start", .whole span.start), ("end", .whole span.stop)] ++ parts)

/-- A completion, or null for none. -/
def Completion.written : Option Completion.Completion → Json
  | none => .null
  | some found => .object [("completions", .list (found.suffixes.map .string)),
      ("original_substring", .string found.typed), ("fillable", .bool found.fillable)]

/-- Settings under the names that a user sets them by. -/
def Settings.written (settings : Settings) : Json :=
  .object [("autoload_modules", .bool settings.autoloadModules),
    ("module_dir", Json.ofOption settings.moduleDirectory),
    ("complete_while_typing", .bool settings.completeWhileTyping), ("debug_log", .bool settings.debugLog),
    ("history_file", Json.ofOption settings.historyFile)]

end LiveShell
