import LiveShell.Completion.Completer

/-!
Completions as the entries of a menu. An entry shows the whole candidate and inserts only what is still
missing; a hint is shown and inserts nothing.
-/

namespace LiveShell.Completion

structure MenuItem where
  inserted : String
  shown : String
  remark : String := ""
deriving DecidableEq, Repr, Inhabited

/-- The entries for a completion. -/
def menuItems : Option Completion → List MenuItem
  | none => []
  | some completion =>
      if completion.fillable then
        completion.suffixes.map fun suffix =>
          { inserted := suffix, shown := completion.typed ++ suffix }
      else completion.suffixes.map fun hint => { inserted := "", shown := hint, remark := "hint" }

end LiveShell.Completion
