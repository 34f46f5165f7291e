import RowSignals.Json.Basic
import RowSignals.Text.Blank

/-!
# Affirmative settings

Configuration authors write a flag as a boolean, a number or one of a few words. A flag that is
written in no such way, as a list or a mapping, says no; it is never an error.

* `isAffirmativeText`: the words that say yes.
* `isAffirmative`: the settings that say yes.
-/

namespace RowSignals

/-- Whether a text says yes: one of five words, in any case and with blanks around it. -/
def isAffirmativeText (s : String) : Bool :=
  ["yes", "true", "1", "y", "on"].contains
    (String.ofList ((Text.trim s.toList).map Char.toLower))

/-- Whether a setting says yes: true, a number other than zero, or a text that says yes. -/
def isAffirmative : Json → Bool
  | .bool b => b
  | .number n => n.toFloat != 0
  | .string s => isAffirmativeText s
  | _ => false

end RowSignals
