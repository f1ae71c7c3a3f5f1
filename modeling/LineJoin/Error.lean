import LineJoin.Numeral
import LineJoin.RuleSet.Registry

/-!
# Causes of failure

Every way in which choosing rules, joining, selecting lines, editing a document, running a command
or reading a setting can fail, each with the values that its wording needs. The wording is in one
place, `Error.message`.
-/

namespace LineJoin

/-- Why an operation has no result. -/
inductive Error
  /-- A declared delimiter that is no quote. -/
  | unsupportedDelimiter (delimiter ruleSet : Text)
  /-- A language that is neither a tag nor an alias. -/
  | unknownLanguage (language : Text)
  /-- A tag under which no rule set is registered. -/
  | unregisteredTag (tag : Text)
  /-- Both a rule set and a language were given. -/
  | rulesAndLanguage
  /-- There is nothing to join. -/
  | noLines
  /-- The scan of a text never ends, so that the text has no context. -/
  | endlessScan
  /-- A selection starts or ends before the first line. -/
  | negativeLine
  /-- A selection ends before it starts. -/
  | endBeforeStart (start stop : Nat)
  /-- A line range that is not one number or two. -/
  | invalidRange (raw : Text)
  /-- A line range with a number below one. -/
  | rangeBelowOne (raw : Text)
  /-- A line number that the document does not have. -/
  | lineOutside (index : Int) (count : Nat)
  /-- No command has this identifier. -/
  | unknownCommand (id : Text)
  /-- The command writes to a clipboard and none was given. -/
  | clipboardNeeded (id : Text)
  /-- There is something to write and no clipboard to write it to. -/
  | noClipboard
  /-- The clipboard refused the text. -/
  | clipboardUnavailable (reason : Text)
  /-- The port setting is not a number. -/
  | portNotInteger (raw : Text)
  deriving DecidableEq, Repr

namespace Error

open Numeral

/-- The words that report a failure. -/
def message : Error → Text
  | unsupportedDelimiter delimiter ruleSet =>
    "Unsupported string delimiter ".toList ++ Text.quoted delimiter ++ " in rule set '".toList
      ++ ruleSet ++ "'".toList
  | unknownLanguage language =>
    "Unknown language '".toList ++ language ++ "'. Available: ".toList
      ++ ", ".toList.intercalate RuleSet.tags
  | unregisteredTag tag => Text.quoted tag
  | rulesAndLanguage => "Pass either rules or language, not both".toList
  | noLines => "join_all() requires at least one line".toList
  | endlessScan => "The scan does not end".toList
  | negativeLine => "Selection lines must be non-negative".toList
  | endBeforeStart start stop =>
    "Selection end line ".toList ++ decimal stop ++ " is before start line ".toList
      ++ decimal start
  | invalidRange raw => "Invalid line range '".toList ++ raw ++ "'".toList
  | rangeBelowOne raw => "Line numbers start at 1, got '".toList ++ raw ++ "'".toList
  | lineOutside index count =>
    "Line ".toList ++ decimalInt index ++ " is outside the document (".toList ++ decimal count
      ++ " lines)".toList
  | unknownCommand id => Text.quoted id
  | clipboardNeeded id => "Command '".toList ++ id ++ "' needs a clipboard".toList
  | noClipboard => "There is no clipboard to write to".toList
  | clipboardUnavailable reason => "System clipboard unavailable: ".toList ++ reason
  | portNotInteger raw =>
    "CONTEXT_JOIN_PORT must be an integer, got '".toList ++ raw ++ "'".toList

end Error

end LineJoin
