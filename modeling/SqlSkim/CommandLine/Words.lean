import SqlSkim.CommandLine.Usage
import SqlSkim.Text.Similarity

/-!
# `CommandLine.Words` — options and operands

The words of a command line are options, their values and operands. `--` ends the options.

## Contents
- `OptionKind`, `Grammar`, `Level.grammar`: the options of a level.
- `readWords`: the options and operands of a list of words.
- `Words.value?`, `Words.has`: what an option was given.
-/

namespace SqlSkim

/-- Whether an option takes a value. -/
inductive OptionKind where
  | flag
  | valued
  deriving DecidableEq

/-- The options of a level. -/
structure Grammar where
  /-- The options with their names. -/
  long : List (Text × OptionKind)
  /-- The flags of one letter, with the option that each stands for. -/
  short : List (Char × Text)
  /-- Whether options may follow operands. -/
  interspersed : Bool

def versionOption : Text := "--version".toList
def verboseOption : Text := "--verbose".toList
def helpOption : Text := "--help".toList
def stdinOption : Text := "--from-stdin".toList
def formatOption : Text := "--format".toList
def configOption : Text := "--config".toList

/-- The options of a level. -/
def Level.grammar : Level → Grammar
  | .program =>
    ⟨[(versionOption, .flag), (verboseOption, .flag), (helpOption, .flag)],
      [('v', verboseOption)], false⟩
  | .command _ =>
    ⟨[(stdinOption, .flag), (formatOption, .valued), (configOption, .valued), (helpOption, .flag)],
      [], true⟩

/-- The options given, in order, each with its value, and the operands. -/
structure Words where
  options : List (Text × Text) := []
  operands : List Text := []

/-- The words with one more option in front. -/
def Words.addOption (option value : Text) (w : Words) : Words :=
  { w with options := (option, value) :: w.options }

/-- The flags that a word of one-letter flags stands for. -/
def readShort (grammar : Grammar) : Text → Except UsageError (List Text)
  | [] => .ok []
  | c :: more =>
    match grammar.short.lookup c with
    | some option => (readShort grammar more).map (option :: ·)
    | none => .error (.unknownOption ['-', c] [])

/-- Whether a word is an option: it starts with a dash and has more than that. -/
def isOptionWord : Text → Bool
  | '-' :: _ :: _ => true
  | _ => false

/-- The name in an option word, and the value behind its `=`, if there is one. -/
def splitOption (word : Text) : Text × Option Text :=
  match word.dropWhile (· ≠ '=') with
  | [] => (word, none)
  | _ :: value => (word.takeWhile (· ≠ '='), some value)

/-- **The options and operands of a list of words.** -/
def readWords (grammar : Grammar) : List Text → Except UsageError Words
  | [] => .ok {}
  | word :: more =>
    if word = "--".toList then .ok { operands := more }
    else if !isOptionWord word then
      if grammar.interspersed then
        (readWords grammar more).map fun w => { w with operands := word :: w.operands }
      else .ok { operands := word :: more }
    else
      let (name, value) := splitOption word
      match grammar.long.lookup name, value with
      | some .flag, none => (readWords grammar more).map (Words.addOption name [])
      | some .flag, some _ => .error (.unexpectedValue name)
      | some .valued, some value => (readWords grammar more).map (Words.addOption name value)
      | some .valued, none =>
        match more with
        | value :: after => (readWords grammar after).map (Words.addOption name value)
        | [] => .error (.missingValue name)
      | none, _ =>
        if "--".toList.isPrefixOf word then
          .error (.unknownOption name (closeMatches (grammar.long.map (·.1)) name))
        else match readShort grammar word.tail with
          | .error e => .error e
          | .ok flags =>
            (readWords grammar more).map fun w => flags.foldr (Words.addOption · []) w

namespace Words

/-- Whether an option is given. -/
def has (w : Words) (option : Text) : Bool := w.options.any (·.1 = option)

/-- The value given to an option. The last one counts. -/
def value? (w : Words) (option : Text) : Option Text :=
  (w.options.filter (·.1 = option)).getLast?.map (·.2)

/-- The options that are given, each once, in the order in which they are first given. -/
def given (w : Words) : List Text := (w.options.map (·.1)).eraseDups

end Words

end SqlSkim
