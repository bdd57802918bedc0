import LedgerFlow.Number.Literal

/-!
# Options and arguments

Sorts the words of a command line into options and arguments.  A long option takes its value after
an equals sign or from the next word; flags of one letter may share a dash; two dashes alone end
the options.  A group of commands ends its own options at the first argument, a command takes
options and arguments in any order.
-/

namespace LedgerFlow
namespace CommandLine

/-- Why the words of a command line lead to no command. -/
inductive Refusal where
  /-- They are used wrongly. -/
  | misused
  /-- They ask for help. -/
  | helpWanted
  deriving DecidableEq, Repr

/-- An option that a command knows. -/
structure OptionRule where
  /-- The name, dashes included. -/
  name : String
  /-- The one letter that stands for a flag as well. -/
  letter : Option Char := none
  takesValue : Bool := true
  deriving DecidableEq, Repr

/-- A flag. -/
def OptionRule.flag (name : String) (letter : Option Char) : OptionRule :=
  { name, letter, takesValue := false }

/-- The flag that asks for help. -/
def helpRule : OptionRule := .flag "--help" none

/-- Words, sorted: options with their values, a flag without one, and arguments. -/
structure Words where
  options : List (String × Option String) := []
  arguments : List String := []
  deriving DecidableEq, Repr, Inhabited

namespace Words

def withOption (w : Words) (name : String) (value : Option String) : Words :=
  { w with options := (name, value) :: w.options }

def withArgument (w : Words) (word : String) : Words :=
  { w with arguments := word :: w.arguments }

def has (w : Words) (name : String) : Bool := w.options.any fun o => o.1 == name

/-- All values of an option. -/
def values (w : Words) (name : String) : List String :=
  w.options.filterMap fun o => if o.1 == name then o.2 else none

/-- The value of an option; of several the last. -/
def value? (w : Words) (name : String) : Option String := (w.values name).getLast?

end Words

/-- Whether a word is an option and not an argument. -/
def isOptionWord (word : String) : Bool :=
  match word.toList with
  | '-' :: _ :: _ => true
  | _ => false

/-- The name in a word, and the value after its equals sign. -/
def splitWord (word : String) : String × Option String :=
  let cs := word.toList
  let name := cs.takeWhile fun c => c != '='
  if name.length < cs.length then
    (String.ofList name, some (String.ofList (cs.drop (name.length + 1))))
  else (word, none)

/-- The rule of a name. -/
def rule? (rules : List OptionRule) (name : String) : Option OptionRule :=
  rules.find? fun r => r.name == name

/-- The names of the flags that share one dash. -/
def lettered? (rules : List OptionRule) (word : String) : Option (List String) :=
  (word.toList.drop 1).mapM fun c => (rules.find? fun r => r.letter == some c).map (·.name)

/-- Whether a word starts with two dashes. -/
def isLong (word : String) : Bool :=
  match word.toList with
  | '-' :: '-' :: _ => true
  | _ => false

/-- Sorts words by rules.  When arguments end the options, everything from the first argument on is
an argument. -/
def sortWords (rules : List OptionRule) (argumentsEnd : Bool) :
    List String → Except Refusal Words
  | [] => .ok {}
  | word :: rest =>
    if word == "--" then .ok { arguments := rest }
    else if !isOptionWord word then
      if argumentsEnd then .ok { arguments := word :: rest }
      else (sortWords rules argumentsEnd rest).map fun w => w.withArgument word
    else
      let (name, attached) := splitWord word
      match rule? rules name with
      | some r =>
        if r.takesValue then
          match attached, rest with
          | some v, rest =>
            (sortWords rules argumentsEnd rest).map fun w => w.withOption name (some v)
          | none, v :: rest =>
            (sortWords rules argumentsEnd rest).map fun w => w.withOption name (some v)
          | none, [] => .error .misused
        else if attached.isSome then .error .misused
        else (sortWords rules argumentsEnd rest).map fun w => w.withOption name none
      | none =>
        if isLong word then .error .misused
        else
          match lettered? rules word with
          | some names =>
            (sortWords rules argumentsEnd rest).map fun w =>
              names.foldr (fun name w => w.withOption name none) w
          | none => .error .misused

/-- Sorts words by rules and the flag that asks for help. -/
def readWords (rules : List OptionRule) (argumentsEnd : Bool) (words : List String) :
    Except Refusal Words := do
  let w ← sortWords (helpRule :: rules) argumentsEnd words
  if w.has helpRule.name then .error .helpWanted else pure w

end CommandLine
end LedgerFlow
