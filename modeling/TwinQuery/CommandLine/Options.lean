/-
# Options of the command line

The arguments after the command are flags, options with a value, and words.
An option takes the next argument as its value, whatever it is; the last
value of an option counts. An option at the very end has no value and is a
word, and so is everything else.

Key definitions: `Options`, `Options.ofArguments`.
-/
import TwinQuery.Text.Basic

namespace TwinQuery

/-- The options with a value. -/
inductive ValueOption where
  | source
  | target
  | language
deriving DecidableEq

/-- The option of an argument, by its long or short name. -/
def ValueOption.ofText? (argument : Text) : Option ValueOption :=
  let names : List (Text × ValueOption) :=
    [("--from", .source), ("-f", .source), ("--to", .target), ("-t", .target),
     ("--language", .language), ("-l", .language)]
  names.lookup argument

/-- What the arguments of a command say. -/
structure Options where
  json : Bool := false
  localOnly : Bool := false
  source : Option Text := none
  target : Option Text := none
  language : Option Text := none
  words : List Text := []
deriving DecidableEq

namespace Options

/-- The options with a value put in. -/
def set (o : Options) (option : ValueOption) (value : Text) : Options :=
  match option with
  | .source => { o with source := some value }
  | .target => { o with target := some value }
  | .language => { o with language := some value }

/-- The options with a flag or a word put in. -/
def add (o : Options) (argument : Text) : Options :=
  if argument = Text.ofString "--json" then { o with json := true }
  else if argument = Text.ofString "--local" then { o with localOnly := true }
  else { o with words := o.words ++ [argument] }

/-- The options with further arguments put in. -/
def addAll : Options → List Text → Options
  | o, [] => o
  | o, [argument] => o.add argument
  | o, argument :: next :: rest =>
    match ValueOption.ofText? argument with
    | some option => addAll (o.set option next) rest
    | none => addAll (o.add argument) (next :: rest)

/-- What arguments say. -/
def ofArguments (arguments : List Text) : Options := addAll {} arguments

end Options

end TwinQuery
