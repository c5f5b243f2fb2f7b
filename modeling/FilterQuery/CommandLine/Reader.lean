import FilterQuery.CommandLine.Level

namespace FilterQuery.CommandLine

/-! From words to commands.  A value that stands in a word of its own is only
looked at when the next option starts or the level ends. -/

inductive Word where
  | separator
  | long (name : String) (attached : Option String)
  | short (letter : Char) (attached : Option String)
  | plain (text : String)
deriving DecidableEq, Repr

/-- What follows the letter of an option is its value, with or without an equals
sign in front. -/
def attachedToLetter : List Char → Option String
  | [] => none
  | '=' :: text => some (String.ofList text)
  | text => some (String.ofList text)

/-- The value of a long option stands behind an equals sign. -/
def attachedToName (text : List Char) : Option String :=
  match text.dropWhile (· ≠ '=') with
  | [] => none
  | _ :: value => some (String.ofList value)

/-- A hyphen alone is a plain word. -/
def Word.ofText (text : String) : Word :=
  match text.toList with
  | ['-', '-'] => .separator
  | '-' :: '-' :: rest => .long (String.ofList (rest.takeWhile (· ≠ '='))) (attachedToName rest)
  | '-' :: letter :: rest => .short letter (attachedToLetter rest)
  | _ => .plain text

/-- The last option, as long as its value is not looked at. -/
inductive Pending where
  | nothing
  | awaiting (parameter : Parameter)
  | holding (parameter : Parameter) (text : String)
deriving DecidableEq, Repr

structure Progress where
  values : Values := {}
  pending : Pending := .nothing
deriving DecidableEq, Repr

namespace Progress

def isAwaiting (progress : Progress) : Bool :=
  match progress.pending with
  | .awaiting _ => true
  | _ => false

/-- Looks at the value of the last option. -/
def settle (progress : Progress) : Except Usage Values :=
  match progress.pending with
  | .nothing => .ok progress.values
  | .awaiting _ => .error .missingValue
  | .holding parameter text => progress.values.add parameter text

/-- Starts an option; a value that is attached is looked at at once. -/
def start (progress : Progress) (parameter : Parameter) (attached : Option String) :
    Except Usage Progress := do
  let values ← progress.settle
  match attached with
  | none => .ok { values, pending := .awaiting parameter }
  | some text => do
      let values ← values.add parameter text
      .ok { values }

/-- A request ends the reading. -/
def answer (progress : Progress) (request : Usage) : Except Usage Progress := do
  let _ ← progress.settle
  .error request

/-- An option by its name.  Requests take no value. -/
def long (progress : Progress) (level : Level) (name : String) (attached : Option String) :
    Except Usage Progress :=
  match level.longSwitch? name, attached with
  | none, _ => .error (.unknownArgument name)
  | some (.request _), some _ => .error .unexpectedValue
  | some (.request request), none => progress.answer request
  | some (.parameter parameter), attached => progress.start parameter attached

/-- An option by its letter.  Further letters behind a request are not read. -/
def short (progress : Progress) (level : Level) (letter : Char) (attached : Option String) :
    Except Usage Progress :=
  match level.shortSwitch? letter with
  | none => .error (.unknownArgument letter.toString)
  | some (.request request) => progress.answer request
  | some (.parameter parameter) => progress.start parameter attached

/-- A word that is no option is the value that the last option waits for. -/
def plain (progress : Progress) (level : Level) (text : String) : Except Usage Progress :=
  match progress.pending with
  | .awaiting parameter => .ok { progress with pending := .holding parameter text }
  | _ => .error (level.strayWord text)

end Progress

/-- Help may be asked for with the name of one subcommand. -/
def helpOn : List String → Usage
  | [] => .help
  | word :: words =>
      if !Level.isSubcommandWord word then .unknownSubcommand word
      else match words with
        | [] => .help
        | other :: _ => .unknownSubcommand other

/-- The subcommand that a word names, with the words behind it. -/
structure Entry where
  subcommand : Subcommand
  words : List String
deriving DecidableEq, Repr

/-- Reads the words of a level, up to the name of a subcommand on the first. -/
def readLevel (level : Level) (progress : Progress) :
    List String → Except Usage (Progress × Option Entry)
  | [] => .ok (progress, none)
  | word :: words =>
      if level = .program && !progress.isAwaiting && word = "help" then
        .error (helpOn words)
      else
        match if level = .program && !progress.isAwaiting then Subcommand.ofName? word
          else none with
        | some subcommand => .ok (progress, some ⟨subcommand, words⟩)
        | none =>
            match Word.ofText word with
            | .separator =>
                match words with
                | [] => .ok (progress, none)
                | stray :: _ => .error (level.strayBehindSeparator stray)
            | .long name attached => do
                readLevel level (← progress.long level name attached) words
            | .short letter attached => do
                readLevel level (← progress.short level letter attached) words
            | .plain text => do
                readLevel level (← progress.plain level text) words

/-- Options are taken from the subcommand, then from the program, and then from
the environment, which is looked at on both levels for what is not given
there. -/
def parse (environment : String → Option String) (words : List String) :
    Except Usage (Options × Command) := do
  let (program, entry) ← readLevel .program {} words
  match entry with
  | none =>
      let given ← program.settle
      let completed ← given.complete environment
      .error (if completed = {} then .nothingGiven else .missingSubcommand)
  | some entry =>
      let (inner, _) ← readLevel (.subcommand entry.subcommand) {} entry.words
      let given ← inner.settle
      let completed ← given.complete environment
      match entry.subcommand.command? given with
      | none => .error .missingParameter
      | some command =>
          let outer ← program.settle
          let _ ← outer.complete environment
          .ok ((given.options.or outer.options).or completed.options, command)

end FilterQuery.CommandLine
