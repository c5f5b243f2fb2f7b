import FilterQuery.Dictionary
import FilterQuery.Text.Alphanumeric
import FilterQuery.Text.Basic

namespace FilterQuery.EnvironmentFile

/-! Files that set variables, one on a line: a name, an equals sign and a value,
in which quotes and backslashes keep characters from their meaning and a dollar
sign stands for the value of another variable. -/

/-- What the characters of a line have opened so far. -/
inductive LineState where
  | plain
  | blank
  | escaped
  | strong
  | strongEscaped
  | weak
  | weakEscaped
deriving DecidableEq, Repr

/-- A backslash, a quote or any other character outside quotes. -/
def LineState.outside (c : Char) : LineState :=
  if c = '\\' then .escaped
  else if c = '"' then .weak
  else if c = '\'' then .strong
  else .plain

/-- A character right behind a blank is never a blank for the next one. -/
def LineState.next (state : LineState) (c : Char) : LineState :=
  match state with
  | .plain =>
      if Text.isBlank c && c ≠ '\n' && c ≠ '\r' then .blank else outside c
  | .blank => outside c
  | .escaped => .plain
  | .strong => if c = '\\' then .strongEscaped else if c = '\'' then .plain else .strong
  | .strongEscaped => .strong
  | .weak => if c = '\\' then .weakEscaped else if c = '"' then .plain else .weak
  | .weakEscaped => .weak

/-- Lines with the line feeds that end them. -/
def physicalLines : List Char → List (List Char)
  | [] => []
  | c :: text =>
      if c = '\n' then
        ['\n'] :: physicalLines text
      else
        match physicalLines text with
        | [] => [[c]]
        | line :: lines => (c :: line) :: lines

/-- The characters in front of a comment, and the state at the end of the line
unless a comment ends it. -/
def scanLine (state : LineState) : List Char → List Char × Option LineState
  | [] => ([], some state)
  | c :: rest =>
      if state = .blank && c = '#' then
        ([], none)
      else
        let (kept, final) := scanLine (state.next c) rest
        (c :: kept, final)

/-- Joins lines as long as something is open; what is still open at the end is
dropped.  Lines that are comments are left out. -/
def joinLines (collected : List Char) (state : LineState) :
    List (List Char) → List (List Char)
  | [] => []
  | line :: lines =>
      if ((collected ++ line).dropWhile Text.isBlank).head? = some '#' then
        joinLines [] .plain lines
      else
        match scanLine state line with
        | (kept, none) | (kept, some .plain) =>
            (collected ++ kept) :: joinLines [] .plain lines
        | (kept, some state) => joinLines (collected ++ kept) state lines

/-- Where a value is being read. -/
inductive ValueState where
  | text (quoted : Bool)
  | escape (quoted : Bool)
  | strong
  | name (quoted : Bool) (name : List Char)
  | braced (quoted : Bool) (name : List Char)
  | ended

/-- A value, read to the end of its line.  Behind an unquoted blank only a comment
may follow. -/
def value? (valueOf : List Char → List Char) : ValueState → List Char → Option (List Char)
  | .text quoted, [] | .escape quoted, [] => if quoted then none else some []
  | .strong, [] | .braced _ _, [] => none
  | .name quoted name, [] => if quoted then none else some (valueOf name)
  | .ended, [] => some []
  | .text quoted, c :: rest =>
      if c = '$' then value? valueOf (.name quoted []) rest
      else if c = '\\' then value? valueOf (.escape quoted) rest
      else if c = '"' then value? valueOf (.text !quoted) rest
      else if c = '\'' && !quoted then value? valueOf .strong rest
      else if (c = ' ' || c = '\t') && !quoted then value? valueOf .ended rest
      else (value? valueOf (.text quoted) rest).map (c :: ·)
  | .escape quoted, c :: rest =>
      if c = 'n' then
        (value? valueOf (.text quoted) rest).map ('\n' :: ·)
      else if c = '\\' || c = '\'' || c = '"' || c = '$' || c = ' ' then
        (value? valueOf (.text quoted) rest).map (c :: ·)
      else
        none
  | .strong, c :: rest =>
      if c = '\'' then value? valueOf (.text false) rest
      else (value? valueOf .strong rest).map (c :: ·)
  | .name quoted name, c :: rest =>
      if Text.isAlphanumeric c then value? valueOf (.name quoted (name ++ [c])) rest
      else if c = '\x7b' && name = [] then value? valueOf (.braced quoted []) rest
      else if c = '$' then (value? valueOf (.name quoted []) rest).map (valueOf name ++ ·)
      else (value? valueOf (.text quoted) rest).map (valueOf name ++ c :: ·)
  | .braced quoted name, c :: rest =>
      if c = '\x7d' then (value? valueOf (.text quoted) rest).map (valueOf name ++ ·)
      else value? valueOf (.braced quoted (name ++ [c])) rest
  | .ended, c :: rest =>
      if c = ' ' || c = '\t' then value? valueOf .ended rest
      else if c = '#' then some []
      else none

def isNameStart (c : Char) : Bool :=
  c.isAlpha || c == '_'

def isNamePart (c : Char) : Bool :=
  c.isAlphanum || c == '_' || c == '.'

/-- A name and the text behind it and behind the blanks that follow. -/
def name? (text : List Char) : Option (List Char × List Char) :=
  if (text.head?.any isNameStart) then
    some (text.takeWhile isNamePart, (text.dropWhile isNamePart).dropWhile Text.isBlank)
  else
    none

/-- The word `export` in front of a name is skipped. -/
def assignment? (text : List Char) : Option (List Char × List Char) := do
  let (name, rest) ← name? text
  match rest with
  | '=' :: value => some (name, value)
  | rest =>
      if name = "export".toList then
        let (name, rest) ← name? rest
        match rest with
        | '=' :: value => some (name, value)
        | _ => none
      else
        none

/-- The name and the value that a line sets, if it sets any. -/
inductive Line where
  | nothing
  | assignment (name value : String)
deriving DecidableEq, Repr

def readLine? (valueOf : List Char → List Char) (line : List Char) : Option Line :=
  match Text.trim line with
  | [] => some .nothing
  | '#' :: _ => some .nothing
  | text => do
      let (name, value) ← assignment? text
      match value.dropWhile Text.isBlank with
      | [] => some (.assignment (String.ofList name) "")
      | '#' :: _ => some (.assignment (String.ofList name) "")
      | value =>
          let characters ← value? valueOf (.text false) value
          some (.assignment (String.ofList name) (String.ofList characters))

/-- A variable that is set already keeps its value.  Lines behind one that cannot
be read are not read. -/
def setLines (environment : Dictionary String) : List (List Char) → Dictionary String
  | [] => environment
  | line :: lines =>
      let valueOf (name : List Char) : List Char :=
        ((environment.find? (String.ofList name)).getD "").toList
      match readLine? valueOf line with
      | none => environment
      | some .nothing => setLines environment lines
      | some (.assignment name value) =>
          setLines (environment.insertNew name value).1 lines

/-- A byte order mark in front of the text is skipped. -/
def withoutMark : List Char → List Char
  | c :: text => if c.toNat = 0xFEFF then text else c :: text
  | [] => []

/-- Sets the variables of a file. -/
def load (environment : Dictionary String) (text : String) : Dictionary String :=
  setLines environment (joinLines [] .plain (physicalLines (withoutMark text.toList)))

/-- The names of variables that values in a text may refer to. -/
def references : List Char → List String
  | [] => []
  | '$' :: '\x7b' :: rest => String.ofList (rest.takeWhile (· ≠ '\x7d')) :: references rest
  | '$' :: rest => String.ofList (rest.takeWhile Text.isAlphanumeric) :: references rest
  | _ :: rest => references rest

end FilterQuery.EnvironmentFile
