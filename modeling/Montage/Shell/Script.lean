/-!
Shell scripts: commands in a row, joined by pipes and by what happened before, their output
redirected.
-/

namespace Montage.Shell

/-- A piece of an argument. -/
inductive Piece where
  | character (value : Char)
  /-- A parameter, whose value takes its place. -/
  | parameter (name : String)
  deriving DecidableEq, Repr

/-- An argument as it is written. One that is quoted stands even if nothing is in it. -/
structure Argument where
  pieces : List Piece
  quoted : Bool
  deriving DecidableEq, Repr

/-- Where the bytes of a command go. -/
inductive Channel where
  | output
  | errors
  | nowhere
  deriving DecidableEq, Repr

/-- A redirection: what goes to one channel goes where another one leads. -/
structure Redirection where
  source : Channel
  target : Channel
  deriving DecidableEq, Repr

/-- A script. -/
inductive Script where
  | nothing
  | command (arguments : List Argument)
  | pipe (first second : Script)
  /-- The second one if the first succeeds. -/
  | both (first second : Script)
  /-- The second one if the first fails. -/
  | either (first second : Script)
  | sequence (first second : Script)
  | redirected (body : Script) (redirections : List Redirection)
  | subshell (body : Script)
  | loop (name : String) (values : List Argument) (body : Script)
  deriving Repr

/-- Why a text is no script. -/
inductive Complaint where
  | unterminated
  | unexpected (mark : String)
  | unexpectedEnd
  deriving DecidableEq, Repr

/-- The wording of a complaint. -/
def Complaint.message : Complaint → String
  | unterminated => "Syntax error: Unterminated quoted string"
  | unexpected mark =>
    "Syntax error: " ++ (if mark == "\n" then "newline" else "\"" ++ mark ++ "\"") ++ " unexpected"
  | unexpectedEnd => "Syntax error: end of file unexpected"

/-! ### Tokens -/

/-- A token of a script. -/
inductive Token where
  | argument (argument : Argument)
  | mark (text : String)
  | redirection (redirection : Redirection)
  deriving DecidableEq, Repr

/-- How an argument goes on at some place. -/
inductive Quoting where
  | bare
  | single
  | double
  deriving DecidableEq, Repr

/-- A character of the names of parameters. -/
def isNameCharacter (character : Char) : Bool :=
  character.isAlphanum || character == '_'

/-- The parameter whose name starts here, after the dollar sign, and what follows it. -/
def takeParameter? : List Char → Option (String × List Char)
  | '$' :: rest => some ("$", rest)
  | '?' :: rest => some ("?", rest)
  | '\x7b' :: rest =>
    match rest.dropWhile (· != '\x7d') with
    | _ :: after => some (String.ofList (rest.takeWhile (· != '\x7d')), after)
    | [] => none
  | rest =>
    match rest.takeWhile isNameCharacter with
    | [] => none
    | name => some (String.ofList name, rest.dropWhile isNameCharacter)

/-- A character that ends a bare argument. -/
def endsArgument (character : Char) : Bool :=
  " \t\n;|&()<>".toList.contains character

/-- The pieces of an argument, whether something of it is quoted, and what follows it. -/
def takeArgument : Nat → Quoting → List Char → Except Complaint (Argument × List Char)
  | 0, _, text => .ok (⟨[], false⟩, text)
  | _ + 1, .bare, [] => .ok (⟨[], false⟩, [])
  | _ + 1, _, [] => .error .unterminated
  | fuel + 1, quoting, character :: rest =>
    let add := fun (piece : Piece) (rest : List Char) =>
      (takeArgument fuel quoting rest).map fun (argument, rest) =>
        (Argument.mk (piece :: argument.pieces) argument.quoted, rest)
    let switch := fun (quoting : Quoting) (rest : List Char) =>
      (takeArgument fuel quoting rest).map fun (argument, rest) =>
        (Argument.mk argument.pieces true, rest)
    match quoting, character, rest with
    | .single, '\'', _ => switch .bare rest
    | .single, _, _ => add (.character character) rest
    | .double, '"', _ => switch .bare rest
    | .bare, '"', _ => switch .double rest
    | .bare, '\'', _ => switch .single rest
    | _, '\\', '\n' :: rest => takeArgument fuel quoting rest
    | .bare, '\\', next :: rest =>
      (add (.character next) rest).map fun (argument, rest) =>
        ({ argument with quoted := true }, rest)
    | .double, '\\', next :: after =>
      if "$\x60\"\\".toList.contains next then add (.character next) after
      else add (.character '\\') rest
    | _, '$', _ =>
      match takeParameter? rest with
      | some (name, rest) => add (.parameter name) rest
      | none => add (.character '$') rest
    | .bare, _, _ =>
      if endsArgument character then .ok (⟨[], false⟩, character :: rest)
      else add (.character character) rest
    | .double, _, _ => add (.character character) rest

/-- The character that a piece is. -/
def Piece.character? : Piece → Option Char
  | character value => some value
  | parameter _ => none

/-- The text of an argument that is only characters. -/
def Argument.plain? (argument : Argument) : Option String :=
  (argument.pieces.mapM Piece.character?).map String.ofList

/-- The channel that a number names. -/
def channelOf (digit : Char) : Channel :=
  if digit == '1' then .output else if digit == '2' then .errors else .nowhere

/-- The channel that a path leads to. What goes into a file is seen no more. -/
def channelAt (path : Option String) : Channel :=
  match path with
  | some "/dev/stdout" => .output
  | some "/dev/stderr" => .errors
  | _ => .nowhere

/-- Where a redirection goes, and what follows it. -/
def takeTarget : List Char → Except Complaint (Channel × List Char)
  | '&' :: digit :: rest => .ok (channelOf digit, rest)
  | text =>
    let text := (text.dropWhile (· == '>')).dropWhile (· == ' ')
    (takeArgument (text.length + 1) .bare text).map fun (path, rest) =>
      (channelAt path.plain?, rest)

/-- The tokens of a script. -/
def tokens : Nat → List Char → Except Complaint (List Token)
  | 0, _ => .ok []
  | fuel + 1, text =>
    let mark := fun (mark : String) (rest : List Char) =>
      (tokens fuel rest).map (Token.mark mark :: ·)
    let redirect := fun (source : Channel) (rest : List Char) => do
      let (target, rest) ← takeTarget rest
      return Token.redirection ⟨source, target⟩ :: (← tokens fuel rest)
    match text with
    | [] => .ok []
    | '\\' :: '\n' :: rest => tokens fuel rest
    | '#' :: rest => tokens fuel (rest.dropWhile (· != '\n'))
    | '&' :: '&' :: rest => mark "&&" rest
    | '|' :: '|' :: rest => mark "||" rest
    | '1' :: '>' :: rest => redirect .output rest
    | '2' :: '>' :: rest => redirect .errors rest
    | '>' :: rest => redirect .output rest
    | '<' :: rest => do
      let (_, rest) ← takeTarget rest
      tokens fuel rest
    | character :: rest =>
      if character == ' ' || character == '\t' then tokens fuel rest
      else if endsArgument character then mark character.toString rest
      else do
        let (argument, rest) ← takeArgument (text.length + 1) .bare text
        return Token.argument argument :: (← tokens fuel rest)

/-! ### Reading -/

/-- A reader of scripts, which takes tokens from the front. -/
abbrev Reader := StateT (List Token) (Except Complaint)

namespace Reader

/-- The mark or the bare word that comes next. -/
def next? : Reader (Option String) := do
  match ← get with
  | .mark text :: _ => return some text
  | .argument argument :: _ => return if argument.quoted then none else argument.plain?
  | _ => return none

/-- Leaves the next token out. -/
def skip : Reader Unit := modify (List.drop 1)

/-- Nothing more can be read here. -/
def fail {β : Type} : Reader β := do
  match ← get with
  | .mark text :: _ => throw (.unexpected text)
  | .argument argument :: _ => throw (.unexpected (argument.plain?.getD ""))
  | .redirection _ :: _ => throw (.unexpected ">")
  | [] => throw .unexpectedEnd

/-- A mark or a bare word that has to come next. -/
def expect (text : String) : Reader Unit := do
  if (← next?) == some text then skip else fail

/-- Leaves marks out that end a command. -/
def skipEnds : Reader Unit :=
  modify (List.dropWhile fun token => token == .mark ";" || token == .mark "\n")

/-- The arguments and the redirections that come next. -/
def simple : Reader (List Argument × List Redirection) := do
  let isPart : Token → Bool := fun
    | .mark _ => false
    | _ => true
  let parts := (← get).takeWhile isPart
  modify (List.dropWhile isPart)
  return (
    parts.filterMap fun | .argument argument => some argument | _ => none,
    parts.filterMap fun | .redirection redirection => some redirection | _ => none)

/-- Words and marks at which a row of commands ends. -/
def closers : List String := [")", "\x7d", "do", "done"]

/-- The redirections that come next, on a script. -/
def finish (body : Script) : Reader Script := do
  match ← simple with
  | ([], []) => return body
  | ([], redirections) => return .redirected body redirections
  | (argument :: _, _) => throw (.unexpected (argument.plain?.getD ""))

mutual

/-- A row of commands. -/
def row : Nat → Reader Script
  | 0 => fail
  | fuel + 1 => do
    let first ← chain fuel
    let before ← get
    skipEnds
    if (← get).isEmpty || ((← next?).any closers.contains) then return first
    else if before == (← get) then fail
    else return .sequence first (← row fuel)

/-- Commands joined by what happened before. -/
def chain : Nat → Reader Script
  | 0 => fail
  | fuel + 1 => do links fuel (← pipeline fuel)

/-- A command with those that are joined to it. -/
def links : Nat → Script → Reader Script
  | 0, _ => fail
  | fuel + 1, first => do
    match ← next? with
    | some "&&" =>
      skip
      links fuel (.both first (← pipeline fuel))
    | some "||" =>
      skip
      links fuel (.either first (← pipeline fuel))
    | _ => return first

/-- Commands with pipes between them. -/
def pipeline : Nat → Reader Script
  | 0 => fail
  | fuel + 1 => do
    let first ← command fuel
    if (← next?) == some "|" then
      skip
      return .pipe first (← pipeline fuel)
    else return first

/-- One command. -/
def command : Nat → Reader Script
  | 0 => fail
  | fuel + 1 => do
    match ← next? with
    | some "(" =>
      skip
      let body ← row fuel
      expect ")"
      finish (.subshell body)
    | some "\x7b" =>
      skip
      let body ← row fuel
      expect "\x7d"
      finish body
    | some "for" =>
      skip
      let name := (← next?).getD ""
      skip
      expect "in"
      let (values, _) ← simple
      skipEnds
      expect "do"
      let body ← row fuel
      expect "done"
      finish (.loop name values body)
    | next =>
      if next.any closers.contains then fail
      match ← simple with
      | ([], []) => fail
      | (arguments, []) => return .command arguments
      | (arguments, redirections) => return .redirected (.command arguments) redirections

end

end Reader

/-- The script that a text writes. -/
def Script.read (text : String) : Except Complaint Script := do
  let characters := text.toList
  let tokens ← tokens (characters.length + 1) characters
  let reader : Reader Script := do
    Reader.skipEnds
    if (← get).isEmpty then return .nothing
    let script ← Reader.row (6 * tokens.length + 6)
    if (← get).isEmpty then return script else Reader.fail
  (reader.run tokens).map Prod.fst

end Montage.Shell
