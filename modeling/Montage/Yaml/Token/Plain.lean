import Montage.Yaml.Character

/-!
Scalars without quotes. They end before a comment, a colon that starts a value, what ends them in
a flow, and a line that is indented less than they have to be.
-/

namespace Montage.Yaml

/-- The flow indicators that end a plain scalar in a flow. -/
def flowEnds : List Char := [',', '?', '[', ']', '{', '}']

/-- The flow indicators before which a colon starts a value. -/
def afterColon : List Char := [',', '[', ']', '{', '}']

/-- A plain scalar or a gap in it ends before this character and what follows it. -/
def endsRun (inFlow : Bool) (character : Char) (rest : List Char) : Bool :=
  isGap character || isBreak character ||
    (character == ':' && (atWordEnd rest || (inFlow && rest.head?.any afterColon.contains))) ||
    (inFlow && flowEnds.contains character)

/-- The characters of a plain scalar up to the next gap, and what follows them. -/
def takeRun (inFlow : Bool) : List Char → List Char × List Char
  | [] => ([], [])
  | character :: rest =>
    if endsRun inFlow character rest then ([], character :: rest)
    else
      let (run, left) := takeRun inFlow rest
      (character :: run, left)

/-- A gap between the runs of a plain scalar. -/
structure PlainGap where
  /-- What the gap is folded to. -/
  folded : List Char
  rest : List Char
  /-- The spaces before what follows, if a line ended in the gap. -/
  column : Option Nat
  deriving DecidableEq, Repr

/-- The empty lines here, with the spaces seen so far in this line. They end at a division of
documents, which is shown by the last part. -/
def takePlainLines (column : Nat) : List Char → List Char × Nat × List Char × Bool
  | [] => ([], column, [], false)
  | character :: rest =>
    if character == ' ' then takePlainLines (column + 1) rest
    else if isBreak character then
      if atDivision rest then ([], 0, rest, true)
      else
        let (breaks, after) := takePlainLines 0 rest
        (breakValue character :: breaks, after)
    else ([], column, character :: rest, false)

/-- The gap that the text starts with. -/
def takePlainGap (text : List Char) : PlainGap :=
  let spaces := text.takeWhile (· == ' ')
  match text.dropWhile (· == ' ') with
  | [] => ⟨spaces, [], none⟩
  | character :: rest =>
    if !isBreak character then ⟨spaces, character :: rest, none⟩
    else if atDivision rest then ⟨[], rest, some 0⟩
    else
      match takePlainLines 0 rest with
      | (_, column, rest, true) => ⟨[], rest, some column⟩
      | (breaks, column, rest, false) =>
        let first := if breakValue character != '\n' then [character]
          else if breaks.isEmpty then [' '] else []
        ⟨first ++ breaks, rest, some column⟩

/-- A gap after which a plain scalar does not go on. -/
def PlainGap.ends (gap : PlainGap) (inFlow : Bool) (indent : Int) : Bool :=
  gap.folded.isEmpty || gap.rest.head? == some '#' ||
    (!inFlow && gap.column.any fun column => (column : Int) < indent)

/-- A plain scalar and what follows the gap after it. -/
structure PlainScalar where
  text : List Char
  rest : List Char
  /-- A line ended in the gap after the scalar. -/
  endsLine : Bool
  deriving DecidableEq, Repr

private def takeRuns (inFlow : Bool) (indent : Int) : Nat → List Char → PlainScalar
  | 0, text => ⟨[], text, false⟩
  | fuel + 1, text =>
    match takeRun inFlow text with
    | ([], _) => ⟨[], text, false⟩
    | (run, after) =>
      let gap := takePlainGap after
      let stop : PlainScalar := ⟨run, gap.rest, gap.column.isSome⟩
      if gap.ends inFlow indent then stop
      else
        let more := takeRuns inFlow indent fuel gap.rest
        if more.text.isEmpty then stop
        else { more with text := run ++ gap.folded ++ more.text }

/-- The plain scalar that the text starts with. After a line end it has to be indented so far,
unless it is in a flow. -/
def takePlain (inFlow : Bool) (indent : Int) (text : List Char) : PlainScalar :=
  takeRuns inFlow indent (text.length + 1) text

end Montage.Yaml
