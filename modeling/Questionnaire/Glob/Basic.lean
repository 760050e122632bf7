/-! # Globs

A glob is a pattern for file names. A question mark stands for one byte, a star for any number of
them, brackets for one of the bytes that they list, braces for one of the patterns between their
commas, and a backslash takes the character behind it as it is. Two stars that fill a part of a path
stand for any number of folders. `Glob.ofText` reads a glob one character at a time: `Reading.step`
takes what has been read so far and the next character. -/

namespace Questionnaire

/-- A set of characters between brackets, by its ranges. -/
structure Bracket where
  negated : Bool
  ranges : List (Char × Char)
deriving DecidableEq, Repr

/-- A piece of a glob. -/
inductive GlobToken where
  | literal (c : Char)
  | any
  | many
  /-- The folders before the rest of the pattern, or none. -/
  | leadingFolders
  /-- All that lies in the folder before. -/
  | contents
  /-- The folders between two parts of the pattern, or none. -/
  | innerFolders
  | bracket (set : Bracket)
  | either (alternatives : List (List GlobToken))

/-- Why a text is no glob. -/
inductive GlobFault where
  | unclosedBracket
  | emptyRange (low high : Char)
  | unopenedGroup
  | unclosedGroup
  | danglingEscape
deriving DecidableEq, Repr

namespace Glob

/-- What the next character is a part of. -/
inductive Mode where
  | plain
  | escape
  | star (before : Option Char)
  | stars (before : Option Char)
  | bracketStart
  /-- A bracket with its ranges, the last one first; `first` holds before any range has been read
  and `open` behind a hyphen that may make a range. -/
  | bracket (negated : Bool) (ranges : List (Char × Char)) (first rangeOpen : Bool)

/-- A group that is being read: its alternatives so far and the tokens before it, the last ones
first. -/
structure Group where
  alternatives : List (List GlobToken)
  before : List GlobToken

/-- What has been read of a glob: the tokens of the alternative at hand, the last one first, and
the groups around it. -/
structure Reading where
  mode : Mode
  previous : Option Char
  tokens : List GlobToken
  groups : List Group

namespace Reading

/-- Nothing has been read. -/
def start : Reading := ⟨.plain, none, [], []⟩

/-- One more token, with which its characters end. -/
def push (r : Reading) (token : GlobToken) : Reading :=
  { r with mode := .plain, tokens := token :: r.tokens }

/-! ### Groups -/

/-- The end of a group. -/
def closeGroup (r : Reading) : Except GlobFault Reading :=
  match r.groups with
  | [] => .error .unopenedGroup
  | group :: outer =>
    .ok { r with
      tokens := .either (r.tokens.reverse :: group.alternatives).reverse :: group.before
      groups := outer }

/-- A comma, which separates alternatives inside a group. -/
def comma (r : Reading) : Reading :=
  match r.groups with
  | [] => r.push (.literal ',')
  | group :: outer =>
    { r with
      tokens := []
      groups := ⟨r.tokens.reverse :: group.alternatives, group.before⟩ :: outer }

/-! ### Two stars -/

/-- Two stars within a name, where each stands for itself. -/
def plainStars (r : Reading) : Reading := (r.push .many).push .many

/-- Two stars that are no whole part of a path because of what stands before them. -/
def starsAdjoin (r : Reading) (before : Option Char) : Bool :=
  before != some '/' && (r.groups.isEmpty || (before != some ',' && before != some '{'))

/-- The folders of two stars, in place of the slash before them. -/
def pushFolders (r : Reading) (folders : GlobToken) : Reading :=
  match r.tokens with
  | .leadingFolders :: _ | .contents :: _ => { r with mode := .plain }
  | _ :: tokens => { r with mode := .plain, tokens := folders :: tokens }
  | [] => r.push folders

/-- Two stars with what stands before and behind them, and whether they take up the character
behind. -/
def endStars (r : Reading) (before next : Option Char) : Reading × Bool :=
  if r.tokens.isEmpty then
    match next with
    | none | some '/' => (r.push .leadingFolders, true)
    | _ => (r.plainStars, false)
  else if r.starsAdjoin before then (r.plainStars, false)
  else
    match next with
    | none => (r.pushFolders .contents, true)
    | some '/' => (r.pushFolders .innerFolders, true)
    | some c =>
      if !r.groups.isEmpty && (c = ',' || c = '}') then (r.pushFolders .contents, false)
      else (r.plainStars, false)

/-! ### Brackets -/

/-- The last range with another end. -/
def extendRange (c : Char) : List (Char × Char) → Except GlobFault (List (Char × Char))
  | [] => .ok [(c, c)]
  | (low, _) :: ranges => if c < low then .error (.emptyRange low c) else .ok ((low, c) :: ranges)

/-- A character between brackets. -/
def inBracket (r : Reading) (negated : Bool) (ranges : List (Char × Char)) (first rangeOpen : Bool)
    (c : Char) : Except GlobFault Reading :=
  if c = ']' && !first then
    let ranges := if rangeOpen then ('-', '-') :: ranges else ranges
    .ok (r.push (.bracket ⟨negated, ranges.reverse⟩))
  else if c = '-' && !first && !rangeOpen then
    .ok { r with mode := .bracket negated ranges false true }
  else if rangeOpen && c != ']' then do
    return { r with mode := .bracket negated (← extendRange c ranges) false false }
  else .ok { r with mode := .bracket negated ((c, c) :: ranges) false false }

/-! ### Characters -/

/-- A character outside brackets that is not behind a backslash. -/
def plainStep (r : Reading) (c : Char) : Except GlobFault Reading :=
  match c with
  | '?' => .ok (r.push .any)
  | '*' => .ok { r with mode := .star r.previous }
  | '[' => .ok { r with mode := .bracketStart }
  | '{' => .ok { r with tokens := [], groups := ⟨[], r.tokens⟩ :: r.groups }
  | '}' => r.closeGroup
  | ',' => .ok r.comma
  | '\\' => .ok { r with mode := .escape }
  | c => .ok (r.push (.literal c))

/-- A character by its mode. -/
def modeStep (r : Reading) (c : Char) : Except GlobFault Reading :=
  match r.mode with
  | .plain => r.plainStep c
  | .escape => .ok (r.push (.literal c))
  | .star before =>
    if c = '*' then .ok { r with mode := .stars before } else (r.push .many).plainStep c
  | .stars before =>
    let (r, taken) := r.endStars before (some c)
    if taken then .ok r else r.plainStep c
  | .bracketStart =>
    if c = '!' ∨ c = '^' then .ok { r with mode := .bracket true [] true false }
    else r.inBracket false [] true false c
  | .bracket negated ranges first rangeOpen => r.inBracket negated ranges first rangeOpen c

/-- The next character of a glob. -/
def step (r : Reading) (c : Char) : Except GlobFault Reading := do
  return { ← r.modeStep c with previous := some c }

/-- The end of the text, at which no group is open. -/
def closed (r : Reading) : Except GlobFault (List GlobToken) :=
  if r.groups.isEmpty then .ok r.tokens.reverse else .error .unclosedGroup

/-- The tokens of a glob at the end of its text. -/
def finish (r : Reading) : Except GlobFault (List GlobToken) :=
  match r.mode with
  | .plain => r.closed
  | .escape => .error .danglingEscape
  | .star _ => (r.push .many).closed
  | .stars before => (r.endStars before none).1.closed
  | .bracketStart | .bracket _ _ _ _ => .error .unclosedBracket

end Reading

/-- The tokens of a glob. -/
def ofText (text : String) : Except GlobFault (List GlobToken) := do
  (← text.toList.foldlM Reading.step .start).finish

end Glob

end Questionnaire
