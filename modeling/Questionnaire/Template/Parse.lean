import Questionnaire.Template.Segment

/-! # Taking templates apart

`Template.parse?` builds the nodes of a template from its segments. The blocks that are open are
kept as a stack of frames: an opening tag puts one on it, and a closing tag turns the topmost into a
node, if the names agree. An alternative with a condition of its own opens a further block that
closes with the one around it. -/

namespace Questionnaire.Template

/-- The name with which something that is open is closed. -/
def Opening.name? : Opening → Option String
  | .block head | .decoration head => some head.name
  | .inclusion other =>
    match other.name with
    | .literal (.str name) => some name
    | _ => none

/-- Something that is open: the body once an alternative has begun, and the nodes of the current
part, the last one first. -/
structure Frame where
  opening : Opening
  /-- The block is an alternative and closes with the block around it. -/
  chained : Bool
  body : Option (List Node)
  nodes : List Node

namespace Frame

/-- What has just been opened. -/
def opened (opening : Opening) (chained : Bool) : Frame := ⟨opening, chained, none, []⟩

/-- The template itself, before its first segment. -/
def outermost : Frame := opened (.block ⟨"", [], []⟩) false

/-- A frame with one more node. -/
def push (frame : Frame) (node : Node) : Frame := { frame with nodes := node :: frame.nodes }

/-- The node of a frame that is complete. -/
def close (frame : Frame) : Node :=
  match frame.opening, frame.body with
  | .block head, some body => .block head body (some frame.nodes.reverse)
  | .block head, none => .block head frame.nodes.reverse none
  | .inclusion inclusion, _ => .inclusion inclusion (some frame.nodes.reverse)
  | .decoration head, _ => .decoration head (some frame.nodes.reverse)

/-- The frame after the tag that begins the alternative, which only a block can have, and only one
of. -/
def alternative? (frame : Frame) : Option Frame :=
  match frame.opening, frame.body with
  | .block _, none => some { frame with body := some frame.nodes.reverse, nodes := [] }
  | _, _ => none

end Frame

/-- The frames after the closing tag of a block; the last frame is the template itself. -/
def closeBlock? (name : String) : List Frame → Option (List Frame)
  | frame :: outer :: rest =>
    if frame.chained then closeBlock? name (outer.push frame.close :: rest)
    else if frame.opening.name? = some name then some (outer.push frame.close :: rest)
    else none
  | _ => none
termination_by frames => frames.length

/-- The frames after a tag. -/
def addTag? (kind : TagKind) (frames : List Frame) : Option (List Frame) :=
  match kind, frames with
  | .comment, frames => some frames
  | .shows node, frame :: rest => some (frame.push node :: rest)
  | .includes inclusion, frame :: rest => some (frame.push (.inclusion inclusion none) :: rest)
  | .decorates head, frame :: rest => some (frame.push (.decoration head none) :: rest)
  | .opens opening, frames => some (.opened opening false :: frames)
  | .closes name, frames => closeBlock? name frames
  | .otherwise head, frame :: outer :: rest => do
    let frame ← frame.alternative?
    match head with
    | none => return frame :: outer :: rest
    | some head => return .opened (.block head) true :: frame :: outer :: rest
  | _, _ => none

/-- The frames after some segments. -/
def addSegments? (frames : List Frame) : List Segment → Option (List Frame)
  | [] => some frames
  | .text chars :: rest =>
    match frames with
    | frame :: outer => addSegments? (frame.push (.text chars) :: outer) rest
    | [] => none
  | .tag tag _ :: rest => do addSegments? (← addTag? tag.kind frames) rest

/-- The nodes of a template. -/
def parse? (template : String) : Option (List Node) := do
  let segments ← segments? template.toList
  match ← addSegments? [.outermost] (trimSegments false false segments) with
  | [frame] => some frame.nodes.reverse
  | _ => none

end Questionnaire.Template
