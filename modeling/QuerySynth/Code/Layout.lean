/-! # Layout of code

A layout is a tree of texts, breaks and groups. A group that fits the line keeps its breaks as
blanks; in a group that does not, all breaks become line ends when it is consistent, otherwise
those whose next piece does not fit. The width of a text is its number of bytes.
-/

namespace QuerySynth.Code

/-- A place where a line may end. -/
structure Break where
  /-- How the next line is indented, relative to the group. -/
  offset : Int := 0
  /-- The blanks in place of a line end. -/
  blank : Nat := 0
  /-- What stands before a line end. -/
  before : Option Char := none
  /-- What stands after a line end. -/
  after : Option Char := none
  /-- What stands in place of a line end. -/
  instead : Option Char := none
  /-- A break that goes when it is the last of its group. -/
  ifNonempty : Bool := false
  /-- A break that never becomes a line end. -/
  never : Bool := false
deriving DecidableEq, Repr

/-- A tree of texts, breaks and groups. -/
inductive Layout where
  | text (text : String)
  | brk (brk : Break)
  /-- Nothing, but too wide for any line. -/
  | wide
  | group (offset : Int) (consistent : Bool) (content : List Layout)
deriving Repr, Inhabited

namespace Layout

def lineWidth : Int := 89

/-- The width that deep indentation leaves. -/
def leastWidth : Int := 60

def step : Int := 4

/-- A width that no line has. -/
def infinite : Nat := 0xffff

/-- The widest message literal on one line, up to its closing brace. -/
def recordWidth : Nat := 34

/-- A break without blank. -/
def zero : List Layout := [.brk {}]

def space : List Layout := [.brk { blank := 1 }]

def hard : List Layout := [.brk { blank := infinite }]

/-- A break that stays on its line. -/
def never : List Layout := [.brk { never := true }]

def word (text : String) : List Layout := [.text text]

/-- A comma after an item; after the last one only at a line end. -/
def comma (last : Bool) : List Layout :=
  if last then [.brk { before := some ',' }] else [.text ",", .brk { blank := 1 }]

/-- A comma after a field; after the last one a blank or, at a line end, a comma. -/
def commaOrSpace (last : Bool) : List Layout :=
  if last then [.brk { blank := 1, before := some ',' }] else [.text ",", .brk { blank := 1 }]

/-- Move the line after the last break, when the content ends in one. -/
def shiftLast (shift : Int) (content : List Layout) : List Layout :=
  match content.getLast? with
  | some (.brk b) => content.dropLast ++ [.brk { b with offset := b.offset + shift }]
  | _ => content

/-- A group. A lone break makes no group, and a last break may go. -/
def grouped (offset : Int) (consistent : Bool) (content : List Layout) : List Layout :=
  match content with
  | [.brk _] => []
  | _ =>
    match content.getLast? with
    | some (.brk b) =>
      if b.ifNonempty then [.group offset consistent content.dropLast]
      else [.group offset consistent content]
    | _ => [.group offset consistent content]

/-- A group whose breaks end lines all together. -/
abbrev block (offset : Int) (content : List Layout) : List Layout := grouped offset true content

/-- A group whose breaks end lines one by one. -/
abbrev fill (offset : Int) (content : List Layout) : List Layout := grouped offset false content

mutual

def width : Layout → Nat
  | .text content => content.utf8ByteSize
  | .brk b => b.blank
  | .wide => infinite
  | .group _ _ content => widthAll content

def widthAll : List Layout → Nat
  | [] => 0
  | first :: rest => width first + widthAll rest

end

/-- The width up to the next break of a sequence; `tail` is what follows its end. -/
def reach (tail : Nat) : List Layout → Nat
  | [] => tail
  | .brk _ :: _ => 0
  | first :: rest => width first + reach tail rest

/-- A group that is too wide for one line beyond the limit for message literals. -/
def recordGroup (content : List Layout) : List Layout :=
  block step (if recordWidth < widthAll content then content ++ [.wide] else content)

/-- How the breaks of a group are printed. -/
inductive Frame where
  | flat
  | broken (consistent : Bool)
deriving DecidableEq, Repr

/-- The text so far, the room on the line, the indentation, and blanks not yet written. -/
structure Printer where
  text : String := ""
  room : Int := lineWidth
  indent : Int := 0
  pending : Nat := 0

namespace Printer

/-- Write the blanks that are due. -/
def settle (p : Printer) : Printer :=
  { p with text := p.text ++ String.ofList (List.replicate p.pending ' '), pending := 0 }

def write (p : Printer) (text : String) : Printer :=
  let p := p.settle
  { p with text := p.text ++ text, room := p.room - text.utf8ByteSize }

def stay (p : Printer) (b : Break) : Printer :=
  match b.instead with
  | some c =>
    { p with
      text := p.text.push c, pending := p.pending + b.blank, room := p.room - b.blank - 1 }
  | none => { p with pending := p.pending + b.blank, room := p.room - b.blank }

def endLine (p : Printer) (b : Break) : Printer :=
  let p := match b.before with
    | some c => let p := p.settle; { p with text := p.text.push c }
    | none => p
  let indent := p.indent + b.offset
  let p := { p with
    text := p.text.push '\n', pending := indent.toNat, room := max (lineWidth - indent) leastWidth }
  match b.after with
  | some c => let p := p.settle; { p with text := p.text.push c, room := p.room - 1 }
  | none => p

end Printer

/-- Whether a break stays on the line; `size` is its blank and what follows up to the next one. -/
def stays (frame : Frame) (b : Break) (size : Nat) (room : Int) : Bool :=
  b.never ||
    match frame with
    | .flat => true
    | .broken true => false
    | .broken false => size ≤ room

mutual

/-- Print one piece; `tail` is the width of what follows up to the next break. -/
def print (frame : Frame) (tail : Nat) (p : Printer) : Layout → Printer
  | .text content => p.write content
  | .wide => p.settle
  | .brk b => if stays frame b (b.blank + tail) p.room then p.stay b else p.endLine b
  | .group offset consistent content =>
    if p.room < widthAll content + tail then
      let done := printAll (.broken consistent) tail { p with indent := p.indent + offset } content
      { done with indent := p.indent }
    else printAll .flat tail p content

def printAll (frame : Frame) (tail : Nat) (p : Printer) : List Layout → Printer
  | [] => p
  | first :: rest => printAll frame tail (print frame (reach tail rest) p first) rest

end

def render (content : List Layout) : String :=
  (printAll (.broken false) 0 {} content).text

end Layout

end QuerySynth.Code
