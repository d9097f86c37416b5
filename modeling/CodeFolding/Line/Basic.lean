import CodeFolding.Text.Basic
/-!
# Lines

A text is cut into lines behind every line feed. A carriage return in front of the line feed, or at
the very end of the text, belongs to the terminator and not to the content, so both conventions for
ending a line give the same contents. Main statement: contents and terminators, one after the
other, are the text (`flatMap_whole_ofText`).
-/
namespace CodeFolding

/-- A line of a text: the offset of its first byte, its content and its terminator. -/
structure Line where
  start : Nat
  text : Text
  ending : Text
deriving DecidableEq, Repr

namespace Line

/-- Offset just behind the content. -/
def stop (l : Line) : Nat := l.start + Text.size l.text

/-- Content and terminator. -/
def whole (l : Line) : Text := l.text ++ l.ending

/-- A finished line. Its characters come last first; `feed` is the line feed, if there is one. -/
def finish (start : Nat) (reversed feed : Text) : Line :=
  match reversed with
  | '\r' :: rest => ⟨start, rest.reverse, '\r' :: feed⟩
  | _ => ⟨start, reversed.reverse, feed⟩

/-- Reads the rest of a text. The running line starts at `start` and holds `reversed` so far. Text
that ends in a line feed has no further line behind it. -/
def cut : Text → (start : Nat) → (reversed : Text) → Array Line → Array Line
  | [], start, reversed, done =>
    if reversed.isEmpty && !done.isEmpty then done else done.push (finish start reversed [])
  | c :: rest, start, reversed, done =>
    if c = '\n' then
      cut rest (start + Text.size reversed + 1) [] (done.push (finish start reversed ['\n']))
    else cut rest start (c :: reversed) done

/-- The lines of a text; the empty text has one. -/
def ofText (t : Text) : Array Line := cut t 0 [] #[]

theorem whole_finish (start : Nat) (reversed feed : Text) :
    (finish start reversed feed).whole = reversed.reverse ++ feed := by
  unfold finish
  split <;> simp [whole]

theorem flatMap_whole_cut (t : Text) (start : Nat) (reversed : Text) (done : Array Line) :
    (cut t start reversed done).toList.flatMap whole =
      done.toList.flatMap whole ++ reversed.reverse ++ t := by
  induction t generalizing start reversed done with
  | nil =>
    rw [cut]
    split
    · next h => simp_all
    · simp [whole_finish]
  | cons c rest ih =>
    rw [cut]
    split
    · next h => subst h; simp [ih, whole_finish]
    · simp [ih]

theorem flatMap_whole_ofText (t : Text) : (ofText t).toList.flatMap whole = t := by
  simp [ofText, flatMap_whole_cut]

end Line

/-! ## Ranges of lines -/

/-- The lines from `first` to `last`, both included and counted from 0. -/
structure LineRange where
  first : Nat
  last : Nat
deriving DecidableEq, Repr

namespace LineRange

/-- A range that ends in front of its first line holds no line. -/
def isEmpty (r : LineRange) : Bool := r.last < r.first

/-- Two lines, too few for a block. -/
def isPair (r : LineRange) : Bool := r.first + 1 == r.last

def contains (r : LineRange) (line : Nat) : Bool := r.first ≤ line && line ≤ r.last

end LineRange

/-! ## Sources of lines

What the search for blocks reads. A source may know the content of a line and not its offset, or
run dry before its last line; a text cut into lines knows everything about every line it has. -/

/-- Lines by number, with the offsets of their first byte and of the byte behind their content. -/
structure LineReader where
  count : Nat
  text? : Nat → Option Text
  start? : Nat → Option Nat
  stop? : Nat → Option Nat

namespace LineReader

/-- A source whose lines end where their content does. -/
def measured (count : Nat) (text? : Nat → Option Text) (start? : Nat → Option Nat) :
    LineReader where
  count := count
  text? := text?
  start? := start?
  stop? i := do return (← start? i) + Text.size (← text? i)

/-- The lines of a cut text. -/
def ofLines (lines : Array Line) : LineReader where
  count := lines.size
  text? i := lines[i]?.map Line.text
  start? i := lines[i]?.map Line.start
  stop? i := lines[i]?.map Line.stop

def ofText (t : Text) : LineReader := ofLines (Line.ofText t)

/-- Puts up to `n` lines from `line` on in front of `read`, as long as they have content. The
result is in order if `read`, last line first, ends in front of `line`. -/
def readFrom (text? : Nat → Option Text) :
    (n line : Nat) → (read : List (Nat × Text)) → List (Nat × Text)
  | 0, _, read => read.reverse
  | n + 1, line, read =>
    match text? line with
    | none => read.reverse
    | some t => readFrom text? n (line + 1) ((line, t) :: read)

/-- The lines of a range with their numbers, up to the end of the source or to the first line
without content. -/
def run (src : LineReader) (r : LineRange) : List (Nat × Text) :=
  readFrom src.text? (min (r.last + 1) src.count - r.first) r.first []

end LineReader

end CodeFolding
