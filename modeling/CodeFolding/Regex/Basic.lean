import CodeFolding.Text.Basic
import CodeFolding.Unicode.Property
/-!
# Regular expressions

An expression takes a set of positions in a text to the set of positions that it can reach from
them. It matches the text if it reaches anything from anywhere. A set of positions is a number whose
bits are the members.
-/
namespace CodeFolding

/-- What has to stand on the two sides of a position at a boundary of words. -/
inductive Boundary where
  | edge
  | noEdge
  | start
  | finish
  /-- No word in front. -/
  | startHalf
  /-- No word behind. -/
  | finishHalf
deriving DecidableEq, Repr

/-- A condition on a position that takes no character. -/
inductive Anchor where
  | textStart
  | textEnd
  /-- The start of a line. Carriage returns may end lines, too. -/
  | lineStart (returns : Bool)
  | lineEnd (returns : Bool)
  /-- A boundary of words, which may be words of ASCII. -/
  | word (boundary : Boundary) (ascii : Bool)
deriving DecidableEq, Repr

inductive Regex where
  /-- Takes no character. -/
  | nothing
  /-- Takes one of some characters. -/
  | chars (members : CharSet)
  | anchor (a : Anchor)
  | seq (r s : Regex)
  | alt (r s : Regex)
  /-- Takes at least and at most some numbers of turns. -/
  | turns (least : Nat) (most : Option Nat) (r : Regex)
  /-- A group that can be told apart in a match. -/
  | group (r : Regex)
deriving DecidableEq

def asciiWord : CharSet := .ofRanges [(0x30, 0x39), (0x41, 0x5A), (0x5F, 0x5F), (0x61, 0x7A)]

/-- Whether a boundary lies between two sides, of which it is known whether they are words. -/
def Boundary.between (before behind : Bool) : Boundary → Bool
  | edge => before != behind
  | noEdge => before == behind
  | start => !before && behind
  | finish => before && !behind
  | startHalf => !before
  | finishHalf => !behind

/-- Whether a condition holds at a position. Between a carriage return and a line feed no line
starts or ends. -/
def Anchor.holds (s : Array Char) (a : Anchor) (i : Nat) : Bool :=
  let before := if i = 0 then none else s[i - 1]?
  let behind := s[i]?
  match a with
  | textStart => before.isNone
  | textEnd => behind.isNone
  | lineStart false => before.all (· == '\n')
  | lineStart true => before.all fun c => c == '\n' || (c == '\r' && behind != some '\n')
  | lineEnd false => behind.all (· == '\n')
  | lineEnd true => behind.all fun c => c == '\r' || (c == '\n' && before != some '\r')
  | word b ascii =>
    let members := if ascii then asciiWord else Property.word
    b.between (before.any members.contains) (behind.any members.contains)

/-- The numbers below a bound that pass a test, as bits. -/
def bitsWhere (test : Nat → Bool) : (bound : Nat) → Nat
  | 0 => 0
  | n + 1 => if test n then bitsWhere test n ||| 1 <<< n else bitsWhere test n

namespace Regex

/-- Takes a number of turns, or fewer if one more changes nothing. -/
def repeatTurns (turn : Nat → Nat) : (count : Nat) → Nat → Nat
  | 0, is => is
  | n + 1, is =>
    let js := turn is
    if js == is then is else repeatTurns turn n js

/-- The positions that an expression reaches from some positions. Where turns have no end, each one
reaches a new position or is the last, so there are no more of them than positions. -/
def ends (s : Array Char) : Regex → Nat → Nat
  | nothing, is => is
  | chars members, is =>
    bitsWhere (fun i => is.testBit i && (s[i]?).any members.contains) s.size <<< 1
  | anchor a, is => bitsWhere (fun i => is.testBit i && a.holds s i) (s.size + 1)
  | seq r t, is => ends s t (ends s r is)
  | alt r t, is => ends s r is ||| ends s t is
  | turns least most r, is =>
    repeatTurns (fun js => js ||| ends s r js) (most.elim (s.size + 1) (· - least))
      (repeatTurns (ends s r) least is)
  | group r, is => ends s r is

/-- Whether an expression matches some part of a text. -/
def matchesIn (r : Regex) (t : Text) : Bool :=
  let s := t.toArray
  ends s r (bitsWhere (fun _ => true) (s.size + 1)) != 0

end Regex

end CodeFolding
