import CodeFolding.Regex.Basic
/-!
# Simple forms of regular expressions

Expressions are put together so that what adds nothing is left out. The forms matter for the size of
an expression, which is bounded, and not for what it matches.
-/
namespace CodeFolding.Regex

/-- Whether an expression takes no character, whatever it matches. -/
def takesNothing : Regex → Bool
  | nothing | anchor _ => true
  | chars _ => false
  | seq r s | alt r s => takesNothing r && takesNothing s
  | turns _ _ r | group r => takesNothing r

/-- The least number of characters that an expression takes, if each part of it can match. -/
def leastLength? : Regex → Option Nat
  | nothing | anchor _ => some 0
  | chars members => if members.isEmpty then none else some 1
  | seq r s => do return (← leastLength? r) + (← leastLength? s)
  | alt r s => do return min (← leastLength? r) (← leastLength? s)
  | turns least _ r => do return least * (← leastLength? r)
  | group r => leastLength? r

def andThen : Regex → Regex → Regex
  | nothing, s => s
  | r, nothing => r
  | r, s => seq r s

/-- An expression repeated. More than one turn is in vain if a turn takes no character. -/
def repeated (least : Nat) (most : Option Nat) (r : Regex) : Regex :=
  let (least, most) :=
    if r.takesNothing then (min least 1, some (min (most.getD 1) 1)) else (least, most)
  match least, most with
  | 0, some 0 => nothing
  | 1, some 1 => r
  | _, _ => turns least most r

/-! ## Alternatives -/

def alternatives : Regex → List Regex
  | alt r s => alternatives r ++ alternatives s
  | r => [r]

/-- The parts of an expression, one behind another. -/
def parts : Regex → List Regex
  | nothing => []
  | seq r s => parts r ++ parts s
  | r => [r]

/-- The only character that an expression matches, if it is made for one. -/
def single? : Regex → Option Char
  | chars members => members.single?
  | _ => none

/-- The text that an expression is made for, character by character. -/
def literal? (r : Regex) : Option Text :=
  if r.parts.isEmpty then none else r.parts.mapM single?

/-- The parts of an expression with the single characters next to each other in one part. -/
def factors (r : Regex) : List Regex :=
  (r.parts.splitBy fun r s => r.single?.isSome && s.single?.isSome).map fun rs =>
    rs.foldr andThen nothing

def hasGroup : Regex → Bool
  | group _ => true
  | nothing | chars _ | anchor _ => false
  | seq r s | alt r s => hasGroup r || hasGroup s
  | turns _ _ r => hasGroup r

/-- The first parts of two lists that agree. Groups can be told apart, so they never do. -/
def commonParts : List Regex → List Regex → List Regex
  | r :: rs, s :: ss => if r = s && !r.hasGroup then r :: commonParts rs ss else []
  | _, _ => []

/-- The sets of some expressions that are classes of characters: either all of them are made for one
character, or none of them is. -/
def classes? (rs : List Regex) : Option (List CharSet) :=
  let sets := rs.filterMap fun
    | chars members => some members
    | _ => none
  let singles := (rs.filter (·.single?.isSome)).length
  if sets.length = rs.length && (singles = 0 || singles = rs.length) then some sets else none

/-- One of two or more expressions, which are no alternatives themselves. -/
def oneOf (rs : List Regex) : Regex :=
  match classes? rs with
  | some sets => chars (sets.foldl (· ∪ ·) ∅)
  | none =>
    match rs.reverse with
    | last :: front => front.foldl (fun s r => alt r s) last
    | [] => chars ∅

/-- One of some expressions. What all of them begin with is taken out if each of them has more than
one part. -/
def ofAlternatives (rs : List Regex) : Regex :=
  match rs.flatMap alternatives with
  | [r] => r
  | rs =>
    if (classes? rs).isSome || rs.any (·.factors.length < 2) then oneOf rs
    else
      match rs.map factors with
      | fs :: rest =>
        let front := rest.foldl commonParts fs
        if front.isEmpty then oneOf rs
        else
          let behind := (fs :: rest).map fun fs => (fs.drop front.length).foldr andThen nothing
          (front.foldr andThen nothing).andThen (oneOf (behind.flatMap alternatives))
      | [] => oneOf rs

end CodeFolding.Regex
