import Triage.Pattern.CharSet

namespace Triage

/-! Patterns over texts. A pattern is looked for anywhere in a text; its edges
bind it to places. -/

/-- A place between two characters, told by its neighbours. -/
inductive Edge where
  | textStart
  | textEnd
  /-- Behind a line feed, or at the start of the text. -/
  | lineStart
  | lineEnd
  /-- The same where a carriage return can end a line too. -/
  | lineStartAfterReturn
  | lineEndBeforeReturn
  /-- Between a word and something else; `unicode` says which words count. -/
  | wordBoundary (unicode : Bool)
  | noWordBoundary (unicode : Bool)
  | wordStart (unicode : Bool)
  | wordEnd (unicode : Bool)
  /-- No part of a word stands before. -/
  | halfStart (unicode : Bool)
  /-- No part of a word follows. -/
  | halfEnd (unicode : Bool)
deriving DecidableEq, Repr

namespace Edge

def isWordAt (unicode : Bool) (char : Option Char) : Bool :=
  char.any fun char => if unicode then Text.isWord char else Text.isAsciiWord char

def holds (edge : Edge) (before after : Option Char) : Bool :=
  match edge with
  | .textStart => before.isNone
  | .textEnd => after.isNone
  | .lineStart => before.all (· == '\n')
  | .lineEnd => after.all (· == '\n')
  | .lineStartAfterReturn =>
      before.all fun char => char == '\n' || (char == '\r' && after != some '\n')
  | .lineEndBeforeReturn =>
      after.all fun char => char == '\r' || (char == '\n' && before != some '\r')
  | .wordBoundary unicode => isWordAt unicode before != isWordAt unicode after
  | .noWordBoundary unicode => isWordAt unicode before == isWordAt unicode after
  | .wordStart unicode => !isWordAt unicode before && isWordAt unicode after
  | .wordEnd unicode => isWordAt unicode before && !isWordAt unicode after
  | .halfStart unicode => !isWordAt unicode before
  | .halfEnd unicode => !isWordAt unicode after

end Edge

inductive Pattern where
  | empty
  | one (set : CharSet)
  | edge (edge : Edge)
  | sequence (first second : Pattern)
  | choice (left right : Pattern)
  /-- At least `least` and at most `most` times, if there is a most. -/
  | repeated (inner : Pattern) (least : Nat) (most : Option Nat)
deriving DecidableEq, Repr

namespace Pattern

/-- Whether the pattern matches the empty text between two characters. -/
def acceptsAt (before after : Option Char) : Pattern → Bool
  | .empty => true
  | .one _ => false
  | .edge place => place.holds before after
  | .sequence first second => first.acceptsAt before after && second.acceptsAt before after
  | .choice left right => left.acceptsAt before after || right.acceptsAt before after
  | .repeated inner least _ => least == 0 || inner.acceptsAt before after

def followedBy (rest : Pattern) : Pattern → Pattern
  | .empty => rest
  | first => .sequence first rest

/-- What may follow once `char` has been read. A repetition whose inner pattern
matches the empty text here may count as many of those as it needs. -/
def after (before : Option Char) (char : Char) : Pattern → List Pattern
  | .empty => []
  | .one set => if set.contains char.toNat then [.empty] else []
  | .edge _ => []
  | .sequence first second =>
      let continued := (first.after before char).map (followedBy second)
      if first.acceptsAt before (some char) then continued ++ second.after before char
      else continued
  | .choice left right => left.after before char ++ right.after before char
  | .repeated inner least most =>
      if most == some 0 then []
      else
        let least := if inner.acceptsAt before (some char) then 0 else least - 1
        let rest := Pattern.repeated inner least (most.map (· - 1))
        (inner.after before char).map (followedBy rest)

/-- `open_` holds what is left to match of the attempts that began earlier. -/
def occursFrom (pattern : Pattern) (before : Option Char) (open_ : List Pattern) : Chars → Bool
  | [] => (pattern :: open_).any (·.acceptsAt before none)
  | char :: rest =>
      let open_ := pattern :: open_
      open_.any (·.acceptsAt before (some char)) ||
        occursFrom pattern (some char) (open_.flatMap (·.after before char)).eraseDups rest

/-- Whether some part of the text matches. -/
def occursIn (pattern : Pattern) (text : String) : Bool :=
  pattern.occursFrom none [] text.toList

def literal : Chars → Pattern
  | [] => .empty
  | [char] => .one (.single char)
  | char :: rest => .sequence (.one (.single char)) (literal rest)

example :
    (literal ['b']).acceptsAt none none = false ∧ (literal []).acceptsAt none none = true := by
  decide

/-- A measure of the automaton that the pattern stands for. -/
def weight : Pattern → Nat
  | .empty | .edge _ => 1
  | .one set => setWeight set
  | .sequence first second => first.weight + second.weight
  | .choice left right => left.weight + right.weight + 1
  | .repeated inner least most =>
      match most with
      | some most => max least most * inner.weight + 1
      | none => max least 1 * inner.weight + 1
where
  setWeight : CharSet → Nat
    | .ranges listed => max 1 (listed.length / 2)
    | .property _ => 600
    | .union left right | .intersection left right | .difference left right
    | .exclusive left right => setWeight left + setWeight right
    | .complement set | .folded set => setWeight set + 1

end Pattern

end Triage
