import Gleaner.Unicode.CharSet
/-!
# Patterns

A pattern describes a set of places in texts: characters to step over, conditions on what lies to
the left and right, and sequences, alternatives and repetitions of these. Greed, captures and the
kind of a set make no difference to whether a text matches; patterns keep them because they decide
which patterns are the same, and because a capture takes room in a program.
-/
namespace Gleaner.Regex

open Gleaner.Unicode

/-- A condition on the characters around a place. Conditions on words say whether letters beyond
ASCII count. -/
inductive Look where
  | textStart | textEnd
  | lineStart | lineEnd
  | lineStartCrlf | lineEndCrlf
  | wordBoundary (unicode : Bool) | notWordBoundary (unicode : Bool)
  | wordStart (unicode : Bool) | wordEnd (unicode : Bool)
  | wordStartHalf (unicode : Bool) | wordEndHalf (unicode : Bool)
  deriving DecidableEq, Repr

def Look.asksUnicode : Look → Bool
  | .wordBoundary u | .notWordBoundary u | .wordStart u | .wordEnd u | .wordStartHalf u
  | .wordEndHalf u => u
  | _ => false

/-- What a regular expression means. Captures are numbered in the order of their parentheses. A set
is a Unicode one unless it was written where Unicode does not count. -/
inductive Pattern where
  | empty
  | literal (chars : List Char)
  | set (chars : CharSet) (unicode : Bool)
  | look (condition : Look)
  | capture (index : Nat) (inner : Pattern)
  | times (inner : Pattern) (min : Nat) (max : Option Nat) (greedy : Bool)
  | concat (parts : List Pattern)
  | either (branches : List Pattern)
  deriving Inhabited

namespace Pattern

mutual
def same : Pattern → Pattern → Bool
  | .empty, .empty => true
  | .literal a, .literal b => a == b
  | .set a u, .set b v => u == v && decide (a = b)
  | .look a, .look b => decide (a = b)
  | .capture i a, .capture j b => i == j && a.same b
  | .times a min max greedy, .times b min' max' greedy' =>
    min == min' && max == max' && greedy == greedy' && a.same b
  | .concat as, .concat bs => sameAll as bs
  | .either as, .either bs => sameAll as bs
  | _, _ => false
def sameAll : List Pattern → List Pattern → Bool
  | [], [] => true
  | a :: as, b :: bs => a.same b && sameAll as bs
  | _, _ => false
end

mutual
def isEmptyOnly : Pattern → Bool
  | .empty => true
  | .literal _ => false
  | .set _ _ => false
  | .look _ => true
  | .capture _ inner => inner.isEmptyOnly
  | .times inner _ max _ => inner.isEmptyOnly || max == some 0
  | .concat parts => allEmptyOnly parts
  | .either branches => allEmptyOnly branches
def allEmptyOnly : List Pattern → Bool
  | [] => true
  | p :: rest => p.isEmptyOnly && allEmptyOnly rest
end

mutual
/-- The least number of characters that a match may have. It is missing where a needed part is a set
without characters. -/
def minLength : Pattern → Option Nat
  | .empty => some 0
  | .literal chars => some chars.length
  | .set s _ => if s.isEmpty then none else some 1
  | .look _ => some 0
  | .capture _ inner => inner.minLength
  | .times inner min _ _ => inner.minLength.map (· * min)
  | .concat parts => sumLength 0 parts
  | .either branches => leastLength none branches
def sumLength (total : Nat) : List Pattern → Option Nat
  | [] => some total
  | p :: rest => match p.minLength with
    | some n => sumLength (total + n) rest
    | none => none
def leastLength (least : Option Nat) : List Pattern → Option Nat
  | [] => least
  | p :: rest => match p.minLength with
    | some n => leastLength (some (Nat.min n (least.getD n))) rest
    | none => none
end

mutual
/-- Whether every match starts where a condition holds, because the condition comes first. -/
def startsWith (condition : Look) : Pattern → Bool
  | .look l => l == condition
  | .capture _ inner => inner.startsWith condition
  | .times inner min _ _ => min != 0 && inner.startsWith condition
  | .concat parts => someStartsWith condition parts
  | .either branches => allStartWith condition branches
  | _ => false
def someStartsWith (condition : Look) : List Pattern → Bool
  | [] => false
  | p :: rest => p.startsWith condition || (p.isEmptyOnly && someStartsWith condition rest)
def allStartWith (condition : Look) : List Pattern → Bool
  | [] => true
  | p :: rest => p.startsWith condition && allStartWith condition rest
end

mutual
def reversed : Pattern → Pattern
  | .empty => .empty
  | .literal chars => .literal chars
  | .set s unicode => .set s unicode
  | .look l => .look l
  | .capture i inner => .capture i inner.reversed
  | .times inner min max greedy => .times inner.reversed min max greedy
  | .concat parts => .concat (reversedOnto [] parts)
  | .either branches => .either (reversedOnto [] branches).reverse
def reversedOnto (done : List Pattern) : List Pattern → List Pattern
  | [] => done
  | p :: rest => reversedOnto (p.reversed :: done) rest
end

end Pattern

end Gleaner.Regex
