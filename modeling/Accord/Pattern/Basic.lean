import Accord.Pattern.Property

namespace Accord.Pattern

inductive CharSet where
  | range (first last : Nat)
  | property (p : Property)
  | union (sets : List CharSet)
  | both (a b : CharSet)
  | without (a b : CharSet)
  | oneOf (a b : CharSet)
  | complement (s : CharSet)
  | anyCase (s : CharSet)
  | asciiCase (s : CharSet)
  deriving Repr, Inhabited

mutual

def CharSet.mem (c : Char) : CharSet → Bool
  | range first last => first ≤ c.toNat && c.toNat ≤ last
  | property p => p.holds c
  | union sets => CharSet.memAny c sets
  | both a b => a.mem c && b.mem c
  | without a b => a.mem c && !b.mem c
  | oneOf a b => a.mem c != b.mem c
  | complement s => !s.mem c
  | anyCase s => (Text.caseVariants c).any fun d => s.mem d
  | asciiCase s => s.mem c || s.mem c.toLower || s.mem c.toUpper
termination_by structural s => s

def CharSet.memAny (c : Char) : List CharSet → Bool
  | [] => false
  | s :: sets => s.mem c || CharSet.memAny c sets
termination_by structural sets => sets

end

def CharSet.char (c : Char) : CharSet := .range c.toNat c.toNat

inductive Anchor where
  | textStart
  | textEnd
  | lineStart
  | lineEnd
  | returnLineStart
  | returnLineEnd
  | wordEdge (ascii : Bool)
  | noWordEdge (ascii : Bool)
  | wordStart (ascii : Bool)
  | wordEnd (ascii : Bool)
  | wordStartHalf (ascii : Bool)
  | wordEndHalf (ascii : Bool)
  deriving DecidableEq, Repr

inductive Expr where
  | empty
  | char (s : CharSet)
  | anchor (a : Anchor)
  | sequence (a b : Expr)
  | choice (a b : Expr)
  | repetition (e : Expr) (least : Nat) (most : Option Nat)
  deriving Repr, Inhabited

end Accord.Pattern
