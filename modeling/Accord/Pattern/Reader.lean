import Accord.Pattern.Match
import Accord.Pattern.Names
import Accord.Power

namespace Accord.Pattern

structure Flags where
  ignoreCase : Bool := false
  multiLine : Bool := false
  dotAll : Bool := false
  returnLines : Bool := false
  unicode : Bool := true
  verbose : Bool := false

structure Scan where
  rest : List Char
  flags : Flags
  names : List (List Char)

def isMeta (c : Char) : Bool := "\\.+*?()|[]\x7b\x7d^$#&-~".toList.contains c

/-- ASCII characters other than letters and digits stand for themselves behind a backslash. -/
def isEscapable (c : Char) : Bool :=
  isMeta c || (c.toNat < 128 && !c.isAlphanum && c != '<' && c != '>')

def hexDigit? (c : Char) : Option Nat :=
  if c.isDigit then some (c.toNat - 48)
  else if 'a' ≤ c ∧ c ≤ 'f' then some (c.toNat - 87)
  else if 'A' ≤ c ∧ c ≤ 'F' then some (c.toNat - 55)
  else none

def hexNumber? (digits : List Char) : Option Nat :=
  if digits.isEmpty then none
  else digits.foldlM (fun n c => (hexDigit? c).map fun d => min (n * 16 + d) 0x110000) 0

def scalar? (n : Nat) : Option Char :=
  if n < 0xD800 ∨ (0xDFFF < n ∧ n < 0x110000) then some (Char.ofNat n) else none

def Flags.fold (flags : Flags) (s : CharSet) : CharSet :=
  if !flags.ignoreCase then s else if flags.unicode then .anyCase s else .asciiCase s

/-- Without Unicode, the complement of a set holds bytes that are no characters. -/
def Flags.negate? (flags : Flags) (negated : Bool) (s : CharSet) : Option CharSet :=
  if !negated then some s else if flags.unicode then some (.complement s) else none

def skipVerbose (verbose : Bool) (inComment : Bool) : List Char → List Char
  | [] => []
  | c :: rest =>
    if !verbose then c :: rest
    else if inComment then skipVerbose verbose (c != '\n') rest
    else if Text.isBlank c then skipVerbose verbose false rest
    else if c = '#' then skipVerbose verbose true rest
    else c :: rest

def readBraced (verbose : Bool) (inComment : Bool) : List Char → Option (List Char × List Char)
  | [] => none
  | c :: rest =>
    if verbose && inComment then readBraced verbose (c != '\n') rest
    else if verbose && Text.isBlank c then readBraced verbose false rest
    else if verbose && c == '#' then readBraced verbose true rest
    else if c = '\x7d' then some ([], rest)
    else (readBraced verbose false rest).map fun (inner, rest) => (c :: inner, rest)

def takeCode (verbose : Bool) : Nat → List Char → Option (List Char × List Char)
  | 0, rest => some ([], rest)
  | n + 1, rest =>
    match skipVerbose verbose false rest with
    | [] => none
    | c :: rest => (takeCode verbose n rest).map fun (digits, rest) => (c :: digits, rest)

/-- A character given by its code: so many digits, or any number of them in braces. Without Unicode,
two digits are a byte. -/
def readCode (flags : Flags) (digits : Nat) (rest : List Char) : Option (Char × List Char) := do
  match skipVerbose flags.verbose false rest with
  | '\x7b' :: rest =>
    let (code, rest) ← readBraced flags.verbose false rest
    let c ← (← hexNumber? code) |> scalar?
    return (c, rest)
  | rest =>
    let (code, rest) ← takeCode flags.verbose digits rest
    let c ← (← hexNumber? code) |> scalar?
    guard (flags.unicode || digits != 2 || c.toNat < 128)
    return (c, rest)

inductive Escaped where
  | char (c : Char)
  | set (s : CharSet)
  | anchor (a : Anchor)

def asciiWord : CharSet := .union [.range 48 57, .range 65 90, .range 95 95, .range 97 122]

def asciiBlank : CharSet := .union [.range 9 13, .range 32 32]

def classLetter? (flags : Flags) (c : Char) : Option CharSet :=
  let s : CharSet := match c.toLower with
    | 'd' => if flags.unicode then .property .digit else .range 48 57
    | 's' => if flags.unicode then .property .blank else asciiBlank
    | _ => if flags.unicode then .property .word else asciiWord
  flags.negate? c.isUpper s

/-- The set that a name in braces stands for, and whether `!=` negates it. -/
def readPropertyName (name : List Char) : Option (Bool × CharSet) :=
  let unequal := (Text.cutChars '!' name).bind fun (key, value) => match value with
    | '=' :: value => some (key, value)
    | _ => none
  match unequal with
  | some (key, value) => (valueSet? key value).map fun s => (true, s)
  | none => match (Text.cutChars ':' name).or (Text.cutChars '=' name) with
    | some (key, value) => (valueSet? key value).map fun s => (false, s)
    | none => (propertySet? name).map fun s => (false, s)

def readProperty (flags : Flags) (negated : Bool) (rest : List Char) :
    Option (CharSet × List Char) := do
  guard flags.unicode
  match skipVerbose flags.verbose false rest with
  | '\x7b' :: rest =>
    let (name, rest) ← readBraced flags.verbose false rest
    let (unequal, s) ← readPropertyName name
    return (← flags.negate? (negated != unequal) (flags.fold s), rest)
  | c :: rest =>
    let s ← propertySet? [c]
    return (← flags.negate? negated (flags.fold s), rest)
  | [] => none

def readWordEdge (ascii verbose : Bool) (rest : List Char) : Option (Anchor × List Char) :=
  match rest with
  | '\x7b' :: inner =>
    match readBraced verbose false inner with
    | some (name, behind) =>
      let name := String.ofList name
      if name = "start" then some (.wordStart ascii, behind)
      else if name = "end" then some (.wordEnd ascii, behind)
      else if name = "start-half" then some (.wordStartHalf ascii, behind)
      else if name = "end-half" then some (.wordEndHalf ascii, behind)
      else if name.toList.head?.any fun c => c.isAlpha || c == '-' then none
      else some (.wordEdge ascii, rest)
    | none => some (.wordEdge ascii, rest)
  | _ => some (.wordEdge ascii, rest)

def readEscape (flags : Flags) (rest : List Char) : Option (Escaped × List Char) := do
  let ascii := !flags.unicode
  match rest with
  | [] => none
  | c :: rest =>
    match c with
    | 'd' | 's' | 'w' | 'D' | 'S' | 'W' => return (.set (← classLetter? flags c), rest)
    | 'p' | 'P' =>
      let (s, rest) ← readProperty flags (c == 'P') rest
      return (.set s, rest)
    | 'x' =>
      let (c, rest) ← readCode flags 2 rest
      return (.char c, rest)
    | 'u' =>
      let (c, rest) ← readCode flags 4 rest
      return (.char c, rest)
    | 'U' =>
      let (c, rest) ← readCode flags 8 rest
      return (.char c, rest)
    | 'a' => return (.char (Char.ofNat 7), rest)
    | 'f' => return (.char (Char.ofNat 12), rest)
    | 't' => return (.char '\t', rest)
    | 'n' => return (.char '\n', rest)
    | 'r' => return (.char '\r', rest)
    | 'v' => return (.char (Char.ofNat 11), rest)
    | 'A' => return (.anchor .textStart, rest)
    | 'z' => return (.anchor .textEnd, rest)
    | 'b' =>
      let (a, rest) ← readWordEdge ascii flags.verbose rest
      return (.anchor a, rest)
    | 'B' => return (.anchor (.noWordEdge ascii), rest)
    | '<' => return (.anchor (.wordStart ascii), rest)
    | '>' => return (.anchor (.wordEnd ascii), rest)
    | _ => if isEscapable c then return (.char c, rest) else none

def asciiClass? (name : String) : Option CharSet :=
  match name with
  | "alnum" => some (.union [.range 48 57, .range 65 90, .range 97 122])
  | "alpha" => some (.union [.range 65 90, .range 97 122])
  | "ascii" => some (.range 0 127)
  | "blank" => some (.union [.range 9 9, .range 32 32])
  | "cntrl" => some (.union [.range 0 31, .range 127 127])
  | "digit" => some (.range 48 57)
  | "graph" => some (.range 33 126)
  | "lower" => some (.range 97 122)
  | "print" => some (.range 32 126)
  | "punct" => some (.union [.range 33 47, .range 58 64, .range 91 96, .range 123 126])
  | "space" => some asciiBlank
  | "upper" => some (.range 65 90)
  | "word" => some asciiWord
  | "xdigit" => some (.union [.range 48 57, .range 65 70, .range 97 102])
  | _ => none

def readAsciiClass (rest : List Char) : Option (Bool × CharSet × List Char) := do
  match rest with
  | ':' :: rest =>
    let (negated, rest) := match rest with
      | '^' :: rest => (true, rest)
      | _ => (false, rest)
    let (name, behind) ← Text.cutChars ':' rest
    match behind with
    | ']' :: behind => return (negated, ← asciiClass? (String.ofList name), behind)
    | _ => none
  | _ => none

def readClassItem (flags : Flags) (rest : List Char) : Option (Escaped × List Char) := do
  let (item, rest) ← match rest with
    | [] => none
    | '\\' :: rest => readEscape flags rest
    | c :: rest => some (.char c, rest)
  if let .char c := item then guard (flags.unicode || c.toNat < 128)
  return (item, rest)

def readClassRange (flags : Flags) (rest : List Char) : Option (CharSet × List Char) := do
  let skip := skipVerbose flags.verbose false
  let (first, rest) ← readClassItem flags rest
  let rest := skip rest
  let single := match first with
    | .char c => some (CharSet.char c, rest)
    | .set s => some (s, rest)
    | .anchor _ => none
  match rest with
  | [] => none
  | '-' :: behind =>
    let behind := skip behind
    if behind.head? = some ']' ∨ behind.head? = some '-' then single
    else
      let (last, rest) ← readClassItem flags behind
      match first, last with
      | .char a, .char b => if a ≤ b then some (.range a.toNat b.toNat, rest) else none
      | _, _ => none
  | _ => single

inductive SetOperator where
  | both
  | without
  | oneOf

def SetOperator.apply (flags : Flags) (op : Option SetOperator) (a b : CharSet) : CharSet :=
  match op with
  | none => b
  | some both => .both (flags.fold a) (flags.fold b)
  | some without => .without (flags.fold a) (flags.fold b)
  | some oneOf => .oneOf (flags.fold a) (flags.fold b)

/-- The hyphens and the bracket that stand for themselves at the start of a class. -/
def readClassStart (verbose : Bool) (items : List CharSet) : List Char → List CharSet × List Char
  | [] => (items, [])
  | c :: rest =>
    if c = '-' then readClassStart verbose (.char '-' :: items) rest
    else if verbose && Text.isBlank c then readClassStart verbose items rest
    else if c = ']' ∧ items.isEmpty then ([.char ']'], rest)
    else (items, c :: rest)

mutual

def readClass (fuel : Nat) (flags : Flags) (rest : List Char) : Option (CharSet × List Char) :=
  match fuel with
  | 0 => none
  | fuel + 1 => do
    let rest := skipVerbose flags.verbose false rest
    let (negated, rest) := match rest with
      | '^' :: rest => (true, skipVerbose flags.verbose false rest)
      | _ => (false, rest)
    let (items, rest) := readClassStart flags.verbose [] rest
    let (s, rest) ← readClassItems fuel flags none (.union []) items rest
    return (← flags.negate? negated (flags.fold s), rest)

def readClassItems (fuel : Nat) (flags : Flags) (op : Option SetOperator) (left : CharSet)
    (items : List CharSet) (rest : List Char) : Option (CharSet × List Char) :=
  match fuel with
  | 0 => none
  | fuel + 1 => do
    let rest := skipVerbose flags.verbose false rest
    let sofar := SetOperator.apply flags op left (.union items)
    match rest with
    | [] => none
    | ']' :: rest => return (sofar, rest)
    | '[' :: rest =>
      match readAsciiClass rest with
      | some (negated, s, rest) =>
        let s ← flags.negate? negated (flags.fold s)
        readClassItems fuel flags op left (s :: items) rest
      | none =>
        let (s, rest) ← readClass fuel flags rest
        readClassItems fuel flags op left (s :: items) rest
    | '&' :: '&' :: rest => readClassItems fuel flags (some .both) sofar [] rest
    | '-' :: '-' :: rest => readClassItems fuel flags (some .without) sofar [] rest
    | '~' :: '~' :: rest => readClassItems fuel flags (some .oneOf) sofar [] rest
    | _ =>
      let (s, rest) ← readClassRange flags rest
      readClassItems fuel flags op left (s :: items) rest

end

def readCount (rest : List Char) : Option (Nat × List Char) :=
  let rest := rest.dropWhile Text.isBlank
  let digits := rest.takeWhile Char.isDigit
  if digits.isEmpty then none
  else
    let n := digits.foldl (fun n c => min (n * 10 + (c.toNat - 48)) (pow2 32)) 0
    if n < pow2 32 then some (n, (rest.dropWhile Char.isDigit).dropWhile Text.isBlank) else none

def readBounds (verbose : Bool) (rest : List Char) : Option (Nat × Option Nat × List Char) := do
  let (least, rest) ← readCount rest
  match skipVerbose verbose false rest with
  | '\x7d' :: rest => return (least, some least, rest)
  | ',' :: rest =>
    match skipVerbose verbose false rest with
    | '\x7d' :: rest => return (least, none, rest)
    | rest =>
      let (most, rest) ← readCount rest
      match skipVerbose verbose false rest with
      | '\x7d' :: rest => if least ≤ most then return (least, some most, rest) else none
      | _ => none
  | _ => none

def readRepetitions (fuel : Nat) (verbose : Bool) (e : Expr) (rest : List Char) :
    Option (Expr × List Char) :=
  match fuel with
  | 0 => none
  | fuel + 1 => do
    let rest := skipVerbose verbose false rest
    let lazily := fun (rest : List Char) => match rest with
      | '?' :: rest => rest
      | _ => rest
    match rest with
    | '*' :: rest => readRepetitions fuel verbose (.repetition e 0 none) (lazily rest)
    | '+' :: rest => readRepetitions fuel verbose (.repetition e 1 none) (lazily rest)
    | '?' :: rest => readRepetitions fuel verbose (.repetition e 0 (some 1)) (lazily rest)
    | '\x7b' :: rest =>
      let (least, most, rest) ← readBounds verbose rest
      readRepetitions fuel verbose (.repetition e least most) (lazily rest)
    | _ => return (e, rest)

def Flags.set? (flags : Flags) (on : Bool) : Char → Option Flags
  | 'i' => some { flags with ignoreCase := on }
  | 'm' => some { flags with multiLine := on }
  | 's' => some { flags with dotAll := on }
  | 'R' => some { flags with returnLines := on }
  | 'u' => some { flags with unicode := on }
  | 'x' => some { flags with verbose := on }
  | 'U' => some flags
  | _ => none

/-- Flag letters up to `:` or `)`: the flags, whether the list was empty, and the rest from that
character on. -/
def readFlags (flags : Flags) (seen : List Char) (negated : Bool) :
    List Char → Option (Flags × Bool × List Char)
  | [] => none
  | c :: rest =>
    if c = ':' ∨ c = ')' then
      if seen.head? = some '-' then none else some (flags, seen.isEmpty, c :: rest)
    else if seen.contains c then none
    else if c = '-' then readFlags flags ('-' :: seen) true rest
    else (flags.set? (!negated) c).bind fun flags => readFlags flags (c :: seen) negated rest

def isNameStart (c : Char) : Bool := c == '_' || Text.isAlphabetic c

def isNameRest (c : Char) : Bool :=
  c == '_' || Text.isAlphanumeric c || c == '.' || c == '[' || c == ']'

def readName (names : List (List Char)) (rest : List Char) : Option (List Char × List Char) := do
  let (name, rest) ← Text.cutChars '>' rest
  guard (name.head?.any isNameStart && name.all isNameRest && !names.contains name)
  return (name, rest)

def literal (flags : Flags) (c : Char) : Expr := .char (flags.fold (.char c))

def dotSet (flags : Flags) : CharSet :=
  if flags.dotAll then .range 0 0x10FFFF
  else if flags.returnLines then .complement (.union [.char '\n', .char '\r'])
  else .complement (.char '\n')

def lineAnchor (flags : Flags) (start : Bool) : Anchor :=
  if !flags.multiLine then (if start then .textStart else .textEnd)
  else if flags.returnLines then (if start then .returnLineStart else .returnLineEnd)
  else if start then .lineStart else .lineEnd

mutual

def readChoice (fuel depth : Nat) (sc : Scan) : Option (Expr × Scan) :=
  match fuel with
  | 0 => none
  | fuel + 1 => do
    let (e, sc) ← readSequence fuel depth .empty sc
    match sc.rest with
    | '|' :: rest =>
      let (f, sc) ← readChoice fuel depth { sc with rest := rest }
      return (.choice e f, sc)
    | _ => return (e, sc)

def readSequence (fuel depth : Nat) (before : Expr) (sc : Scan) : Option (Expr × Scan) :=
  match fuel with
  | 0 => none
  | fuel + 1 => do
    let flags := sc.flags
    let proceed := fun (e : Expr) (sc : Scan) => do
      let (e, rest) ← readRepetitions fuel sc.flags.verbose e sc.rest
      readSequence fuel depth (.sequence before e) { sc with rest := rest }
    match skipVerbose flags.verbose false sc.rest with
    | [] => return (before, { sc with rest := [] })
    | c :: rest =>
      match c with
      | '|' | ')' => return (before, { sc with rest := c :: rest })
      | '*' | '+' | '?' | '\x7b' => none
      | '(' => readGroup fuel depth before { sc with rest := rest }
      | '[' =>
        let (s, rest) ← readClass fuel flags rest
        proceed (.char s) { sc with rest := rest }
      | '.' =>
        guard flags.unicode
        proceed (.char (dotSet flags)) { sc with rest := rest }
      | '^' => proceed (.anchor (lineAnchor flags true)) { sc with rest := rest }
      | '$' => proceed (.anchor (lineAnchor flags false)) { sc with rest := rest }
      | '\\' =>
        let (meaning, rest) ← readEscape flags rest
        let e := match meaning with
          | .char c => literal flags c
          | .set s => .char s
          | .anchor a => .anchor a
        proceed e { sc with rest := rest }
      | _ => proceed (literal flags c) { sc with rest := rest }

def readGroup (fuel depth : Nat) (before : Expr) (sc : Scan) : Option (Expr × Scan) :=
  match fuel with
  | 0 => none
  | fuel + 1 => do
    guard (depth < 250)
    let outer := sc.flags
    let close := fun (inner : Scan) => do
      let (e, after) ← readChoice fuel (depth + 1) inner
      match after.rest with
      | ')' :: rest =>
        let (e, rest) ← readRepetitions fuel outer.verbose e rest
        readSequence fuel depth (.sequence before e) ⟨rest, outer, after.names⟩
      | _ => none
    let named := fun (rest : List Char) => do
      let (name, rest) ← readName sc.names rest
      close ⟨rest, outer, name :: sc.names⟩
    match skipVerbose outer.verbose false sc.rest with
    | '?' :: 'P' :: '<' :: rest => named rest
    | '?' :: '<' :: '=' :: _ => none
    | '?' :: '<' :: '!' :: _ => none
    | '?' :: '<' :: rest => named rest
    | '?' :: rest =>
      let (flags, none?, rest) ← readFlags outer [] false rest
      match rest with
      | ')' :: rest =>
        guard (!none?)
        readSequence fuel depth before ⟨rest, flags, sc.names⟩
      | _ :: rest => close ⟨rest, flags, sc.names⟩
      | [] => none
    | rest => close { sc with rest := rest }

end

def Property.weight : Property → Nat
  | word => 46000
  | alphabetic => 40000
  | listed runs => 64 * runs.length + 512
  | digit => 4000
  | blank => 512
  | category letters => if letters = "Nd" then 4000 else 30000
  | _ => 30000

mutual

/-- A rough measure of the memory that a set needs in a compiled pattern. -/
def CharSet.weight : CharSet → Nat
  | range first last => if last < 128 then 32 else if first = last then 128 else 512
  | property p => p.weight
  | union sets => CharSet.weightAll sets
  | both a b => a.weight + b.weight
  | without a b => a.weight + b.weight
  | oneOf a b => a.weight + b.weight
  | complement s => s.weight + 512
  | anyCase s => s.weight
  | asciiCase s => s.weight
termination_by structural s => s

def CharSet.weightAll : List CharSet → Nat
  | [] => 32
  | s :: sets => s.weight + CharSet.weightAll sets
termination_by structural sets => sets

end

def Expr.weight : Expr → Nat
  | .empty => 32
  | .char s => s.weight
  | .anchor _ => 32
  | .sequence a b => a.weight + b.weight
  | .choice a b => a.weight + b.weight + 32
  | .repetition e least none => e.weight * max least 1 + 32
  | .repetition e _ (some most) => (e.weight + 32) * most

def weightLimit : Nat := 10485760

inductive Refusal where
  | malformed
  | tooLarge
  deriving DecidableEq, Repr

def read (source : String) : Except Refusal Expr :=
  let rest := source.toList
  match readChoice (4 * rest.length + 4) 0 ⟨rest, {}, []⟩ with
  | some (e, ⟨[], _, _⟩) => if e.weight ≤ weightLimit then .ok e else .error .tooLarge
  | _ => .error .malformed

def compiles (source : String) : Bool := (read source).toOption.isSome

end Accord.Pattern
