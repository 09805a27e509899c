namespace Accord.Text

def isBlank (c : Char) : Bool :=
  let n := c.toNat
  (9 ≤ n && n ≤ 13) || n == 32 || n == 0x85 || n == 0xA0 || n == 0x1680 ||
    (0x2000 ≤ n && n ≤ 0x200A) || n == 0x2028 || n == 0x2029 || n == 0x202F || n == 0x205F ||
    n == 0x3000

def dropEndWhile (p : Char → Bool) (s : List Char) : List Char :=
  (s.reverse.dropWhile p).reverse

def trimChars (s : List Char) : List Char := dropEndWhile isBlank (s.dropWhile isBlank)

def trim (s : String) : String := String.ofList (trimChars s.toList)

def splitChars (separator : Char) (s : List Char) : List (List Char) :=
  let (piece, pieces) := s.foldr (fun c (piece, pieces) =>
    if c = separator then ([], piece :: pieces) else (c :: piece, pieces)) ([], [])
  piece :: pieces

def split (separator : Char) (s : String) : List String :=
  (splitChars separator s.toList).map String.ofList

def cutChars (separator : Char) (s : List Char) : Option (List Char × List Char) :=
  match s.dropWhile (· != separator) with
  | [] => none
  | _ :: rest => some (s.takeWhile (· != separator), rest)

def cut (separator : Char) (s : String) : Option (String × String) :=
  (cutChars separator s.toList).map fun (before, behind) =>
    (String.ofList before, String.ofList behind)

def between? (quote : Char) (s : List Char) : Option (List Char) :=
  match s with
  | c :: rest =>
    if c = quote ∧ rest.getLast? = some quote then some rest.dropLast else none
  | [] => none

def join (separator : String) (pieces : List String) : String :=
  separator.intercalate pieces

def contains (c : Char) (s : String) : Bool := s.toList.contains c

end Accord.Text
