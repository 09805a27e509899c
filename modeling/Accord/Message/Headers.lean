import Accord.Message.Syntax

namespace Accord

structure Headers where
  entries : List (String × Bytes)
  deriving DecidableEq, Repr, Inhabited

namespace Headers

def empty : Headers := ⟨[]⟩

def append (name : String) (value : Bytes) (h : Headers) : Headers := ⟨h.entries ++ [(name, value)]⟩

def set (name : String) (value : Bytes) (h : Headers) : Headers :=
  ⟨(h.entries.filter fun (k, _) => k != name) ++ [(name, value)]⟩

def getAll (name : String) (h : Headers) : List Bytes :=
  let name := Text.asciiLower name
  (h.entries.filter fun (k, _) => k == name).map Prod.snd

def get? (name : String) (h : Headers) : Option Bytes := (h.getAll name).head?

def text? (name : String) (h : Headers) : Option String := (h.get? name).bind Message.visibleText?

def names (h : Headers) : List String := (h.entries.map Prod.fst).eraseDups

end Headers

end Accord
