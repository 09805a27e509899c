namespace Accord

def pow2 (n : Nat) : Nat := Nat.pow 2 n

def pow10 (n : Nat) : Nat := Nat.pow 10 n

def signedLimit : Nat := pow2 63

def unsignedLimit : Nat := pow2 64

end Accord
