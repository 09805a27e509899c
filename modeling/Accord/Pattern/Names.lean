import Accord.Pattern.Script

namespace Accord.Pattern

def inCategories (categories : List String) : CharSet :=
  .union (categories.map fun letters => .property (.category letters))

def patternWhiteSpace : CharSet := listed "9 5 i 1 2s 1 688 2 o 2"

def otherIdStart : CharSet := listed "4ud 2 1ox 1 l 1 31o 2"

def otherIdContinue : CharSet := listed "53 1 jz 1 34x 9 19k 1 181 2 3cd 1 14rt 1"

def bidiMirrored : CharSet :=
  listed <| String.join [
    "14 2 i 1 1 1 s 1 1 1 t 1 1 1 19 1 f 1 2v2 4 1gd 2 1wc 2 a 2 1i 2 e 2 4x 1 5c 4 3 6 3 1 ",
    "3 2 3 4 1 4 1 1 1 1 4 9 5 1 1 i 5 4 9 2 1 1 1 8 1 w 2 4 5 1 9 2 2 j 5 2 9 5 2 2 4 o 2 g ",
    "8 4 k 2 7 2 u5 e 22 1 2 4 1 2 1 3 5 4 5 3 3 e b7 m 2 6 1 e 8 1 7 6 3 1 4 5 1 2 2 5 4 1 ",
    "1 3 2 2 a 6 2 2 c j 1 4 2 1 1 1 2 1 1 4 5 2 6 3 o 2 b 2 4 4 1 2 2 2 4 17 2 8 1 14 5 1 1 1 ",
    "3 5 5 3 4 1 3 5 1 1 74 1 eb 4 3 2 1 2 e 2 2 a 17 8 bv a 2 8 14ql 6 5 2 4i 2 i 1 1 1 s 1 ",
    "1 1 t 1 1 1 1 2 1 2 16k7 1 1l 1 1l 1 1l 1 1l 1"]

def defaultIgnorableCodePoint : CharSet :=
  listed <| String.join [
    "4t 1 ip 1 jw 1 282 2 18z 2 2d 5 1kr 5 q 5 1d g 3ck 1 14ez g 6n 1 4g 1 27 9 119j 4 43z 8 ",
    "h405 35s"]

def diacritic : CharSet :=
  listed <| String.join [
    "2m 1 1 1 1z 1 6 1 4 1 2 2 dz 4f 1 8 5 6 h 2 4 1 9 2 71 5 5t 1 1j 19 1 1 1 2 1 2 1 1 3n 8 ",
    "4 2 3q 2 4 2 3 3 1v r 2j b 1m b y 2 3i 8 15 a g s 1p 1 g 1 3 4 s 1 22 1 g 1 32 1 g 1 32 1 ",
    "g 1 1b 3 1o 1 g 1 7 1 3b 1 32 1 g 1 32 1 g 1 31 2 g 1 3g 1 33 1 c 6 1 1 2z 1 d 5 23 2 r 1 ",
    "1 1 1 1 4 2 1u 3 1 2 1q 1 34 1 1 2 14 2 4 5 p 7 1 1 a 2 jl 3 qc 2 u 1 44 b 9 1 9n 3 84 1 ",
    "k 8 2 1 1c f 2 b 2w 1 f 1 12 9 1i 2 1m 1 b 2 1u 2 1s 6 2a p 4 1 6 1 2 3 1e 1r 1c 10 5 c ",
    "11 b cd 1 1 3 b 3 d 3 d 3 d 2 2k0 3 8t 1 e2 6 2x 4 2n 1 n76 1 c 2 1 1 s 2 2a 2 e y 2u 3 ",
    "31 2 c 1 11 1 47 1 r i 1l 4 10 1 2n 1 c 1 10 1 45 3 1t 4 1f 1 2s 5 9 3 3k 2 fn4 1 ld g ",
    "7i 1 1 1 1b 1 19 2 1v 1 l8 1 wv 6 1 16 1 9 hp 3 4 1 4l 2 fv 6 12 1 q 5 b3 3 1y b 1d 4 ",
    "5c 1 15 1 20 2 3c 2 1q 1 24 1 9 3 2w 2 4y 2 28 2 g 1 o 7 3 5 2h 3 1 2 d 2 2n 1 3 1 3f 2 ",
    "6z 2 3i 1 3a 2 37 1 7h 2 76 2 4 1 4c 1 2b 1 i 1 29 1 bp 1 76 1 1 2 29 1 bt 2 n 1 44s f ",
    "8ux 1 1xc 5 1n 7 fo 2 f6 h 28 2 cn2 4 1 7 1 2 64h 1a 2 n f4 3 3 6 8 8 2 7 u 4 2v6 1q 5e 7 ",
    "af 1 1p 4 la 2 kg 7 31 3 1 3"]

def emoji : CharSet :=
  listed <| String.join [
    "z 1 6 1 5 a 33 1 4 1 68d 1 c 1 60 1 m 1 2i 6 f 2 a7 2 c 1 4m 1 p b 4 3 5j 1 6f 2 a 1 9 1 ",
    "1m 4 1 5 9 1 2 1 2 2 2 1 4 1 2 1 1 2 2 1 3 1 3 2 8 3 5 1 1 1 5 c b 2 2 1 1 2 1 1 i 1 2 2 ",
    "i 6 1 1 1 2 3 2 5 1 2 2 4 2 b 2 5 2 2 1 5 2 1 1 1 2 k 2 5 6 1 4 2 1 4 1 2 1 2 6 1 1 2 1 ",
    "1 1 1 1 6 1 3 1 6 1 a 2 f 1 2 1 4 1 1 1 4 3 1 1 b 2 1c 3 9 1 e 1 e 1 ac 2 cv 3 j 2 1f 1 ",
    "4 1 yi 1 c 1 gp 1 1 1 2fze 1 5m 1 4g 2 c 2 e 1 2 a 23 q 1 2 n 1 k 1 2 9 l 2 4u y 2 34 2 2 ",
    "1 3 2 2b 2 3 1 7b 1 1r b 6 1 o 7 2 2 8 c 1 2 4 2 1 4 2 d 2 2 1 8 2 9 1 5 3 c 3 8 3 2 1 ",
    "1 1 4 1 6 1 3 1 6 2e 1c 1y 5 8 2 3 4 a 3 1 1 2 3 1 2 a 6b c 4 1 7v 1b 1 a 1 55 34 d 3 a ",
    "5 1k 7 f 2 b 6 9"]

def emojiModifierBase : CharSet :=
  listed <| String.join [
    "7j1 1 63 1 g 4 2iyf 1 1o 3 2 1 2 3 39 2 2 b l j 3 1 4 3 1 3 7 1 1 1 o 1 5l 2 4 1 l 1 4 2 ",
    "4u 3 3 5 2b 1 g 3 9 1 b 1 fz 1 2 1 8 8 6 1 9 a 2 3 1k 1 1p 2 1 2 1 1 h 3 1 d 6d 3 16 9"]

def emojiPresentation : CharSet :=
  listed <| String.join [
    "6xm 2 5p 4 3 1 2 1 eh 2 l 2 1e c 17 1 j 1 d 1 8 2 h 2 5 2 8 1 5 1 l 1 7 2 1 1 4 1 2 1 7 1 ",
    "4 2 s 1 z 1 1 1 4 3 1 1 1p 3 o 1 e 1 nv 2 1f 1 4 1 2hf2 1 5m 1 5a 1 2 a 23 q 1 1 o 1 k 1 ",
    "2 5 1 3 l 2 4u x c 9 1 1y 1 m c 17 4 5 c h 3 1 3 1z 1 1 1 57 2 1r d 4 1 o i 1 q 2 d 1 ",
    "2e 2d 1c 1y 6 1 3 3 2 3 4 4 b 2 7 9 6b c 4 1 7v 1b 1 a 1 55 34 d 3 a 5 1k 7 f 2 b 6 9"]

def extendedPictographic : CharSet :=
  listed <| String.join [
    "4p 1 4 1 68d 1 c 1 60 1 m 1 2i 6 f 2 a7 2 c 1 2n 1 1y 1 p b 4 3 5j 1 6f 2 a 1 9 1 1m 4 ",
    "1 6 1 c 1 36 a 3a 2 b 1 1 1 1 6 1 3 1 6 1 a 2 f 1 2 1 4 1 1 1 4 3 1 1 b 5 19 3 9 1 e 1 ",
    "e 1 ac 2 cv 3 j 2 1f 1 4 1 yi 1 c 1 gp 1 1 1 2fza 74 d 3 v 1 1o 6 c 2 e 1 2 a i 1l r f ",
    "a 1 k 1 2 9 1 4 9 c2 5 8u 8 7e 1c 3k 38 c 2d 17 c 4 1k 8 a 6 14 8 u 2a c 1b 1 a 1 c9 74 se"]

def extender : CharSet :=
  listed <| String.join [
    "53 1 ew 2 oe 1 c9 1 hi 1 3t 1 2h 1 kw 1 3j 1 1tv 1 1k 1 gz 1 b2 1 1w 1 3ux 1 17 5 2v 2 ",
    "2l 3 lxy 1 16e 1 qq 1 m 1 3t 1 30 1 l 2 gor 1 1lc 2 157 1 r 1 4 1 xz 1 85 1 38 2 du 3 ",
    "y7 1 fxl 2 ws 2 1 1 me0 2 xd 1 no 3"]

def patternSyntax : CharSet :=
  listed <| String.join [
    "x f a 7 q 4 1 1 q 4 y 7 1 1 1 2 1 1 1 2 4 1 4 1 3 1 n 1 v 1 654 o 8 f 2 j 1 a 8h k0 4g hi ",
    "u vg e8 3k ap 3 4 p f 1 14i5 2 79 2"]

def sentenceTerminal : CharSet :=
  listed <| String.join [
    "x 1 c 1 g 1 11l 1 43 3 50 1 17 3 6u 1 1p 1 1 1 3 2 85 2 1d0 2 ly 1 4 2 lh 1 5i 2 4d 2 ",
    "19 1 5 1 8q 2 9u 4 4i 2 a 2 2 2 t 3 57 2 1t 2 pw 1 n 2 9 3 2i7 3 8i 1 d 1 m 2 bx 1 n3w 1 ",
    "7i 2 6b 1 3 1 am 2 2e 2 2n 1 48 2 43 3 40 2 6x 1 g86 1 2 2 1n 1 3 2 4p 1 c 1 g 1 1t 1 ",
    "25w 2 zh 5 18 4 59 2 39 4 3j 3 3l 2 6 1 g 2 2g 2 1 2 30 1 8a 2 39 2 ad 2 5 f 2x 2 6x 3 ",
    "ed 1 1 1 6z 2 2f 2 bo 2 j8 2 22 2 euh 2 3p 1 1t 2 b 1 fd 2 88 1 feu 1 5wo 1"]

def softDotted : CharSet :=
  listed <| String.join [
    "2x 2 5g 1 7t 1 u 1 1g 1 k 1 8w 1 2q 1 1 1 4y1 1 1f 1 d 1 3 1 3o 1 4d 1 bp 1 5y 2 27m 1 ",
    "2bol 2 1e 2 1e 2 1e 2 1e 2 1e 2 1e 2 1e 2 1e 2 1e 2 1e 2 1e 2 1e 2 1om 1 8h 2 q 1"]

def terminalPunctuation : CharSet :=
  listed <| String.join [
    "x 1 a 1 1 1 b 2 3 1 n2 1 8 1 e9 1 1l 1 20 1 e 1 1 3 50 1 17 b 1 1 6j 2 1i 6 1 8 v 1 79 2 ",
    "z8 2 4s 1 4 6 8n 2 lx 8 lh 1 3g 3 1z 2 4d 3 3 1 13 4 2 2 8q 2 9u 4 4i 2 a 2 1 3 t 3 57 5 ",
    "1q 2 pw 1 n 2 9 3 2i7 3 8i 1 d 1 4 1 a 1 1 2 3 2 bw 2 n3v 2 7h 3 6b 5 am 2 2e 2 2n 1 47 3 ",
    "43 3 3j 1 g 2 6x 1 g86 1 2 2 1l 3 1 4 4p 1 a 1 1 1 b 2 3 1 1t 1 2 1 u2 1 1c 1 w6 1 5j 1 ",
    "8m 2 48 6 1w 6 2h 4 qg 5 18 4 59 7 34 4 3j 3 3l 2 6 1 g 2 2g 5 30 1 8a 2 39 3 c 2 9y 4 ",
    "3 f 2x 2 6x 3 ed 1 1 1 6z 2 2f 2 4 2 bi 3 19 1 hx 2 22 2 10r 5 dtl 2 3p 1 1t 3 a 1 fd 2 ",
    "87 2 feu 1 5wn 4"]

def otherMath : CharSet :=
  listed <| String.join [
    "2m 1 oh 3 2 1 q 2 2 2 5k0 1 r 3 b 1 w 4 o 2 e 2 1t d 4 1 3 2 4 5 i 1 4 1 2 a 1 1 3 5 6 1 ",
    "3 2 2 2 1 3 1 6 3 4 5 5 23 5 2 4 1 2 1 2 1 1 1 5 2 2 4 2 4 i 2 2 1 1 1 7 1 1 6 2 82 4 ",
    "4o 2 1 1 o 1 h 1 cd 2 c 9 5 5 5 2 2 2 3 5 e 1 1 1 2 6 o 2 1l 1 1 1 t 4 9 2 9i 2 v a b7 m ",
    "1r 4 w 2 15yb 1 1 1 4 1 5v 1 1 1 160x 2d 1 1z 1 2 2 1 2 2 2 4 1 c 1 1 1 7 1 1t 1 4 2 8 ",
    "1 7 1 s 1 4 1 5 1 1 3 7 1 9g 2 p 1 p 1 v 1 p 1 v 1 p 1 v 1 p 1 v 1 p 1 8 2 1e 4cg 4 1 r ",
    "1 2 1 1 2 1 1 a 1 4 1 1 1 1 6 1 4 1 1 1 1 1 1 3 1 2 1 1 2 1 1 1 1 1 1 1 1 1 1 2 1 1 2 4 ",
    "1 7 1 4 1 4 1 1 1 a 1 h 5 3 1 5 1 h"]

def graphemeLink : CharSet :=
  listed <| String.join [
    "1u5 1 3j 1 3j 1 3j 1 3j 1 3j 1 3j 1 3j 1 31 2 g 1 3g 1 33 1 3j 1 5l 1 50 2 1cp 2 u 1 4d 1 ",
    "i5 1 6b 1 2t 2 1y 2 3gr 1 o7a 1 11 1 47 1 3y 1 30 1 8l 1 6u 1 imp 1 16u 1 15 1 e 1 1l 1 ",
    "3d 2 3v 1 38 1 50 1 2q 1 3k 3 35 1 3j 1 70 1 3j 1 3a 1 38 1 7h 1 77 2 4h 1 2b 1 i 1 29 1 ",
    "bp 1 78 2 29 1 bt 2 d0s 1"]

def ideographic : CharSet :=
  listed <| String.join [
    "9hi 2 p 9 e 3 qt 534 1s g74 hkw a6 2 2y n4a 1 r 4qg 8 ye 15 a 76v b0 f7o wyo w 37e 6 66 ",
    "2 4g2 e 5rl f ha 1wi f2 15u 3t7 5 38g"]

def idStart : CharSet :=
  .without (.union [inCategories ["L", "Nl"], otherIdStart])
    (.union [patternSyntax, patternWhiteSpace])

def idContinue : CharSet :=
  .without (.union [idStart, inCategories ["Mn", "Mc", "Nd", "Pc"], otherIdContinue])
    (.union [patternSyntax, patternWhiteSpace])

def graphemeBase : CharSet :=
  .complement (.union
    [inCategories ["Cc", "Cf", "Cs", "Co", "Cn", "Zl", "Zp"], .property .graphemeExtend])

/-- Titles differ from capitals for digraphs, Greek letters with an iota below, and Georgian. -/
def changedByTitle : CharSet :=
  .union [
    .without (.property .changedByUpper)
      (listed "cl 1 2 1 2 1 12 1 2xp 17 2 3 2vc 8 8 8 8 8 c 1 f 1 1b 1"),
    listed "ck 1 2 1 2 1 12 1"]

/-- Folding keeps the capitals of Cherokee, and changes small letters that stand for others. -/
def changedByFolding : CharSet :=
  .union [
    .without (.property .changedByLower) (.range 0x13A0 0x13F5),
    listed <| String.join [
      "51 1 15 1 2x 1 1h 1 cl 1 3g 1 d 2 3 2 p 2 3 1 b5 1 2uo 6 1oi 9 ep 2 6c 8 8 8 8 8 a 3 ",
      "2 1 a 3 2 1 16 3 2 1 rjs 28 fnk 7 c 5"]]

/-- The properties that a character has or has not, by their names. -/
def binaries : List (List String × CharSet) := [
  (["alphabetic", "alpha"], .property .alphabetic),
  (["asciihexdigit", "ahex"], listed "1c a 7 6 q 6"),
  (["bidicontrol", "bidic"], listed "17g 1 54h 2 q 5 1j 4"),
  (["bidimirrored", "bidim"], bidiMirrored),
  (["cased"], .property .cased),
  (["caseignorable", "ci"], .property .caseIgnorable),
  (["changeswhencasefolded", "cwcf"], changedByFolding),
  (["changeswhencasemapped", "cwcm"],
    .union [.property .changedByLower, .property .changedByUpper, changedByTitle]),
  (["changeswhenlowercased", "cwl"], .property .changedByLower),
  (["changeswhentitlecased", "cwt"], changedByTitle),
  (["changeswhenuppercased", "cwu"], .property .changedByUpper),
  (["dash"],
    listed <| String.join [
      "19 1 124 1 1f 1 2td 1 sl 1 1l5 6 1p 1 13 1 f 1 au 1 2dg 1 2 1 v 2 4 1 s 1 ce 1 j 1 33 ",
      "1 14ls 2 11 1 a 1 4p 1 2u8 1 8u 1"]),
  (["defaultignorablecodepoint", "di"], defaultIgnorableCodePoint),
  (["deprecated", "dep"], listed "95 1 10p 1 1s3 1 1 1 1m1 2 1qd 6 jd 2 jh06 1"),
  (["diacritic", "dia"], diacritic),
  (["emoji"], emoji),
  (["emojicomponent", "ecomp"], listed "z 1 6 1 5 a 6ab 1 5x 1 17or 1 1c5y q e3 5 14g 4 gw30 2o"),
  (["emojimodifier", "emod"], .range 0x1F3FB 0x1F3FF),
  (["emojimodifierbase", "ebase"], emojiModifierBase),
  (["emojipresentation", "epres"], emojiPresentation),
  (["extendedpictographic", "extpict"], extendedPictographic),
  (["extender", "ext"], extender),
  (["graphemebase", "grbase"], graphemeBase),
  (["graphemeextend", "grext"], .property .graphemeExtend),
  (["graphemelink", "grlink"], graphemeLink),
  (["hexdigit", "hex"], listed "1c a 7 6 q 6 1eax a 7 6 q 6"),
  (["hyphen"], listed "19 1 3j 1 yk 1 3nf 1 1l5 2 2rp 1 kj 1 14kn 1 4p 1 2f 1"),
  (["idcompatmathcontinue"],
    listed "4y 2 5 1 69i 1 3 b 1 f ab 1 4 1 m 1 2e8y 1 p 1 v 1 p 1 v 1 p 1 v 1 p 1 v 1 p 1"),
  (["idcompatmathstart"], listed "6pu 1 4 1 m 1 2e8y 1 p 1 v 1 p 1 v 1 p 1 v 1 p 1 v 1 p 1"),
  (["idcontinue", "idc"], idContinue),
  (["ideographic", "ideo"], ideographic),
  (["idsbinaryoperator", "idsb"], listed "9gw 2 2 a dt 1"),
  (["idstart", "ids"], idStart),
  (["idstrinaryoperator", "idst"], .range 0x2FF2 0x2FF3),
  (["idsunaryoperator", "idsu"], .range 0x2FFE 0x2FFF),
  (["joincontrol", "joinc"], .range 0x200C 0x200D),
  (["logicalorderexception", "loe"], listed "2tc 5 3f 5 25s 3 2 1 smy 2 2 1 1 2"),
  (["lowercase", "lower"], .property .lowercase),
  (["math"], .union [.property (.category "Sm"), otherMath]),
  (["modifiercombiningmark", "mcm"], listed "190 2 2 1 3n 1 6 1 3 2 dd 2 1 3 3 1 v 1"),
  (["noncharactercodepoint", "nchar"],
    .union ([.range 0xFDD0 0xFDEF] ++ (List.range 17).map fun plane =>
      .range (plane * 0x10000 + 0xFFFE) (plane * 0x10000 + 0xFFFF))),
  (["otheralphabetic", "oalpha"], .property (.listed Text.otherAlphabetic)),
  (["otherdefaultignorablecodepoint", "odi"],
    listed "nj 1 2rz 2 18z 2 1pr 1 3cu 1 14qj 1 27 9 i9dz 1 1 u 2o 3k 6o 2s0"),
  (["othergraphemeextend", "ogrext"], .property (.listed Text.otherGraphemeExtend)),
  (["otheridcontinue", "oidc"], otherIdContinue),
  (["otheridstart", "oids"], otherIdStart),
  (["otherlowercase", "olower"], .property (.listed Text.otherLowercase)),
  (["othermath", "omath"], otherMath),
  (["otheruppercase", "oupper"], .property (.listed Text.otherUppercase)),
  (["patternsyntax", "patsyn"], patternSyntax),
  (["patternwhitespace", "patws"], patternWhiteSpace),
  (["prependedconcatenationmark", "pcm"], listed "16o 6 5z 1 1d 1 ao 2 28 1 1g4a 1 f 1"),
  (["quotationmark", "qmark"],
    listed "y 1 4 1 3n 1 f 1 670 8 p 2 2rr 1 cp 4 d 3 14pt 4 59 1 4 1 2i 2"),
  (["radical"], listed "96o q 1 2h c 5y"),
  (["regionalindicator", "ri"], .range 0x1F1E6 0x1F1FF),
  (["sentenceterminal", "sterm"], sentenceTerminal),
  (["softdotted", "sd"], softDotted),
  (["terminalpunctuation", "term"], terminalPunctuation),
  (["unifiedideograph", "uideo"],
    listed <| String.join [
      "a9s 534 1s g74 hse 2 1 1 1 2 a 1 1 1 1 2 2 3 1fpy wyo w 37e 6 66 2 4g2 e 5rl f ha 3he ",
      "3t7 5 38g"]),
  (["uppercase", "upper"], .property .uppercase),
  (["variationselector", "vs"], listed "4qz 3 1 1 19f4 g i9yo 6o"),
  (["whitespace", "wspace", "space"], .property .blank),
  (["xidcontinue", "xidc"],
    .without idContinue (listed "oq 1 8ww 2 148x 6 ba 2 38 1 1 1 1 1 1 1 1 1 1 1 1 1 1 1")),
  (["xidstart", "xids"],
    .without idStart (listed <| String.join [
      "oq 1 248 1 3j 1 6p3 2 148x 6 ba 2 38 1 1 1 1 1 1 1 1 1 1 1 1 1 1 1 7z 2"]))]

def categoryNames : List (String × List String) := [
  ("C", ["c", "other"]), ("Cc", ["cc", "control", "cntrl"]), ("Cf", ["cf", "format"]),
  ("Cn", ["cn", "unassigned"]), ("Co", ["co", "privateuse"]), ("L", ["l", "letter"]),
  ("Ll", ["ll", "lowercaseletter"]), ("Lm", ["lm", "modifierletter"]),
  ("Lo", ["lo", "otherletter"]), ("Lt", ["lt", "titlecaseletter"]),
  ("Lu", ["lu", "uppercaseletter"]), ("M", ["m", "mark", "combiningmark"]),
  ("Mc", ["mc", "spacingmark"]), ("Me", ["me", "enclosingmark"]), ("Mn", ["mn", "nonspacingmark"]),
  ("N", ["n", "number"]), ("Nd", ["nd", "decimalnumber", "digit"]), ("Nl", ["nl", "letternumber"]),
  ("No", ["no", "othernumber"]), ("P", ["p", "punctuation", "punct"]),
  ("Pc", ["pc", "connectorpunctuation"]), ("Pd", ["pd", "dashpunctuation"]),
  ("Pe", ["pe", "closepunctuation"]), ("Pf", ["pf", "finalpunctuation"]),
  ("Pi", ["pi", "initialpunctuation"]), ("Po", ["po", "otherpunctuation"]),
  ("Ps", ["ps", "openpunctuation"]), ("S", ["s", "symbol"]), ("Sc", ["sc", "currencysymbol"]),
  ("Sk", ["sk", "modifiersymbol"]), ("Sm", ["sm", "mathsymbol"]), ("So", ["so", "othersymbol"]),
  ("Z", ["z", "separator"]), ("Zl", ["zl", "lineseparator"]), ("Zp", ["zp", "paragraphseparator"]),
  ("Zs", ["zs", "spaceseparator"])]

def category? (name : String) : Option CharSet :=
  if name = "any" then some (.range 0 0x10FFFF)
  else if name = "ascii" then some (.range 0 127)
  else if name = "assigned" then some (.complement (inCategories ["Cn"]))
  else if name = "lc" ∨ name = "casedletter" then some (inCategories ["Lu", "Ll", "Lt"])
  else (categoryNames.find? fun (_, names) => names.contains name).map fun (letters, _) =>
    inCategories [letters]

def named? (table : List (List String × CharSet)) (name : String) : Option CharSet :=
  (table.find? fun (names, _) => names.contains name).map (·.2)

def ofScript (name : String) : CharSet := (script? name).getD (.union [])

def newlineMarks : CharSet := .union [.range 0x85 0x85, .range 0x2028 0x2029]

def regionalIndicator : CharSet := .range 0x1F1E6 0x1F1FF

def emojiModifier : CharSet := .range 0x1F3FB 0x1F3FF

def prepended : CharSet := listed "16o 6 5z 1 1d 1 ao 2 28 1 1g4a 1 f 1"

def syllables : CharSet := .property (.listed ((List.range 399).map fun k =>
  (0xAC00 + 28 * k, 0xAC00 + 28 * k)))

def graphemeBreaks : List (List String × CharSet) := [
  (["cr"], .range 13 13),
  (["lf"], .range 10 10),
  (["control", "cn"], .without
    (.union [inCategories ["Zl", "Zp", "Cc", "Cf"],
      .both (inCategories ["Cn"]) defaultIgnorableCodePoint])
    (.union [.range 10 10, .range 13 13, .range 0x200C 0x200D, prepended,
      .property .graphemeExtend])),
  (["extend", "ex"], .union [.property .graphemeExtend, emojiModifier]),
  (["l"], .union [.range 0x1100 0x115F, .range 0xA960 0xA97C]),
  (["v"], .union [.range 0x1160 0x11A7, .range 0xD7B0 0xD7C6, .range 0x16D63 0x16D63,
    .range 0x16D67 0x16D6A]),
  (["t"], .union [.range 0x11A8 0x11FF, .range 0xD7CB 0xD7FB]),
  (["lv"], syllables),
  (["lvt"], .without (.range 0xAC00 0xD7A3) syllables),
  (["prepend", "pp"], .union [prepended, listed "2mm 1 1fg3 2 el 1 12l 1 1 1 6w 1 21 6 jg 1 cb 1"]),
  (["spacingmark", "sm"], .union [.range 0xE33 0xE33, .range 0xEB3 0xEB3,
    .without (inCategories ["Mc"]) (.union [.property .graphemeExtend,
      listed "36z 2 b 1 15 3 2 7 l 1 3 6 2 1 a 3 1xg 1 1 2 sgm 1 1 1 lgi 2"])]),
  (["regionalindicator", "ri"], regionalIndicator),
  (["zwj"], .range 0x200D 0x200D)]

def markExtend : CharSet := .union [.property .graphemeExtend, inCategories ["Mc"]]

def wordFormat : CharSet :=
  .without (inCategories ["Cf"]) (.union [.range 0x200B 0x200D, .property .graphemeExtend])

def katakanaWord : CharSet :=
  .union [ofScript "katakana", listed "9ip 5 2t 2 3 1 2j 1 14s3 1"]

def hebrewLetter : CharSet := .both (ofScript "hebrew") (inCategories ["Lo"])

/-- Letters of scripts that write no blanks between words. -/
def unspaced : CharSet :=
  listed <| String.join [
    "2rl 1c 1 2 c 7 1m 2 1 1 1 5 1 o 1 1 1 a 1 2 9 1 2 5 1 1 l 4 80 17 k 1 g 6 4 4 3 1 3 2 7 3 ",
    "4 d c 1 1dd 1g z 1 4 1 ab u 2 5 b 18 4 q 2e 1h 2a 1 sag 5 1 a a 5 2p n 3 1 3 1e 1 1 3 2 ",
    "2 5 2 1 1 1 o 3 lcy r 11 7"]

def wordBreaks : List (List String × CharSet) := [
  (["cr"], .range 13 13),
  (["lf"], .range 10 10),
  (["newline", "nl"], .union [.range 11 12, newlineMarks]),
  (["zwj"], .range 0x200D 0x200D),
  (["extend"], .union [markExtend, emojiModifier]),
  (["regionalindicator", "ri"], regionalIndicator),
  (["format", "fo"], wordFormat),
  (["katakana", "ka"], katakanaWord),
  (["hebrewletter", "hl"], hebrewLetter),
  (["aletter", "le"], .without
    (.union [.property .alphabetic,
      listed "jm 4 c 6 6 2 5 7 1 1 1 h gq 3 1 1 17 1 2w 1 vtg f 9 2 2v 2 r4 1"])
    (.union [ideographic, katakanaWord, hebrewLetter, ofScript "hiragana", unspaced, markExtend,
      emojiModifier])),
  (["singlequote", "sq"], .range 0x27 0x27),
  (["doublequote", "dq"], .range 0x22 0x22),
  (["midnumlet", "mb"], listed "1a 1 6ax 2 a 1 17vx 1 50 1 6 1"),
  (["midletter", "ml"], listed "1m 1 3g 1 jz 1 d3 1 44 1 56a 1 17u3 1 1t 1 5g 1"),
  (["midnum", "mn"], listed "18 1 e 1 n6 1 ei 1 3m 2 2m 1 az 1 4sr 1 17t7 1 3 1 1n 1 3 1 53 1 e 1"),
  (["numeric", "nu"], .union [.property .digit, .range 0x66B 0x66B]),
  (["extendnumlet", "ex"], .union [inCategories ["Pc"], .range 0x202F 0x202F]),
  (["wsegspace"], .without (inCategories ["Zs"])
    (.union [.range 0xA0 0xA0, .range 0x2007 0x2007, .range 0x202F 0x202F]))]

def sentenceExtend : CharSet := .union [markExtend, .range 0x200D 0x200D]

def sentenceLower : CharSet := .without (.property .lowercase)
  (.union [.property .graphemeExtend, listed "3bk 17 2 3"])

def sentenceUpper : CharSet := .without
  (.union [.property .uppercase, inCategories ["Lt"]]) (listed "5n4 17 2 3")

def fullStop : CharSet := listed "1a 1 6b9 1 17vx 1 57 1"

def sentenceBreaks : List (List String × CharSet) := [
  (["cr"], .range 13 13),
  (["lf"], .range 10 10),
  (["sep", "se"], newlineMarks),
  (["extend", "ex"], sentenceExtend),
  (["format", "fo"], .union [wordFormat, .range 0x200B 0x200B]),
  (["sp"], .without (.property .blank) (.union [.range 10 10, .range 13 13, newlineMarks])),
  (["lower", "lo"], sentenceLower),
  (["upper", "up"], sentenceUpper),
  (["oletter", "le"], .without
    (.union [.property .alphabetic, .range 0x5F3 0x5F3])
    (.union [sentenceLower, sentenceUpper, sentenceExtend])),
  (["numeric", "nu"], .union [.property .digit, .range 0x66B 0x66C]),
  (["aterm", "at"], fullStop),
  (["scontinue", "sc"],
    listed <| String.join [
      "18 2 c 2 n6 1 da 1 4u 2 dm 1 361 1 5 1 1l6 2 358 1 14pa 2 1 2 s 2 t 2 2 2 2 1 a 1 4o 2 c ",
      "2 20 1"]),
  (["sterm", "st"], .without sentenceTerminal fullStop),
  (["close", "cl"], .union [inCategories ["Ps", "Pe", "Pi", "Pf"],
    listed "y 1 4 1 7qr 6 1b3 2 4 3 2 1 2i5m 3"])]

def releases : List (String × String) := [
    ("1.1", "Ab"), ("2.0", "Ba"), ("2.1", "Bb"), ("3.0", "Ca"), ("3.1", "Cb"), ("3.2", "Cc"),
    ("4.0", "Da"), ("4.1", "Db"), ("5.0", "Ea"), ("5.1", "Eb"), ("5.2", "Ec"), ("6.0", "Fa"),
    ("6.1", "Fb"), ("6.2", "Fc"), ("6.3", "Fd"), ("7.0", "Ga"), ("8.0", "Ha"), ("9.0", "Ia"),
    ("10.0", "Ja"), ("11.0", "Ka"), ("12.0", "La"), ("12.1", "Lb"), ("13.0", "Ma"), ("14.0", "Na"),
    ("15.0", "Oa"), ("15.1", "Ob"), ("16.0", "Pa")]

/-- The characters that there were in a release, which is named by its number with or without a
letter in front. -/
def release? (name : String) : Option CharSet :=
  (releases.find? fun (number, _) =>
    name == number || name == "v" ++ String.ofList (number.toList.filter (· != '.'))).map
      fun (_, code) => .property (.since code)

/-- Blanks, hyphens, underscores and letter case do not matter, nor does a leading `is`. -/
def normalName (name : List Char) : String :=
  let (called, name) := match name with
    | i :: s :: rest =>
      if i.toLower = 'i' ∧ s.toLower = 's' then (true, rest) else (false, i :: s :: rest)
    | name => (false, name)
  let bare := (name.filter fun c => c.toNat < 128 && !(c == ' ' || c == '-' || c == '_')).map Char.toLower
  if called && bare == ['c'] then "isc" else String.ofList bare

def propertySet? (name : List Char) : Option CharSet :=
  let name := normalName name
  (named? binaries name).or ((category? name).or (script? name))

def valueSet? (name value : List Char) : Option CharSet :=
  let value := normalName value
  match normalName name with
  | "generalcategory" | "gc" => category? value
  | "script" | "sc" => script? value
  | "scriptextensions" | "scx" => scriptExtensions? value
  | "age" => release? value
  | "graphemeclusterbreak" | "gcb" => named? graphemeBreaks value
  | "wordbreak" | "wb" => named? wordBreaks value
  | "sentencebreak" | "sb" => named? sentenceBreaks value
  | _ => none

end Accord.Pattern
