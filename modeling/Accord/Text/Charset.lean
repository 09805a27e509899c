import Accord.Text.Ideographs
import Accord.Text.Split
import Accord.Text.Utf8

namespace Accord.Text

inductive Charset where
  | utf8
  | utf16 (bigEndian : Bool)
  | page (codes : String)
  | chinese
  | bigFive
  | eucJapanese
  | isoJapanese
  | shiftJapanese
  | korean
  | unsupported
  | userDefined
  deriving DecidableEq, Repr

namespace Charset

/-- The charsets that write a character in a byte, by their labels. The characters of the bytes from
0x80 on are given as runs: the first of each, or 0 if there is none, and how many there are. -/
def pages : List (List String × String) := [
  (["866", "cp866", "csibm866", "ibm866"], String.join [
    "sw 1c 7f5 3 7b6 1 7c4 1 7dt 2 7di 1 7dh 1 7dv 1 7dd 1 7dj 1 7dp 1 7do 1 7dn 1 7bk 1 7bo 1 ",
    "7ck 1 7cc 1 7bw 1 7b4 1 7cs 1 7dq 2 7dm 1 7dg 1 7e1 1 7dy 1 7ds 1 7dc 1 7e4 1 7dz 2 7dw 2 ",
    "7dl 1 7dk 1 7de 2 7e3 1 7e2 1 7bs 1 7bg 1 7ew 1 7es 1 7f0 1 7f4 1 7eo 1 u8 g sh 1 up 1 sk 1 ",
    "us 1 sn 1 uv 1 su 1 v2 1 4w 1 6qh 1 53 1 6qi 1 6ja 1 4k 1 7fk 1 4g 1"]),
  (["csisolatin2", "iso-8859-2", "iso-ir-101", "iso8859-2", "iso88592", "iso_8859-2",
    "iso_8859-2:1987", "l2", "latin2"], String.join [
    "3k x 78 1 k8 1 8x 1 4k 1 8t 1 9m 1 4n 2 9s 1 9q 1 9w 1 ah 1 4t 1 al 1 aj 1 4w 1 79 1 kb 1 ",
    "8y 1 50 1 8u 1 9n 1 jr 1 54 1 9t 1 9r 1 9x 1 ai 1 kd 1 am 1 ak 1 9g 1 5d 2 76 1 5g 1 8p 1 ",
    "7a 1 5j 1 7g 1 5l 1 7s 1 5n 1 7u 1 5p 2 7i 1 7k 1 8z 1 93 1 5v 2 9c 1 5y 2 9k 1 a6 1 62 1 ",
    "a8 1 64 2 9u 1 67 1 9h 1 69 2 77 1 6c 1 8q 1 7b 1 6f 1 7h 1 6h 1 7t 1 6j 1 7v 1 6l 2 7j 1 ",
    "7l 1 90 1 94 1 6r 2 9d 1 6u 2 9l 1 a7 1 6y 1 a9 1 70 2 9v 1 k9 1"]),
  (["csisolatin3", "iso-8859-3", "iso-ir-109", "iso8859-3", "iso88593", "iso_8859-3",
    "iso_8859-3:1988", "l3", "latin3"], String.join [
    "3k x 86 1 k8 1 4j 2 0 1 84 1 4n 2 8g 1 9q 1 7y 1 8k 1 4t 1 0 1 aj 1 4w 1 87 1 4y 4 85 1 ",
    "53 2 8h 1 9r 1 7z 1 8l 1 59 1 0 1 ak 1 5c 3 0 1 5g 1 7e 1 7c 1 5j 9 0 1 5t 4 80 1 5y 2 7w 1 ",
    "61 4 a4 1 9o 1 67 4 0 1 6c 1 7f 1 7d 1 6f 9 0 1 6p 4 81 1 6u 2 7x 1 6x 4 a5 1 9p 1 k9 1"]),
  (["csisolatin4", "iso-8859-4", "iso-ir-110", "iso8859-4", "iso88594", "iso_8859-4",
    "iso_8859-4:1988", "l4", "latin4"], String.join [
    "3k x 78 1 8o 1 9i 1 4k 1 88 1 8r 1 4n 2 9s 1 7m 1 82 1 9y 1 4t 1 al 1 4v 2 79 1 kb 1 9j 1 ",
    "50 1 89 1 8s 1 jr 1 54 1 9t 1 7n 1 83 1 9z 1 96 1 am 1 97 1 74 1 5d 6 8e 1 7g 1 5l 1 7s 1 ",
    "5n 1 7q 1 5p 2 8a 1 7k 1 91 1 98 1 8m 1 5w 5 aa 1 62 3 a0 1 a2 1 67 1 75 1 69 6 8f 1 7h 1 ",
    "6h 1 7t 1 6j 1 7r 1 6l 2 8b 1 7l 1 92 1 99 1 8n 1 6s 5 ab 1 6y 3 a1 1 a3 1 k9 1"]),
  (["csisolatincyrillic", "cyrillic", "iso-8859-5", "iso-ir-144", "iso8859-5", "iso88595",
    "iso_8859-5", "iso_8859-5:1988"],
    "3k x sh c 4t 1 su 1u 6ja 1 up c 4n 1 v2 2"),
  (["arabic", "asmo-708", "csiso88596e", "csiso88596i", "csisolatinarabic", "ecma-114",
    "iso-8859-6", "iso-8859-6-e", "iso-8859-6-i", "iso-ir-127", "iso8859-6", "iso88596",
    "iso_8859-6", "iso_8859-6:1987"],
    "3k x 0 3 4k 1 0 7 170 1 4t 1 0 d 17f 1 0 3 17j 1 0 1 17l q 0 5 18g j 0 d"),
  (["csisolatingreek", "ecma-118", "elot_928", "greek", "greek8", "iso-8859-7", "iso-ir-126",
    "iso8859-7", "iso88597", "iso_8859-7", "iso_8859-7:1987", "sun_eu_greek"], String.join [
    "3k x 6c8 2 4j 1 6gc 1 6gf 1 4m 4 oq 1 4r 3 0 1 6c5 1 4w 4 p0 3 53 1 p4 3 57 1 p8 1 59 1 ",
    "pa k 0 1 pv 18 0 1"]),
  (["csiso88598e", "csiso88598i", "csisolatinhebrew", "hebrew", "iso-8859-8", "iso-8859-8-e",
    "iso-8859-8-i", "iso-ir-138", "iso8859-8", "iso88598", "iso_8859-8", "iso_8859-8:1988",
    "logical", "visual"],
    "3k x 0 1 4i 8 5z 1 4r f 6v 1 57 4 0 w 6c7 1 15c r 0 2 6by 2 0 1"),
  (["csisolatin6", "iso-8859-10", "iso-ir-157", "iso8859-10", "iso885910", "l6", "latin6"],
    String.join [
    "3k x 78 1 7m 1 82 1 8a 1 88 1 8m 1 4n 1 8r 1 7k 1 9s 1 9y 1 al 1 4t 1 a2 1 96 1 4w 1 79 1 ",
    "7n 1 83 1 8b 1 89 1 8n 1 53 1 8s 1 7l 1 9t 1 9z 1 am 1 6c5 1 a3 1 97 1 74 1 5d 6 8e 1 7g 1 ",
    "5l 1 7s 1 5n 1 7q 1 5p 4 91 1 98 1 5v 4 a0 1 60 1 aa 1 62 6 75 1 69 6 8f 1 7h 1 6h 1 7t 1 ",
    "6j 1 7r 1 6l 4 92 1 99 1 6r 4 a1 1 6w 1 ab 1 6y 5 8o 1"]),
  (["iso-8859-13", "iso8859-13", "iso885913"], String.join [
    "3k x 6cd 1 4i 3 6ce 1 4m 2 60 1 4p 1 9i 1 4r 4 5i 1 4w 4 6cc 1 51 3 6w 1 55 1 9j 1 57 4 ",
    "6e 1 78 1 8e 1 74 1 7a 1 5g 2 7s 1 7m 1 7g 1 5l 1 ah 1 7q 1 82 1 8m 1 8a 1 8r 1 9s 1 8z 1 ",
    "91 1 5v 1 98 1 5x 3 aa 1 8x 1 9m 1 a2 1 64 1 aj 1 al 1 67 1 79 1 8f 1 75 1 7b 1 6c 2 7t 1 ",
    "7n 1 7h 1 6h 1 ai 1 7r 1 83 1 8n 1 8b 1 8s 1 9t 1 90 1 92 1 6r 1 99 1 6t 3 ab 1 8y 1 9n 1 ",
    "a3 1 70 1 ak 1 am 1 6c9 1"]),
  (["iso-8859-14", "iso8859-14", "iso885914"], String.join [
    "3k x 5xe 2 4j 1 7e 2 5xm 1 4n 1 60w 1 4p 1 60y 1 5xn 1 642 1 4t 2 ag 1 5y6 2 80 2 5z4 2 ",
    "52 1 5zq 1 60x 1 5zr 1 60z 1 600 1 643 1 610 2 601 1 5c g ac 1 5t 6 60a 1 60 6 ae 1 67 h ",
    "ad 1 6p 6 60b 1 6w 6 af 1 73 1"]),
  (["csisolatin9", "iso-8859-15", "iso8859-15", "iso885915", "iso_8859-15", "l9"],
    "3k 10 6gc 1 4l 1 9s 1 4n 1 9t 1 4p b al 1 51 3 am 1 55 3 9e 2 ag 1 5b 1t"),
  (["iso-8859-16"], String.join [
    "3k x 78 2 8x 1 6gc 1 6ce 1 9s 1 4n 1 9t 1 4p 1 ew 1 4r 1 ah 1 4t 1 ai 2 4w 2 7g 1 8y 1 al 1 ",
    "6cd 1 52 2 am 1 7h 1 ex 1 57 1 9e 2 ag 1 ak 1 5c 3 76 1 5g 1 7a 1 5i a 7k 1 8z 1 5u 3 9c 1 ",
    "5y 1 9m 1 a8 1 61 4 7s 1 ey 1 67 4 77 1 6c 1 7b 1 6e a 7l 1 90 1 6q 3 9d 1 6u 1 9n 1 a9 1 ",
    "6x 4 7t 1 ez 1 73 1"]),
  (["cskoi8r", "koi", "koi8", "koi8-r", "koi8_r"], String.join [
    "7b4 1 7b6 1 7bg 1 7bk 1 7bo 1 7bs 1 7bw 1 7c4 1 7cc 1 7ck 1 7cs 1 7eo 1 7es 1 7ew 1 7f0 1 ",
    "7f4 4 6xs 1 7fk 1 6qh 2 6rs 1 6sk 2 4g 1 6xt 1 4w 1 4y 1 53 1 6v 1 7dc 3 up 1 7df f sh 1 ",
    "7du b 4p 1 um 1 ts 2 ue 1 tw 2 uc 1 tv 1 ud 1 u0 8 un 1 u8 4 ty 1 tu 1 uk 1 uj 1 tz 1 ug 1 ",
    "ul 1 uh 1 uf 1 ui 1 tq 1 sw 2 ti 1 t0 2 tg 1 sz 1 th 1 t4 8 tr 1 tc 4 t2 1 sy 1 to 1 tn 1 ",
    "t3 1 tk 1 tp 1 tl 1 tj 1 tm 1"]),
  (["koi8-ru", "koi8-u"], String.join [
    "7b4 1 7b6 1 7bg 1 7bk 1 7bo 1 7bs 1 7bw 1 7c4 1 7cc 1 7ck 1 7cs 1 7eo 1 7es 1 7ew 1 7f0 1 ",
    "7f4 4 6xs 1 7fk 1 6qh 2 6rs 1 6sk 2 4g 1 6xt 1 4w 1 4y 1 53 1 6v 1 7dc 3 up 1 us 1 7dg 1 ",
    "uu 2 7dj 5 wh 1 v2 1 7dq 4 sh 1 sk 1 7dv 1 sm 2 7dy 5 wg 1 su 1 4p 1 um 1 ts 2 ue 1 tw 2 ",
    "uc 1 tv 1 ud 1 u0 8 un 1 u8 4 ty 1 tu 1 uk 1 uj 1 tz 1 ug 1 ul 1 uh 1 uf 1 ui 1 tq 1 sw 2 ",
    "ti 1 t0 2 tg 1 sz 1 th 1 t4 8 tr 1 tc 4 t2 1 sy 1 to 1 tn 1 t3 1 tk 1 tp 1 tl 1 tj 1 tm 1"]),
  (["csmacintosh", "mac", "macintosh", "x-mac-roman"], String.join [
    "5g 2 5j 1 5l 1 5t 1 5y 1 64 1 69 1 68 1 6a 1 6c 1 6b 1 6d 1 6f 1 6h 1 6g 1 6i 2 6l 1 6k 1 ",
    "6m 2 6p 1 6r 1 6q 1 6s 1 6u 1 6t 1 6y 1 6x 1 6z 2 6cg 1 4w 1 4i 2 4n 1 6ci 1 52 1 67 1 4u 1 ",
    "4p 1 6jm 1 50 1 4o 1 6sg 1 5i 1 60 1 6qm 1 4x 1 6sk 2 4l 1 51 1 6pu 1 6q9 1 6q7 1 qo 1 ",
    "6qz 1 4q 1 56 1 q1 1 6e 1 6w 1 5b 1 4h 1 4s 1 6qi 1 b6 1 6rs 1 6py 1 4r 1 57 1 6cm 1 4g 1 ",
    "5c 1 5f 1 5x 1 9e 2 6c3 2 6cc 2 6c8 2 6v 1 7gq 1 73 1 ag 1 6dg 1 6gc 1 6d5 2 1dkx 2 6ch 1 ",
    "53 1 6ca 1 6ce 1 6cw 1 5e 1 5m 1 5d 1 5n 1 5k 1 5p 3 5o 1 5v 2 1d6n 1 5u 1 62 2 61 1 8h 1 ",
    "jq 1 kc 1 4v 1 k8 3 54 1 kd 1 kb 1 jr 1"]),
  (["x-mac-cyrillic", "x-mac-ukrainian"], String.join [
    "sw w 6cg 1 4w 1 wg 1 4j 1 4n 1 6ci 1 52 1 sm 1 4u 1 4p 1 6jm 1 si 1 uq 1 6sg 1 sj 1 ur 1 ",
    "6qm 1 4x 1 6sk 2 uu 1 51 1 wh 1 so 1 sk 1 us 1 sn 1 uv 1 sp 1 ux 1 sq 1 uy 1 uw 1 sl 1 4s 1 ",
    "6qi 1 b6 1 6rs 1 6py 1 4r 1 57 1 6cm 1 4g 1 sr 1 uz 1 ss 1 v0 1 ut 1 6c3 2 6cc 2 6c8 2 6v 1 ",
    "6ce 1 su 1 v2 1 sv 1 v3 1 6ja 1 sh 1 up 1 un 1 ts v 6gc 1"]),
  (["dos-874", "iso-8859-11", "iso8859-11", "iso885911", "tis-620", "windows-874"],
    "6gc 1 3l 4 6cm 1 3q b 6c8 2 6cc 2 6ci 1 6c3 2 48 9 2rl 1m 0 4 2tb t 0 4"),
  (["cp1250", "windows-1250", "x-cp1250"], String.join [
    "6gc 1 3l 1 6ca 1 3n 1 6ce 1 6cm 1 6cg 2 3s 1 6cw 1 9s 1 6d5 1 9m 1 9w 1 al 1 ah 1 40 1 ",
    "6c8 2 6cc 2 6ci 1 6c3 2 48 1 6jm 1 9t 1 6d6 1 9n 1 9x 1 am 1 ai 1 4g 1 jr 1 k8 1 8x 1 4k 1 ",
    "78 1 4m 4 9q 1 4r 4 aj 1 4w 2 kb 1 8y 1 50 5 79 1 9r 1 57 1 8t 1 kd 1 8u 1 ak 1 9g 1 5d 2 ",
    "76 1 5g 1 8p 1 7a 1 5j 1 7g 1 5l 1 7s 1 5n 1 7u 1 5p 2 7i 1 7k 1 8z 1 93 1 5v 2 9c 1 5y 2 ",
    "9k 1 a6 1 62 1 a8 1 64 2 9u 1 67 1 9h 1 69 2 77 1 6c 1 8q 1 7b 1 6f 1 7h 1 6h 1 7t 1 6j 1 ",
    "7v 1 6l 2 7j 1 7l 1 90 1 94 1 6r 2 9d 1 6u 2 9l 1 a7 1 6y 1 a9 1 70 2 9v 1 k9 1"]),
  (["cp1251", "windows-1251", "x-cp1251"], String.join [
    "si 2 6ca 1 ur 1 6ce 1 6cm 1 6cg 2 6gc 1 6cw 1 sp 1 6d5 1 sq 1 ss 1 sr 1 sv 1 uq 1 6c8 2 ",
    "6cc 2 6ci 1 6c3 2 48 1 6jm 1 ux 1 6d6 1 uy 1 v0 1 uz 1 v3 1 4g 1 su 1 v2 1 so 1 4k 1 wg 1 ",
    "4m 2 sh 1 4p 1 sk 1 4r 4 sn 1 4w 2 sm 1 uu 1 wh 1 51 3 up 1 6ja 1 us 1 57 1 uw 1 sl 1 ut 1 ",
    "uv 1 sw 1s"]),
  (["ansi_x3.4-1968", "ascii", "cp1252", "cp819", "csisolatin1", "ibm819", "iso-8859-1",
    "iso-ir-100", "iso8859-1", "iso88591", "iso_8859-1", "iso_8859-1:1987", "l1", "latin1",
    "us-ascii", "windows-1252", "x-cp1252"], String.join [
    "6gc 1 3l 1 6ca 1 b6 1 6ce 1 6cm 1 6cg 2 jq 1 6cw 1 9s 1 6d5 1 9e 1 3x 1 al 1 3z 2 6c8 2 ",
    "6cc 2 6ci 1 6c3 2 kc 1 6jm 1 9t 1 6d6 1 9f 1 4d 1 am 1 ag 1 4g 2o"]),
  (["cp1253", "windows-1253", "x-cp1253"], String.join [
    "6gc 1 3l 1 6ca 1 b6 1 6ce 1 6cm 1 6cg 2 3s 1 6cw 1 3u 1 6d5 1 3w 5 6c8 2 6cc 2 6ci 1 6c3 2 ",
    "48 1 6jm 1 4a 1 6d6 1 4c 5 p1 2 4j 7 0 1 4r 4 6c5 1 4w 4 p0 1 51 3 p4 3 57 1 p8 1 59 1 pa k ",
    "0 1 pv 18 0 1"]),
  (["cp1254", "csisolatin5", "iso-8859-9", "iso-ir-148", "iso8859-9", "iso88599", "iso_8859-9",
    "iso_8859-9:1989", "l5", "latin5", "windows-1254", "x-cp1254"], String.join [
    "6gc 1 3l 1 6ca 1 b6 1 6ce 1 6cm 1 6cg 2 jq 1 6cw 1 9s 1 6d5 1 9e 1 3x 4 6c8 2 6cc 2 6ci 1 ",
    "6c3 2 kc 1 6jm 1 9t 1 6d6 1 9f 1 4d 2 ag 1 4g 1c 7y 1 5t c 8g 1 9q 1 67 h 7z 1 6p c 8h 1 ",
    "9r 1 73 1"]),
  (["cp1255", "windows-1255", "x-cp1255"], String.join [
    "6gc 1 3l 1 6ca 1 b6 1 6ce 1 6cm 1 6cg 2 jq 1 6cw 1 3u 1 6d5 1 3w 5 6c8 2 6cc 2 6ci 1 6c3 2 ",
    "kc 1 6jm 1 4a 1 6d6 1 4c 8 6ga 1 4l 5 5z 1 4r f 6v 1 57 5 14g k 168 5 0 7 15c r 0 2 6by 2 ",
    "0 1"]),
  (["cp1256", "windows-1256", "x-cp1256"], String.join [
    "6gc 1 1a6 1 6ca 1 b6 1 6ce 1 6cm 1 6cg 2 jq 1 6cw 1 1a1 1 6d5 1 9e 1 1ae 1 1aw 1 1ag 1 ",
    "1bj 1 6c8 2 6cc 2 6ci 1 6c3 2 1bd 1 6jm 1 1ap 1 6d6 1 9f 1 6bw 2 1bu 1 4g 1 170 1 4i 8 ",
    "1by 1 4r f 17f 1 57 4 17j 1 1c1 1 17l m 5z 1 187 4 18g 4 68 1 18k 1 6a 1 18l 4 6f 5 18p 2 ",
    "6m 2 18r 4 6s 1 18v 2 6v 1 18x 1 6x 1 18y 1 6z 2 6by 2 1ci 1"]),
  (["cp1257", "windows-1257", "x-cp1257"], String.join [
    "6gc 1 3l 1 6ca 1 3n 1 6ce 1 6cm 1 6cg 2 3s 1 6cw 1 3u 1 6d5 1 3w 1 4o 1 jr 1 54 1 40 1 ",
    "6c8 2 6cc 2 6ci 1 6c3 2 48 1 6jm 1 4a 1 6d6 1 4c 1 4v 1 kb 1 4f 2 0 1 4i 3 0 1 4m 2 60 1 ",
    "4p 1 9i 1 4r 4 5i 1 4w 8 6w 1 55 1 9j 1 57 4 6e 1 78 1 8e 1 74 1 7a 1 5g 2 7s 1 7m 1 7g 1 ",
    "5l 1 ah 1 7q 1 82 1 8m 1 8a 1 8r 1 9s 1 8z 1 91 1 5v 1 98 1 5x 3 aa 1 8x 1 9m 1 a2 1 64 1 ",
    "aj 1 al 1 67 1 79 1 8f 1 75 1 7b 1 6c 2 7t 1 7n 1 7h 1 6h 1 ai 1 7r 1 83 1 8n 1 8b 1 8s 1 ",
    "9t 1 90 1 92 1 6r 1 99 1 6t 3 ab 1 8y 1 9n 1 a3 1 70 1 ak 1 am 1 k9 1"]),
  (["cp1258", "windows-1258", "x-cp1258"], String.join [
    "6gc 1 3l 1 6ca 1 b6 1 6ce 1 6cm 1 6cg 2 jq 1 6cw 1 3u 1 6d5 1 9e 1 3x 4 6c8 2 6cc 2 6ci 1 ",
    "6c3 2 kc 1 6jm 1 4a 1 6d6 1 9f 1 4d 2 ag 1 4g z 76 1 5g 8 lc 1 5p 3 7k 1 5t 1 ll 1 5v 2 ",
    "bk 1 5y 7 bz 1 lf 1 67 4 77 1 6c 8 ld 1 6l 3 7l 1 6p 1 mb 1 6r 2 bl 1 6u 7 c0 1 6gb 1 73 1"])]

def labels : List (List String × Charset) := [
  (["unicode-1-1-utf-8", "unicode11utf8", "unicode20utf8", "utf-8", "utf8", "x-unicode20utf8"],
    .utf8),
  (["csunicode", "iso-10646-ucs-2", "ucs-2", "unicode", "unicodefeff", "utf-16", "utf-16le"],
    .utf16 false),
  (["unicodefffe", "utf-16be"], .utf16 true),
  (["chinese", "csgb2312", "csiso58gb231280", "gb18030", "gb2312", "gb_2312", "gb_2312-80", "gbk",
    "iso-ir-58", "x-gbk"], .chinese),
  (["big5", "big5-hkscs", "cn-big5", "csbig5", "x-x-big5"], .bigFive),
  (["cseucpkdfmtjapanese", "euc-jp", "x-euc-jp"], .eucJapanese),
  (["csiso2022jp", "iso-2022-jp"], .isoJapanese),
  (["csshiftjis", "ms932", "ms_kanji", "shift-jis", "shift_jis", "sjis", "windows-31j", "x-sjis"],
    .shiftJapanese),
  (["cseuckr", "csksc56011987", "euc-kr", "iso-ir-149", "korean", "ks_c_5601-1987",
    "ks_c_5601-1989", "ksc5601", "ksc_5601", "windows-949"], .korean),
  (["csiso2022kr", "hz-gb-2312", "iso-2022-cn", "iso-2022-cn-ext", "iso-2022-kr", "replacement"],
    .unsupported),
  (["x-user-defined"], .userDefined)]

def isAsciiBlank (c : Char) : Bool := [9, 10, 12, 13, 32].contains c.toNat

def ofLabel? (label : String) : Option Charset :=
  let chars := dropEndWhile isAsciiBlank (label.toList.dropWhile isAsciiBlank)
  let label := String.ofList (chars.map Char.toLower)
  ((labels.find? fun (names, _) => names.contains label).map (·.2)).or
    ((pages.find? fun (names, _) => names.contains label).map fun (_, codes) => .page codes)

/-- The runs of a page with the first byte of each. -/
def placeCodes (byte : Nat) : List Nat → List (Nat × Nat × Nat)
  | code :: length :: rest => (byte, code, length) :: placeCodes (byte + length) rest
  | _ => []

def pageChar (runs : List (Nat × Nat × Nat)) (b : UInt8) : Char :=
  if b.toNat < 0x80 then Char.ofNat b.toNat
  else match runs.find? fun (first, _, length) => b.toNat < first + length with
    | some (first, code, _) =>
      if code = 0 then Text.replacement else Char.ofNat (code + (b.toNat - first))
    | none => Text.replacement

/-- The 16-bit units of bytes, and whether a byte is left over. -/
def units (bigEndian : Bool) (bytes : Bytes) : List Nat × Bool :=
  let (units, first) := bytes.foldl (fun (units, first) b =>
    match first with
    | none => (units, some b.toNat)
    | some a =>
      ((if bigEndian then a * 256 + b.toNat else b.toNat * 256 + a) :: units, none))
    (([] : List Nat), (none : Option Nat))
  (units.reverse, first.isSome)

def isHighSurrogate (u : Nat) : Bool := 0xD800 ≤ u && u < 0xDC00

def isLowSurrogate (u : Nat) : Bool := 0xDC00 ≤ u && u < 0xE000

/-- Decodes units; `high` is the high surrogate before them. Units that stand alone where two are
needed become replacement characters. -/
def utf16Chars (acc : List Char) (high : Option Nat) (torn : Bool) : List Nat → List Char
  | [] => (if high.isSome || torn then replacement :: acc else acc).reverse
  | u :: rest =>
    match high with
    | some h =>
      if isLowSurrogate u then
        let c := Char.ofNat (0x10000 + (h - 0xD800) * 0x400 + (u - 0xDC00))
        utf16Chars (c :: acc) none torn rest
      else if isHighSurrogate u then utf16Chars (replacement :: acc) (some u) torn rest
      else utf16Chars (Char.ofNat u :: replacement :: acc) none torn rest
    | none =>
      if isHighSurrogate u then utf16Chars acc (some u) torn rest
      else if isLowSurrogate u then utf16Chars (replacement :: acc) none torn rest
      else utf16Chars (Char.ofNat u :: acc) none torn rest

/-- Where a byte stands among those from 0x40 on, of which some are left out behind 0x7E. -/
def trail (gap : Nat) (b : Nat) : Nat := if b < 0x7F then b - 0x40 else b - 0x40 - gap

/-- What a broken character comes to, an ASCII byte within it standing for itself. -/
def broken (b : Nat) : List Char × Nat :=
  (if b < 0x80 then [Text.replacement, Char.ofNat b] else [Text.replacement], 0)

def found (b : Nat) (c? : Option Char) : List Char × Nat :=
  match c? with
  | some c => ([c], 0)
  | none => broken b

/-- Decodes bytes by steps. A step is given what has been begun, or 0, and a byte, and tells which
characters are done and what is begun then. -/
def decodeBy (step : Nat → Nat → List Char × Nat) (bytes : Bytes) : String :=
  let (chars, begun) := bytes.foldl (fun (chars, begun) b =>
    let (done, begun) := step begun b.toNat
    (done.reverse ++ chars, begun)) (([] : List Char), 0)
  String.ofList (if begun = 0 then chars else Text.replacement :: chars).reverse

def shiftStep (begun b : Nat) : List Char × Nat :=
  if begun = 0 then
    if b ≤ 0x80 then ([Char.ofNat b], 0)
    else if 0xA1 ≤ b ∧ b ≤ 0xDF then ([Char.ofNat (0xFF61 + (b - 0xA1))], 0)
    else if b = 0xA0 ∨ 0xFD ≤ b then broken b
    else ([], b)
  else if b < 0x40 ∨ b = 0x7F ∨ 0xFD ≤ b then broken b
  else
    let place := (begun - if begun < 0xA0 then 0x81 else 0xC1) * 188 + trail 1 b
    if 8836 ≤ place ∧ place ≤ 10715 then ([Char.ofNat (0xE000 + (place - 8836))], 0)
    else found b (jis0208.char? place)

def isHigh (b : Nat) : Bool := 0xA1 ≤ b && b ≤ 0xFE

/-- What is begun is a byte, or a byte behind the one that leads to the second table. -/
def eucStep (begun b : Nat) : List Char × Nat :=
  if begun = 0 then
    if b < 0x80 then ([Char.ofNat b], 0)
    else if b = 0x8E ∨ b = 0x8F ∨ isHigh b then ([], b)
    else broken b
  else if begun = 0x8E ∧ 0xA1 ≤ b ∧ b ≤ 0xDF then ([Char.ofNat (0xFF61 + (b - 0xA1))], 0)
  else if begun = 0x8F ∧ isHigh b then ([], 0x100 + b)
  else if begun ≤ 0x8F ∨ !isHigh b then broken b
  else if begun < 0x100 then found b (jis0208.char? ((begun - 0xA1) * 94 + (b - 0xA1)))
  else found b (jis0212.char? ((begun - 0x100 - 0xA1) * 94 + (b - 0xA1)))

/-- Syllables that the table lacks stand in front of it, between letters in the first rows. -/
def koreanChar? (first second : Nat) : Option Char :=
  let lacks := (0x41 ≤ second && second ≤ 0x5A) || (0x61 ≤ second && second ≤ 0x7A) ||
    (0x81 ≤ second && (first ≤ 0xA0 || second ≤ 0xA0))
  if !lacks then
    if first ≤ 0xA0 then none else koreanTable.char? ((first - 0x81) * 190 + (second - 0x41))
  else
    let column := if second ≤ 0x5A then second - 0x41
      else if second ≤ 0x7A then second - 0x61 + 26 else second - 0x81 + 52
    otherSyllables[if first ≤ 0xA0 then (first - 0x81) * 178 + column
      else 32 * 178 + (first - 0xA1) * 84 + column]?

def koreanStep (begun b : Nat) : List Char × Nat :=
  if begun = 0 then
    if b < 0x80 then ([Char.ofNat b], 0) else if b = 0x80 ∨ b = 0xFF then broken b else ([], b)
  else if b < 0x41 ∨ b = 0xFF then broken b
  else found b (koreanChar? begun b)

/-- Four places hold a letter with two accents. -/
def bigFiveStep (begun b : Nat) : List Char × Nat :=
  if begun = 0 then
    if b < 0x80 then ([Char.ofNat b], 0) else if b = 0x80 ∨ b = 0xFF then broken b else ([], b)
  else if b < 0x40 ∨ (0x7F ≤ b ∧ b ≤ 0xA0) ∨ b = 0xFF then broken b
  else
    let place := (begun - 0x81) * 157 + trail 34 b
    match [(1133, 0xCA, 0x304), (1135, 0xCA, 0x30C), (1164, 0xEA, 0x304),
        (1166, 0xEA, 0x30C)].lookup place with
    | some (letter, accent) => ([Char.ofNat letter, Char.ofNat accent], 0)
    | none => found b (bigFiveTable.char? place)

def chineseChar? (first second : Nat) : Option Char :=
  let column := trail 1 second
  if first ≤ 0xA0 then otherIdeographs[(first - 0x81) * 190 + column]?
  else if 0xAA ≤ first ∧ second ≤ 0xA0 then
    otherIdeographs[32 * 190 + (first - 0xAA) * 96 + column]?
  else chineseTable.char? ((first - 0x81) * 190 + column)

/-- The characters of four bytes: those of the first plane in order, and then the other planes. -/
def fourByteChar? (place : Nat) : Option Char :=
  if place = 7457 then some (Char.ofNat 0xE7C7)
  else if 189000 ≤ place then
    if place ≤ 1237575 then some (Char.ofNat (0x10000 + (place - 189000))) else none
  else nth place fourByteRuns
where
  nth : Nat → List (Nat × Nat) → Option Char
    | _, [] => none
    | place, (first, last) :: runs =>
      if first + place ≤ last then some (Char.ofNat (first + place))
      else nth (place - (last + 1 - first)) runs

def chinesePair (first b : Nat) : List Char × Nat :=
  if 0x30 ≤ b ∧ b ≤ 0x39 then ([], first * 0x100 + b)
  else if b < 0x40 ∨ b = 0x7F ∨ b = 0xFF then broken b
  else found b (chineseChar? first b)

def chineseLead (b : Nat) : List Char × Nat :=
  if b < 0x80 then ([Char.ofNat b], 0)
  else if b = 0x80 then ([Char.ofNat 0x20AC], 0)
  else if b = 0xFF then ([Text.replacement], 0)
  else ([], b)

/-- What is begun is up to three bytes. Of a broken character, all but the first byte are read
again. -/
def chineseStep (begun b : Nat) : List Char × Nat :=
  let digit := fun n => [Text.replacement, Char.ofNat (n % 0x100)]
  if begun = 0 then chineseLead b
  else if begun < 0x100 then chinesePair begun b
  else if begun < 0x10000 then
    if 0x81 ≤ b ∧ b ≤ 0xFE then ([], begun * 0x100 + b)
    else
      let (chars, begun') := chineseLead b
      (digit begun ++ chars, begun')
  else
    let third := begun % 0x100
    if 0x30 ≤ b ∧ b ≤ 0x39 then
      let place := (begun / 0x10000 - 0x81) * 12600 + (begun / 0x100 % 0x100 - 0x30) * 1260 +
        (third - 0x81) * 10 + (b - 0x30)
      ([(fourByteChar? place).getD Text.replacement], 0)
    else
      let (chars, begun') := chinesePair third b
      (digit (begun / 0x100) ++ chars, begun')

inductive Mode where
  | ascii
  | roman
  | kana
  | pairs
  deriving DecidableEq, Repr

/-- Where a text with escapes is read: how bytes are meant, the byte of a pair or of an escape that
is begun, and whether nothing has come since the last escape. -/
structure Escaping where
  mode : Mode := .ascii
  lead : Option Nat := none
  escape : Option (Option Nat) := none
  bare : Bool := false

def Mode.ofEscape? (first second : Nat) : Option Mode :=
  match first, second with
  | 0x28, 0x42 => some ascii
  | 0x28, 0x4A => some roman
  | 0x28, 0x49 => some kana
  | 0x24, 0x40 | 0x24, 0x42 => some pairs
  | _, _ => none

def Escaping.plain (s : Escaping) (b : Nat) : List Char × Escaping :=
  let fault : List Char × Escaping :=
    ([Text.replacement], { s with lead := none, bare := false })
  let char := fun n => ([Char.ofNat n], { s with bare := false })
  match s.mode with
  | .pairs =>
    match s.lead with
    | some lead =>
      if b = 0x1B then ([Text.replacement], { s with lead := none, escape := some none })
      else if 0x21 ≤ b ∧ b ≤ 0x7E then
        let c? := jis0208.char? ((lead - 0x21) * 94 + (b - 0x21))
        ([c?.getD Text.replacement], { s with lead := none })
      else ([Text.replacement], { s with lead := none })
    | none =>
      if b = 0x1B then ([], { s with escape := some none })
      else if 0x21 ≤ b ∧ b ≤ 0x7E then ([], { s with lead := some b, bare := false })
      else fault
  | mode =>
    if b = 0x1B then ([], { s with escape := some none })
    else if mode = .kana then
      if 0x21 ≤ b ∧ b ≤ 0x5F then char (0xFF61 + (b - 0x21)) else fault
    else if b = 0x0E ∨ b = 0x0F ∨ 0x80 ≤ b then fault
    else if mode = .roman ∧ b = 0x5C then char 0xA5
    else if mode = .roman ∧ b = 0x7E then char 0x203E
    else char b

/-- Leaves an escape that is none: what was read of it is read again. -/
def Escaping.resume (s : Escaping) (bytes : List Nat) : List Char × Escaping :=
  bytes.foldl (fun (chars, s) b =>
    let (more, s) := s.plain b
    (chars ++ more, s)) ([Text.replacement], { s with escape := none, bare := false })

def Escaping.step (s : Escaping) (b : Nat) : List Char × Escaping :=
  match s.escape with
  | none => s.plain b
  | some none =>
    if b = 0x24 ∨ b = 0x28 then ([], { s with escape := some (some b) }) else s.resume [b]
  | some (some first) =>
    match Mode.ofEscape? first b with
    | some mode =>
      (if s.bare then [Text.replacement] else [],
        { mode := mode, lead := none, escape := none, bare := true })
    | none => s.resume [first, b]

def decodeEscaped (bytes : Bytes) : String :=
  let (chars, s) := bytes.foldl (fun (chars, s) b =>
    let (done, s) := Escaping.step s b.toNat
    (done.reverse ++ chars, s)) (([] : List Char), ({} : Escaping))
  let (rest, s) := match s.escape with
    | some begun => s.resume begun.toList
    | none => ([], s)
  String.ofList (chars.reverse ++ rest ++ if s.lead.isSome then [Text.replacement] else [])

def decodeBare (charset : Charset) (bytes : Bytes) : String :=
  match charset with
  | utf8 => ofUtf8Lossy bytes
  | utf16 bigEndian =>
    let (units, torn) := units bigEndian bytes
    String.ofList (utf16Chars [] none torn units)
  | page codes =>
    let runs := placeCodes 0x80 (readNumbers codes)
    String.ofList (bytes.map (pageChar runs))
  | chinese => decodeBy chineseStep bytes
  | bigFive => decodeBy bigFiveStep bytes
  | eucJapanese => decodeBy eucStep bytes
  | isoJapanese => decodeEscaped bytes
  | shiftJapanese => decodeBy shiftStep bytes
  | korean => decodeBy koreanStep bytes
  | unsupported => if bytes.isEmpty then "" else Text.replacement.toString
  | userDefined => String.ofList (bytes.map fun b =>
    Char.ofNat (if b.toNat < 0x80 then b.toNat else 0xF780 + (b.toNat - 0x80)))

def decode (charset : Charset) (bytes : Bytes) : String :=
  match bytes with
  | 0xEF :: 0xBB :: 0xBF :: rest => utf8.decodeBare rest
  | 0xFF :: 0xFE :: rest => (utf16 false).decodeBare rest
  | 0xFE :: 0xFF :: rest => (utf16 true).decodeBare rest
  | _ => charset.decodeBare bytes

end Charset

end Accord.Text
