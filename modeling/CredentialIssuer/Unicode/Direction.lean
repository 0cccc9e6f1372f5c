import CredentialIssuer.Unicode.Runs

/-! Which way characters are written. -/
namespace CredentialIssuer.Unicode

inductive Direction where
  | leftToRight
  | rightToLeft
  | arabicLetter
  | europeanNumber
  | arabicNumber
  | europeanSeparator
  | europeanTerminator
  | commonSeparator
  | nonspacingMark
  | boundaryNeutral
  | otherNeutral
  /-- Separators of paragraphs and fields, white space and explicit marks. -/
  | other
  deriving DecidableEq, Repr

private def Direction.ofWord (word : List Char) : Direction :=
  match String.ofList word with
  | "L" => .leftToRight
  | "R" => .rightToLeft
  | "AL" => .arabicLetter
  | "EN" => .europeanNumber
  | "AN" => .arabicNumber
  | "ES" => .europeanSeparator
  | "ET" => .europeanTerminator
  | "CS" => .commonSeparator
  | "NSM" => .nonspacingMark
  | "BN" => .boundaryNeutral
  | "ON" => .otherNeutral
  | _ => .other

private def directionRuns : List (Nat × Direction) := classRuns Direction.ofWord
  ["9 BN 1 S 1 B 1 S 1 WS 1 B 14 BN 3 B 1 S 1 WS 2 ON 3 ET 5 ON 1 ES 1 CS 1 ES 2 CS 10 EN 1 CS",
   "6 ON 26 L 6 ON 26 L 4 ON 6 BN 1 B 26 BN 1 CS 1 ON 4 ET 4 ON 1 L 2 ON 1 BN 2 ON 2 ET 2 EN 1",
   "ON 1 L 3 ON 1 EN 1 L 5 ON 23 L 1 ON 31 L 1 ON 449 L 2 ON 7 L 14 ON 2 L 14 ON 5 L 9 ON 1 L",
   "17 ON 112 NSM 4 L 2 ON 8 L 1 ON 5 L 2 ON 1 L 1 ON 110 L 1 ON 140 L 7 NSM 256 L 1 ON 2 L 2",
   "ON 1 ET 1 R 45 NSM 1 R 1 NSM 1 R 2 NSM 1 R 2 NSM 1 R 1 NSM 56 R 6 AN 2 ON 1 AL 2 ET 1 AL 1",
   "CS 1 AL 2 ON 11 NSM 48 AL 21 NSM 10 AN 1 ET 2 AN 3 AL 1 NSM 101 AL 7 NSM 1 AN 1 ON 6 NSM 2",
   "AL 2 NSM 1 ON 4 NSM 2 AL 10 EN 23 AL 1 NSM 30 AL 27 NSM 91 AL 11 NSM 15 AL 43 R 9 NSM 2 R",
   "4 ON 3 R 1 NSM 24 R 4 NSM 1 R 9 NSM 1 R 3 NSM 1 R 5 NSM 43 R 3 NSM 4 R 48 AL 2 AN 5 AL 9",
   "NSM 42 AL 24 NSM 1 AN 32 NSM 55 L 1 NSM 1 L 1 NSM 4 L 8 NSM 4 L 1 NSM 3 L 7 NSM 10 L 2 NSM",
   "29 L 1 NSM 58 L 1 NSM 4 L 4 NSM 8 L 1 NSM 20 L 2 NSM 14 L 2 ET 7 L 1 ET 2 L 1 NSM 2 L 2",
   "NSM 57 L 1 NSM 4 L 2 NSM 4 L 2 NSM 2 L 3 NSM 3 L 1 NSM 30 L 2 NSM 3 L 1 NSM 11 L 2 NSM 57",
   "L 1 NSM 4 L 5 NSM 1 L 2 NSM 4 L 1 NSM 20 L 2 NSM 13 L 1 ET 8 L 6 NSM 1 L 1 NSM 58 L 1 NSM",
   "2 L 1 NSM 1 L 4 NSM 8 L 1 NSM 7 L 2 NSM 11 L 2 NSM 30 L 1 NSM 61 L 1 NSM 12 L 1 NSM 37 L 6",
   "ON 1 ET 1 ON 5 L 1 NSM 3 L 1 NSM 55 L 1 NSM 1 L 3 NSM 5 L 3 NSM 1 L 4 NSM 7 L 2 NSM 11 L 2",
   "NSM 20 L 7 ON 2 L 1 NSM 58 L 1 NSM 15 L 2 NSM 20 L 2 NSM 28 L 2 NSM 57 L 2 NSM 4 L 4 NSM 8",
   "L 1 NSM 20 L 2 NSM 29 L 1 NSM 72 L 1 NSM 7 L 3 NSM 1 L 1 NSM 90 L 1 NSM 2 L 7 NSM 4 L 1 ET",
   "7 L 8 NSM 98 L 1 NSM 2 L 9 NSM 11 L 7 NSM 73 L 2 NSM 27 L 1 NSM 1 L 1 NSM 1 L 1 NSM 4 ON",
   "51 L 14 NSM 1 L 5 NSM 1 L 2 NSM 5 L 11 NSM 1 L 36 NSM 9 L 1 NSM 102 L 4 NSM 1 L 6 NSM 1 L",
   "2 NSM 2 L 2 NSM 25 L 2 NSM 4 L 3 NSM 16 L 4 NSM 13 L 1 NSM 2 L 2 NSM 6 L 1 NSM 15 L 1 NSM",
   "703 L 3 NSM 48 L 10 ON 102 L 1 ON 639 L 1 WS 26 L 2 ON 117 L 3 NSM 29 L 2 NSM 30 L 2 NSM",
   "30 L 2 NSM 64 L 2 NSM 1 L 7 NSM 8 L 1 NSM 2 L 11 NSM 7 L 1 ET 1 L 1 NSM 18 L 10 ON 6 L 11",
   "ON 3 NSM 1 BN 1 NSM 117 L 2 NSM 34 L 1 NSM 118 L 3 NSM 4 L 2 NSM 9 L 1 NSM 6 L 3 NSM 4 L 1",
   "ON 3 L 2 ON 152 L 34 ON 23 L 2 NSM 2 L 1 NSM 58 L 1 NSM 1 L 7 NSM 1 L 1 NSM 1 L 1 NSM 2 L",
   "8 NSM 6 L 10 NSM 2 L 1 NSM 48 L 46 NSM 2 L 12 NSM 20 L 4 NSM 48 L 1 NSM 1 L 5 NSM 1 L 1",
   "NSM 5 L 1 NSM 40 L 9 NSM 12 L 2 NSM 32 L 4 NSM 2 L 2 NSM 1 L 3 NSM 56 L 1 NSM 1 L 2 NSM 3",
   "L 1 NSM 1 L 3 NSM 58 L 8 NSM 2 L 2 NSM 152 L 3 NSM 1 L 13 NSM 1 L 7 NSM 4 L 1 NSM 6 L 1",
   "NSM 3 L 2 NSM 198 L 64 NSM 445 L 1 ON 1 L 3 ON 11 L 3 ON 13 L 3 ON 13 L 3 ON 13 L 2 ON 1 L",
   "11 WS 3 BN 1 L 1 R 24 ON 1 WS 1 B 1 LRE 1 RLE 1 PDF 1 LRO 1 RLO 1 CS 5 ET 15 ON 1 CS 26 ON",
   "1 WS 6 BN 1 LRI 1 RLI 1 FSI 1 PDI 6 BN 1 EN 3 L 6 EN 2 ES 3 ON 1 L 10 EN 2 ES 3 ON 17 L 48",
   "ET 33 NSM 15 L 2 ON 1 L 4 ON 1 L 2 ON 10 L 1 ON 1 L 3 ON 5 L 6 ON 1 L 1 ON 1 L 1 ON 1 L 1",
   "ON 4 L 1 ET 11 L 2 ON 4 L 5 ON 5 L 4 ON 2 L 16 ON 41 L 3 ON 4 L 130 ON 1 ES 1 ET 290 ON 69",
   "L 26 ON 1 L 148 ON 22 L 11 ON 21 L 40 ON 20 EN 78 L 450 ON 1 L 339 ON 256 L 628 ON 2 L 138",
   "ON 229 L 6 ON 4 L 3 NSM 7 L 7 ON 127 L 1 NSM 96 L 32 NSM 94 ON 34 L 26 ON 1 L 89 ON 12 L",
   "214 ON 26 L 16 ON 1 WS 4 ON 3 L 25 ON 9 L 4 NSM 2 L 1 ON 5 L 2 ON 5 L 3 ON 89 L 2 NSM 2 ON",
   "3 L 1 ON 90 L 1 ON 196 L 38 ON 9 L 1 ON 45 L 2 ON 49 L 16 ON 28 L 3 ON 50 L 15 ON 12 L 4",
   "ON 167 L 4 ON 99 L 2 ON 31 L 1 ON 6592 L 64 ON 22160 L 55 ON 326 L 3 ON 95 L 4 NSM 1 ON 10",
   "NSM 2 ON 30 L 2 NSM 80 L 2 NSM 14 L 34 ON 102 L 1 ON 121 L 1 NSM 3 L 1 NSM 4 L 1 NSM 25 L",
   "2 NSM 1 L 4 ON 1 NSM 11 L 2 ET 58 L 4 ON 76 L 2 NSM 26 L 18 NSM 13 L 1 NSM 38 L 8 NSM 25 L",
   "11 NSM 46 L 3 NSM 48 L 1 NSM 2 L 4 NSM 2 L 2 NSM 39 L 1 NSM 67 L 6 NSM 2 L 2 NSM 2 L 2 NSM",
   "12 L 1 NSM 8 L 1 NSM 47 L 1 NSM 51 L 1 NSM 1 L 3 NSM 2 L 2 NSM 5 L 2 NSM 1 L 1 NSM 42 L 2",
   "NSM 8 L 1 NSM 115 L 2 ON 121 L 1 NSM 2 L 1 NSM 4 L 1 NSM 20271 L 1 R 1 NSM 10 R 1 ES 38 R",
   "115 AL 16 ON 363 AL 18 ON 64 AL 2 ON 54 AL 8 ON 32 BN 13 AL 3 ON 16 NSM 10 ON 6 L 16 NSM",
   "32 ON 1 CS 1 ON 1 CS 1 L 1 ON 1 CS 9 ON 1 ET 2 ON 2 ES 3 ON 1 L 1 ON 2 ET 1 ON 4 L 143 AL",
   "1 BN 1 L 2 ON 3 ET 5 ON 1 ES 1 CS 1 ES 2 CS 10 EN 1 CS 6 ON 26 L 6 ON 26 L 11 ON 122 L 2",
   "ET 3 ON 2 ET 1 L 7 ON 1 L 9 BN 5 ON 2 BN 257 L 1 ON 62 L 77 ON 3 L 13 ON 3 L 1 ON 92 L 1",
   "NSM 226 L 1 NSM 27 EN 122 L 5 NSM 1157 L 287 R 1 ON 225 R 3 NSM 1 R 2 NSM 5 R 4 NSM 40 R 3",
   "NSM 4 R 1 NSM 165 R 2 NSM 82 R 7 ON 448 R 36 AL 4 NSM 8 AL 10 AN 6 AL 10 AN 31 R 5 NSM 1",
   "ON 241 R 31 AN 44 R 2 NSM 19 R 16 AL 9 ON 33 AL 6 NSM 48 R 22 AL 11 NSM 31 AL 18 R 4 NSM",
   "122 R 1 L 1 NSM 54 L 15 NSM 11 L 20 ON 10 L 1 NSM 2 L 2 NSM 10 L 3 NSM 49 L 4 NSM 2 L 2",
   "NSM 7 L 1 NSM 61 L 3 NSM 36 L 5 NSM 1 L 8 NSM 62 L 1 NSM 12 L 2 NSM 52 L 9 NSM 10 L 4 NSM",
   "2 L 1 NSM 95 L 3 NSM 2 L 1 NSM 1 L 2 NSM 6 L 1 NSM 2 L 1 NSM 157 L 1 NSM 3 L 8 NSM 21 L 2",
   "NSM 57 L 2 NSM 3 L 1 NSM 37 L 7 NSM 3 L 5 NSM 70 L 6 NSM 13 L 1 NSM 1 L 1 NSM 1 L 1 NSM 14",
   "L 2 NSM 85 L 8 NSM 2 L 3 NSM 1 L 1 NSM 23 L 1 NSM 84 L 6 NSM 1 L 1 NSM 4 L 2 NSM 1 L 2 NSM",
   "238 L 4 NSM 6 L 2 NSM 1 L 2 NSM 27 L 2 NSM 85 L 8 NSM 2 L 1 NSM 1 L 2 NSM 31 L 13 ON 62 L",
   "1 NSM 1 L 1 NSM 2 L 6 NSM 1 L 1 NSM 101 L 1 NSM 1 L 1 NSM 2 L 4 NSM 1 L 5 NSM 259 L 9 NSM",
   "1 L 2 NSM 256 L 2 NSM 1 L 1 NSM 4 L 1 NSM 144 L 4 NSM 2 L 2 NSM 4 L 1 NSM 32 L 6 NSM 2 L 2",
   "NSM 40 L 6 NSM 2 L 4 NSM 8 L 1 NSM 9 L 6 NSM 2 L 3 NSM 46 L 13 NSM 1 L 2 NSM 198 L 1 NSM 1",
   "L 3 NSM 1 L 1 NSM 201 L 7 NSM 1 L 6 NSM 84 L 22 NSM 2 L 7 NSM 1 L 2 NSM 1 L 2 NSM 122 L 6",
   "NSM 3 L 1 NSM 1 L 2 NSM 1 L 7 NSM 1 L 1 NSM 72 L 2 NSM 3 L 1 NSM 1 L 1 NSM 347 L 2 NSM 11",
   "L 2 NSM 52 L 5 NSM 5 L 1 NSM 1 L 1 NSM 23 L 1 NSM 122 L 8 ON 4 ET 17 ON 5198 L 1 NSM 6 L",
   "15 NSM 11464 L 12 NSM 3 L 3 NSM 2496 L 5 NSM 59 L 7 NSM 1048 L 1 NSM 63 L 4 NSM 79 L 1 ON",
   "1 L 1 NSM 19640 L 2 NSM 1 L 4 BN 3932 L 214 ON 26 L 10 EN 3 ON 3 L 436 ON 6 L 23 ON 15 L",
   "17 ON 15 L 46 NSM 2 L 23 NSM 544 L 3 NSM 9 L 8 BN 8 NSM 2 L 7 NSM 30 L 4 NSM 59 L 2 ON 21",
   "L 66 ON 3 NSM 1 ON 186 L 87 ON 874 L 1 ON 25 L 1 ON 31 L 1 ON 25 L 1 ON 31 L 1 ON 25 L 1",
   "ON 31 L 1 ON 25 L 1 ON 31 L 1 ON 25 L 1 ON 10 L 50 EN 512 L 55 NSM 4 L 50 NSM 8 L 1 NSM 14",
   "L 1 NSM 22 L 5 NSM 1 L 15 NSM 1360 L 7 NSM 1 L 17 NSM 2 L 7 NSM 1 L 2 NSM 1 L 5 NSM 100 L",
   "1 NSM 160 L 7 NSM 375 L 1 NSM 61 L 4 NSM 15 L 1 ET 492 L 4 NSM 254 L 2 NSM 243 L 1 NSM 2 L",
   "1 NSM 7 L 2 NSM 5 L 1 NSM 266 L 208 R 7 NSM 109 R 7 NSM 805 R 80 AL 64 R 80 AL 176 R 240",
   "AL 2 ON 14 AL 256 R 44 ON 4 L 100 ON 12 L 15 ON 2 L 15 ON 1 L 15 ON 1 L 37 ON 10 L 11 EN 5",
   "ON 31 L 1 ON 58 L 6 ON 61 L 1 ON 178 L 6 ON 154 L 985 ON 3 L 17 ON 3 L 13 ON 3 L 218 ON 6",
   "L 12 ON 4 L 1 ON 15 L 12 ON 4 L 56 ON 8 L 10 ON 6 L 40 ON 8 L 30 ON 2 L 12 ON 4 L 2 ON 14",
   "L 9 ON 39 L 344 ON 8 L 14 ON 2 L 13 ON 3 L 11 ON 3 L 57 ON 1 L 1 ON 4 L 16 ON 2 L 12 ON 4",
   "L 10 ON 7 L 147 ON 1 L 92 ON 10 EN 1 ON 1027 L 2 BN 65534 L 2 BN 65534 L 2 BN 65534 L 2 BN",
   "65534 L 2 BN 65534 L 2 BN 65534 L 2 BN 65534 L 2 BN 65534 L 2 BN 65534 L 2 BN 65534 L 2 BN",
   "65534 L 2 BN 65534 L 258 BN 240 NSM 3600 BN 61438 L 2 BN 65534 L 2 BN 65534 L 2 BN"]

/-- The bidirectional class. -/
def direction (c : Char) : Direction := classAt .leftToRight directionRuns c.toNat

end CredentialIssuer.Unicode
