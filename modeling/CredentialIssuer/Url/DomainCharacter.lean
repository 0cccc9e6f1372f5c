import CredentialIssuer.Unicode.Runs

/-! What becomes of the characters of international domain names when a name is prepared. -/
namespace CredentialIssuer.Url

private def domainRuns : List Nat := Unicode.setRuns
  ["0 65 26 37 33 7 1 1 1 2 1 1 1 2 4 2 3 1 3 1 23 1 7 33 1 1 1 1 1 1 1 1 1 1 1 1 1 1 1 1 1 1",
   "1 1 1 1 1 1 1 1 1 1 1 1 1 1 1 1 1 1 1 1 1 1 1 1 1 1 1 1 1 1 1 1 3 1 1 2 1 1 1 1 1 1 3 1 1",
   "1 1 1 1 1 2 1 1 1 1 1 1 1 1 1 1 1 1 1 1 1 1 1 1 1 1 1 1 1 1 1 1 1 1 1 1 1 1 1 1 1 1 1 1 1",
   "1 1 1 1 1 1 2 1 1 1 1 1 1 1 2 1 1 1 2 1 3 2 4 1 2 1 3 3 2 1 2 1 1 1 1 1 2 1 1 2 1 1 2 1 3",
   "1 1 1 2 3 1 7 10 1 1 1 1 1 1 1 1 1 1 1 1 1 1 2 1 1 1 1 1 1 1 1 1 1 1 1 1 1 1 1 1 2 4 1 3 1",
   "1 1 1 1 1 1 1 1 1 1 1 1 1 1 1 1 1 1 1 1 1 1 1 1 1 1 1 1 1 1 1 1 1 1 1 1 1 1 1 1 1 1 1 1 1",
   "1 1 1 1 1 1 1 1 1 1 1 1 7 2 1 2 2 1 1 4 1 1 1 1 1 1 1 1 97 9 31 6 2 5 91 2 1 3 9 1 32 1 1",
   "1 1 1 1 1 1 3 3 18 1 27 35 8 1 1 1 1 1 1 1 1 1 1 1 1 1 1 1 1 1 1 1 1 1 1 1 1 1 3 1 2 1 1 1",
   "2 2 51 48 1 1 1 1 1 1 1 1 1 1 1 1 1 1 1 1 1 1 1 1 1 1 1 1 1 1 1 1 1 1 1 1 1 9 1 1 1 1 1 1",
   "1 1 1 1 1 1 1 1 1 1 1 1 1 1 1 1 1 1 1 1 1 1 1 1 1 1 1 1 1 1 1 1 1 1 1 1 1 1 1 1 1 1 1 1 1",
   "1 1 1 2 1 1 1 1 1 1 1 1 1 1 1 1 2 1 1 1 1 1 1 1 1 1 1 1 1 1 1 1 1 1 1 1 1 1 1 1 1 1 1 1 1",
   "1 1 1 1 1 1 1 1 1 1 1 1 1 1 1 1 1 1 1 1 1 1 1 1 1 1 1 1 1 1 1 1 1 1 1 1 1 1 1 1 1 1 1 1 1",
   "1 1 1 1 1 1 1 1 1 1 1 1 1 1 1 1 1 1 1 1 1 1 1 41 46 1 3 2 3 1 55 8 27 4 6 17 22 1 88 4 100",
   "1 48 2 59 2 101 14 59 2 49 2 15 1 28 2 1 1 11 5 32 7 75 1 117 8 36 1 8 2 2 2 22 1 7 1 1 3",
   "4 2 9 2 2 2 4 8 1 8 4 2 25 2 3 1 6 4 2 2 22 1 7 1 1 2 1 2 2 2 1 1 5 4 2 2 3 3 1 10 1 9 17",
   "10 3 1 9 1 3 1 22 1 7 1 2 1 5 2 10 1 3 1 3 2 1 15 4 2 12 7 7 1 3 1 8 2 2 2 22 1 7 1 2 1 5",
   "2 9 2 2 2 3 7 3 7 5 2 18 10 2 1 6 3 3 1 4 3 2 1 1 1 2 3 2 3 3 3 12 4 5 3 3 1 4 2 1 6 1 14",
   "21 5 13 1 3 1 23 1 16 2 9 1 3 1 4 7 2 1 3 1 2 2 4 2 10 7 22 1 3 1 23 1 10 1 5 2 9 1 3 1 4",
   "7 2 5 3 1 4 2 10 1 3 12 13 1 3 1 51 1 3 1 6 4 16 2 26 1 3 1 18 3 24 1 9 1 1 2 7 3 1 4 6 1",
   "1 1 8 6 10 2 3 12 50 1 7 4 29 37 2 1 1 1 5 1 24 1 1 1 12 1 10 2 5 1 1 1 7 1 10 4 2 32 12 1",
   "54 1 4 1 4 1 4 1 4 1 4 1 12 1 3 4 2 1 1 5 7 1 17 1 4 1 4 1 4 1 4 1 4 1 12 1 3 1 15 1 13 37",
   "160 48 44 1 98 2 232 1 4 2 7 1 1 1 4 2 41 1 4 2 33 1 4 2 7 1 1 1 4 2 15 1 57 1 4 2 67 2 32",
   "3 26 6 86 10 640 1 28 3 89 7 22 9 24 9 20 12 13 1 3 1 2 12 52 2 40 2 10 6 10 6 11 5 10 6",
   "89 7 43 5 70 10 31 1 12 4 12 4 1 3 42 2 5 11 44 4 26 6 11 3 62 2 65 1 29 2 11 6 10 6 14 2",
   "46 2 12 20 77 1 166 8 60 3 15 3 51 10 1 53 8 8 43 5 44 3 1 11 1 18 1 28 13 1 34 37 64 1 1",
   "1 1 1 1 1 1 1 1 1 1 1 1 1 1 1 1 1 1 1 1 1 1 1 1 1 1 1 1 1 1 1 1 1 1 1 1 1 1 1 1 1 1 1 1 1",
   "1 1 1 1 1 1 1 1 1 1 1 1 1 1 1 1 1 1 1 1 1 1 1 1 1 1 1 1 1 1 1 1 1 1 1 1 1 1 1 1 1 1 1 1 1",
   "1 1 1 1 1 1 1 1 1 1 1 1 1 1 1 1 1 1 1 1 1 1 1 1 1 1 1 1 1 1 1 1 1 1 1 1 1 1 1 1 1 1 1 1 1",
   "1 1 1 1 1 1 1 1 1 1 1 1 5 2 2 1 1 1 1 1 1 1 1 1 1 1 1 1 1 1 1 1 1 1 1 1 1 1 1 1 1 1 1 1 1",
   "1 1 1 1 1 1 1 1 1 1 1 1 1 1 1 1 1 1 1 1 1 1 1 1 1 1 1 1 1 1 1 1 1 1 1 1 1 1 1 1 1 1 1 1 1",
   "1 1 1 1 1 1 1 1 1 1 1 1 1 1 1 1 1 1 1 1 1 1 9 8 6 10 8 8 8 8 6 10 8 8 8 8 1 1 1 1 1 1 1 1",
   "1 1 1 1 1 51 2 4 1 15 1 9 3 3 2 8 3 1 4 14 1 21 2 2 1 1 5 1 12 3 1 8 3 2 1 2 4 1 1 1 8 3",
   "13 1 7 65 8 1 25 14 33 19 1 3 1 11 1 2 2 5 2 3 1 1 1 1 1 1 1 4 1 11 1 6 4 5 6 48 3 1 5 1 2",
   "4 156 2 1 2 248 2 255 22 11 160 1313 1 103 3 101 1 151 2 138 48 48 1 1 3 2 1 1 1 1 1 1 4 1",
   "1 2 1 6 5 1 1 1 1 1 1 1 1 1 1 1 1 1 1 1 1 1 1 1 1 1 1 1 1 1 1 1 1 1 1 1 1 1 1 1 1 1 1 1 1",
   "1 1 1 1 1 1 1 1 1 1 1 1 1 1 1 1 1 1 1 1 1 1 1 1 1 1 1 1 1 1 1 1 1 1 1 1 1 1 1 1 1 1 1 1 1",
   "1 1 1 1 1 1 1 1 1 1 1 1 1 8 1 1 1 4 1 1 5 45 1 1 5 1 2 56 8 1 14 24 9 7 1 7 1 7 1 7 1 7 1",
   "7 1 7 1 7 1 126 34 26 1 4 1 83 270 1 1 51 1 1 3 5 1 86 2 2 2 2 1 95 6 43 96 2 14 70 10 16",
   "72 8 47 1 384 28813 3 55 9 348 21 1 1 1 1 1 1 1 1 1 1 1 1 1 1 1 1 1 1 1 1 1 1 1 1 1 1 1 1",
   "1 1 1 1 1 1 1 1 1 1 1 1 1 1 1 1 19 1 1 1 1 1 1 1 1 1 1 1 1 1 1 1 1 1 1 1 1 1 1 1 1 1 1 1 1",
   "2 90 8 34 1 1 1 1 1 1 1 1 1 1 1 1 1 3 1 1 1 1 1 1 1 1 1 1 1 1 1 1 1 1 1 1 1 1 1 1 1 1 1 1",
   "1 1 1 1 1 1 1 1 1 1 1 1 1 1 1 1 1 1 1 1 1 1 1 1 1 1 1 1 1 1 1 1 1 1 1 1 1 8 1 1 1 1 2 1 1",
   "1 1 1 1 1 1 4 1 1 1 2 1 1 1 3 1 1 1 1 1 1 1 1 1 1 1 1 1 1 1 1 1 1 1 1 5 1 5 1 1 1 1 1 1 1",
   "1 1 1 1 1 1 1 1 4 1 1 1 2 1 1 1 1 1 1 1 1 1 1 1 1 1 1 1 26 2 2 51 3 10 6 56 8 70 8 12 6",
   "116 11 30 3 78 1 11 4 33 1 55 9 14 2 10 2 103 24 28 10 6 2 6 2 6 9 7 1 7 1 44 4 9 1 2 84",
   "46 2 10 6 11172 12 23 4 49 8722 2 1 1 1 2 10 1 1 1 1 2 2 3 244 1 147 33 363 18 64 2 54 8",
   "45 3 32 16 21 2 44 1 396 12 1 26 1 19 1 2 1 15 2 14 34 123 5 3 4 45 3 88 1 13 3 1 47 46",
   "130 29 3 49 15 28 4 36 9 30 5 43 5 30 1 37 4 14 82 118 2 10 46 36 4 40 8 52 11 1 39 11 1",
   "15 1 7 1 2 3 52 12 311 9 22 10 8 24 1 127 6 2 1 1 44 1 2 3 1 2 23 1 72 8 9 48 19 1 2 5 33",
   "3 27 5 27 38 56 4 20 2 50 1 2 5 8 1 3 1 29 2 3 4 10 7 9 7 64 32 39 4 12 9 54 3 29 2 27 5",
   "26 7 4 12 7 80 73 119 51 7 46 8 10 6 16 25 29 8 2 208 31 1 42 1 3 2 2 16 6 8 9 33 46 8 42",
   "22 26 38 28 20 23 9 78 4 36 9 62 1 5 13 25 7 10 6 53 1 18 8 39 9 96 1 20 11 18 1 47 62 7 1",
   "1 1 4 1 15 1 11 6 59 5 10 6 4 1 8 2 2 2 22 1 7 1 2 1 5 1 10 2 2 2 3 2 1 6 1 5 7 2 7 3 5 11",
   "10 1 1 2 1 1 38 1 10 1 1 2 1 1 4 1 10 1 2 8 2 29 92 1 5 30 72 8 10 166 54 2 38 34 69 11 10",
   "6 13 19 58 6 10 6 20 28 27 2 15 4 23 185 60 132 51 12 8 2 1 2 8 1 2 1 30 1 2 2 12 9 10 70",
   "8 2 46 2 11 27 72 8 83 13 73 7 10 86 8 88 34 14 10 6 9 1 45 1 14 10 29 3 32 2 22 1 14 73 7",
   "1 2 1 44 3 1 1 2 1 9 8 10 6 6 1 2 1 37 1 2 1 6 7 10 6 44 4 10 246 25 7 17 1 41 3 29 85 1",
   "15 50 13 923 102 111 1 5 11 196 2636 99 13 1072 16 22 10 3995 5 583 6841 58 1734 569 7 31",
   "1 10 4 81 1 10 6 30 2 6 10 70 10 10 1 7 1 21 5 19 432 58 230 59 32 25 44 75 4 57 7 17 64 5",
   "11 7 9 7382 41 32 97 115 8701 4 1 7 1 2 1 291 15 1 29 3 2 1 14 4 8 396 2308 107 5 13 3 9 7",
   "10 2 4 3936 214 36 3 3 436 6 23 15 17 15 46 2 23 9 116 60 246 10 39 2 53 7 14 8 64 6 42 21",
   "70 122 20 12 20 12 87 9 25 1159 652 15 5 1 15 1104 31 6 6 213 7 1 17 2 7 1 2 1 5 100 1 112",
   "45 3 14 2 10 4 2 320 31 17 58 5 1 464 42 214 43 4 1 192 31 1 22 8 2 224 7 1 4 1 2 1 15 1",
   "197 2 16 75 42 4 10 4 2 785 68 76 61 434 2 270 44 4 100 12 15 2 15 1 15 1 37 21 5 31 1 32",
   "26 3 35 1 29 56 26 96 6 154 985 3 17 3 13 3 218 6 12 4 1 15 12 4 56 8 10 6 40 8 30 2 12 4",
   "2 14 9 39 344 8 14 2 13 3 11 3 57 1 1 4 16 2 12 4 10 7 147 1 92 10 1 1029 42720 32 4382 2",
   "5774 2 7473 15 622 4514 4939 5 8490"]

/-- Neither disallowed nor mapped to others nor left out when a name is prepared. -/
def isDomainCharacter (c : Char) : Bool := Unicode.inRuns domainRuns c.toNat

private def ignoredRuns : List Nat := Unicode.setRuns
  ["173 1 673 1 3599 2 1619 2 85 5 2043 1 84 5 5 6 4340 1 52379 16 239 1 160 1 48383 4 5327 8",
   "798597 240"]

/-- Code points `step` apart and what the first is mapped to. Each of the others is mapped to what
is as far from that as the others are from the first. -/
private structure Mapping where
  first : Nat
  step : Nat
  count : Nat
  image : List Nat

private def Mapping.at? (m : Mapping) (n : Nat) : Option (List Nat) :=
  let offset := n - m.first
  if m.first ≤ n ∧ offset < m.step * m.count ∧ offset % m.step = 0 then
    some (m.image.map (· + offset))
  else none

/-- A sign and a number after the image say how many code points are mapped, those in a row or
every other one. -/
private def Mapping.ofWord (first : Nat) (word : List Char) : Mapping :=
  let image := fun (cs : List Char) => (Text.segments '+' cs).map Unicode.codePoint
  match Text.splitFirst? '*' word, Text.splitFirst? '/' word with
  | some (cs, count), _ => ⟨first, 1, Text.ofDigits count, image cs⟩
  | none, some (cs, count) => ⟨first, 2, Text.ofDigits count, image cs⟩
  | none, none => ⟨first, 1, 1, image word⟩

-- A word for where the next mapping starts opens with an at sign.
private def mappings : List Mapping := following 0 (Unicode.words
  ["@0041 0061*26 @00A0 0020 @00A8 0020+0308 @00AA 0061 @00AF 0020+0304 @00B2 0032*2 0020+0301",
   "03BC @00B8 0020+0327 0031 006F @00BC 0031+2044+0034 0031+2044+0032 0033+2044+0034 @00C0",
   "00E0*23 @00D8 00F8*7 @0100 0101/24 0069+0307 @0132 0069+006A 0069+006A 0135/2 @0139 013A/3",
   "006C+00B7 006C+00B7 0142/4 02BC+006E 014B/23 00FF 017A/3 0073 @0181 0253 0183/2 0254 0188",
   "@0189 0256*2 018C @018E 01DD 0259 025B 0192 @0193 0260 0263 @0196 0269 0268 0199 @019C",
   "026F 0272 @019F 0275 01A1/3 0280 01A8 @01A9 0283 @01AC 01AD @01AE 0288 01B0 @01B1 028A*2",
   "01B4/2 0292 01B9 @01BC 01BD @01C4 0064+017E 0064+017E 0064+017E 006C+006A 006C+006A",
   "006C+006A 006E+006A 006E+006A 006E+006A 01CE/8 @01DE 01DF/9 @01F1 0064+007A 0064+007A",
   "0064+007A 01F5 @01F6 0195 01BF 01F9/20 019E @0222 0223/9 @023A 2C65 023C @023D 019A 2C66",
   "@0241 0242 @0243 0180 0289 028C 0247/5 @02B0 0068 0266 006A 0072 0279 027B 0281 0077 0079",
   "@02D8 0020+0306 0020+0307 0020+030A 0020+0328 0020+0303 0020+030B @02E0 0263 006C 0073",
   "0078 0295 @0340 0300*2 @0343 0313 0308+0301 03B9 @0370 0371/2 02B9 @0376 0377 @037A",
   "0020+03B9 @037E 003B 03F3 @0384 0020+0301 0020+0308+0301 03AC 00B7 03AD*3 @038C 03CC @038E",
   "03CD*2 @0391 03B1*17 @03A3 03C3*9 @03CF 03D7 03B2 03B8 03C5 03CD 03CB 03C6 03C0 @03D8",
   "03D9/12 03BA 03C1 03C3 @03F4 03B8 03B5 @03F7 03F8 @03F9 03C3 03FB @03FD 037B*3 0450*16",
   "0430*32 @0460 0461/17 @048A 048B/27 04CF 04C2/7 @04D0 04D1/48 @0531 0561*38 @0587",
   "0565+0582 @0675 0627+0674 0648+0674 06C7+0674 064A+0674 @0958 0915+093C 0916+093C",
   "0917+093C 091C+093C 0921+093C 0922+093C 092B+093C 092F+093C @09DC 09A1+09BC 09A2+09BC",
   "@09DF 09AF+09BC @0A33 0A32+0A3C @0A36 0A38+0A3C @0A59 0A16+0A3C 0A17+0A3C 0A1C+0A3C @0A5E",
   "0A2B+0A3C @0B5C 0B21+0B3C 0B22+0B3C @0E33 0E4D+0E32 @0EB3 0ECD+0EB2 @0EDC 0EAB+0E99",
   "0EAB+0EA1 @0F0C 0F0B @0F43 0F42+0FB7 @0F4D 0F4C+0FB7 @0F52 0F51+0FB7 @0F57 0F56+0FB7 @0F5C",
   "0F5B+0FB7 @0F69 0F40+0FB5 @0F73 0F71+0F72 @0F75 0F71+0F74 0FB2+0F80 0FB2+0F71+0F80",
   "0FB3+0F80 0FB3+0F71+0F80 @0F81 0F71+0F80 @0F93 0F92+0FB7 @0F9D 0F9C+0FB7 @0FA2 0FA1+0FB7",
   "@0FA7 0FA6+0FB7 @0FAC 0FAB+0FB7 @0FB9 0F90+0FB5 @10A0 2D00*38 @10C7 2D27 @10CD 2D2D @10FC",
   "10DC @13F8 13F0*6 @1C80 0432 0434 043E 0441*2 0442 044A 0463 A64B 1C8A @1C90 10D0*43 @1CBD",
   "10FD*3 @1D2C 0061 00E6 0062/2 @1D31 0065 01DD 0067*8 @1D3C 006F 0223 0070 0072 0074*2 0077",
   "0061 0250*2 1D02 0062 0064*2 0259 025B*2 0067 @1D4F 006B 006D 014B 006F 0254 1D16*2 0070",
   "0074*2 1D1D 026F 0076 1D25 03B2*3 03C6*2 0069 0072 0075*2 03B2*2 03C1 03C6*2 @1D78 043D",
   "@1D9B 0252 0063 0255 00F0 025C 0066 025F 0261 0265 0268*3 1D7B 029D 026D 1D85 029F 0271",
   "0270 0272*4 0278 0282*2 01AB 0289*2 1D1C 028B*2 007A 0290*3 03B8 @1E00 1E01/75 @1E9A",
   "0061+02BE 1E61 @1E9E 00DF @1EA0 1EA1/48 @1F08 1F00*8 @1F18 1F10*6 @1F28 1F20*8 @1F38",
   "1F30*8 @1F48 1F40*6 @1F59 1F51/4 @1F68 1F60*8 @1F71 03AC @1F73 03AD @1F75 03AE @1F77 03AF",
   "@1F79 03CC @1F7B 03CD @1F7D 03CE @1F80 1F00+03B9 1F01+03B9 1F02+03B9 1F03+03B9 1F04+03B9",
   "1F05+03B9 1F06+03B9 1F07+03B9 1F00+03B9 1F01+03B9 1F02+03B9 1F03+03B9 1F04+03B9 1F05+03B9",
   "1F06+03B9 1F07+03B9 1F20+03B9 1F21+03B9 1F22+03B9 1F23+03B9 1F24+03B9 1F25+03B9 1F26+03B9",
   "1F27+03B9 1F20+03B9 1F21+03B9 1F22+03B9 1F23+03B9 1F24+03B9 1F25+03B9 1F26+03B9 1F27+03B9",
   "1F60+03B9 1F61+03B9 1F62+03B9 1F63+03B9 1F64+03B9 1F65+03B9 1F66+03B9 1F67+03B9 1F60+03B9",
   "1F61+03B9 1F62+03B9 1F63+03B9 1F64+03B9 1F65+03B9 1F66+03B9 1F67+03B9 @1FB2 1F70+03B9",
   "03B1+03B9 03AC+03B9 @1FB7 1FB6+03B9 1FB0*2 1F70 03AC 03B1+03B9 0020+0313 03B9 0020+0313",
   "0020+0342 0020+0308+0342 1F74+03B9 03B7+03B9 03AE+03B9 @1FC7 1FC6+03B9 1F72 03AD 1F74 03AE",
   "03B7+03B9 0020+0313+0300 0020+0313+0301 0020+0313+0342 @1FD3 0390 @1FD8 1FD0*2 1F76 03AF",
   "@1FDD 0020+0314+0300 0020+0314+0301 0020+0314+0342 @1FE3 03B0 @1FE8 1FE0*2 1F7A 03CD 1FE5",
   "0020+0308+0300 0020+0308+0301 0060 @1FF2 1F7C+03B9 03C9+03B9 03CE+03B9 @1FF7 1FF6+03B9",
   "1F78 03CC 1F7C 03CE 03C9+03B9 0020+0301 0020+0314 @2000 0020 0020 0020 0020 0020 0020 0020",
   "0020 0020 0020 0020 @2011 2010 @2017 0020+0333 @202F 0020 @2033 2032+2032 2032+2032+2032",
   "@2036 2035+2035 2035+2035+2035 @203C 0021+0021 @203E 0020+0305 @2047 003F+003F 003F+0021",
   "0021+003F @2057 2032+2032+2032+2032 @205F 0020 @2070 0030 0069 @2074 0034*6 002B 2212 003D",
   "0028*2 006E 0030*10 002B 2212 003D 0028*2 @2090 0061 0065 006F 0078 0259 0068 006B*4 0070",
   "0073*2 @20A8 0072+0073 @2100 0061+002F+0063 0061+002F+0073 0063 00B0+0063 @2105",
   "0063+002F+006F 0063+002F+0075 025B @2109 00B0+0066 0067*2 0068 0068 0068 0127 0069 0069",
   "006C 006C/2 @2116 006E+006F @2119 0070*3 0072 0072 @2120 0073+006D 0074+0065+006C",
   "0074+006D @2124 007A @2126 03C9 @2128 007A @212A 006B 00E5 0062*2 @212F 0065 0065*2 214E",
   "006D 006F 05D0*4 0069 @213B 0066+0061+0078 03C0 03B3 03B3 03C0 2211 @2145 0064 0064*2",
   "0069*2 @2150 0031+2044+0037 0031+2044+0039 0031+2044+0031+0030 0031+2044+0033",
   "0032+2044+0033 0031+2044+0035 0032+2044+0035 0033+2044+0035 0034+2044+0035 0031+2044+0036",
   "0035+2044+0036 0031+2044+0038 0033+2044+0038 0035+2044+0038 0037+2044+0038 0031+2044 0069",
   "0069+0069 0069+0069+0069 0069+0076 0076 0076+0069 0076+0069+0069 0076+0069+0069+0069",
   "0069+0078 0078 0078+0069 0078+0069+0069 006C 0063*2 006D 0069 0069+0069 0069+0069+0069",
   "0069+0076 0076 0076+0069 0076+0069+0069 0076+0069+0069+0069 0069+0078 0078 0078+0069",
   "0078+0069+0069 006C 0063*2 006D @2183 2184 @2189 0030+2044+0033 @222C 222B+222B",
   "222B+222B+222B @222F 222E+222E 222E+222E+222E @2329 3008*2 @2460 0031*9 0031+0030",
   "0031+0031 0031+0032 0031+0033 0031+0034 0031+0035 0031+0036 0031+0037 0031+0038 0031+0039",
   "0032+0030 0028+0031+0029 0028+0032+0029 0028+0033+0029 0028+0034+0029 0028+0035+0029",
   "0028+0036+0029 0028+0037+0029 0028+0038+0029 0028+0039+0029 0028+0031+0030+0029",
   "0028+0031+0031+0029 0028+0031+0032+0029 0028+0031+0033+0029 0028+0031+0034+0029",
   "0028+0031+0035+0029 0028+0031+0036+0029 0028+0031+0037+0029 0028+0031+0038+0029",
   "0028+0031+0039+0029 0028+0032+0030+0029 @249C 0028+0061+0029 0028+0062+0029 0028+0063+0029",
   "0028+0064+0029 0028+0065+0029 0028+0066+0029 0028+0067+0029 0028+0068+0029 0028+0069+0029",
   "0028+006A+0029 0028+006B+0029 0028+006C+0029 0028+006D+0029 0028+006E+0029 0028+006F+0029",
   "0028+0070+0029 0028+0071+0029 0028+0072+0029 0028+0073+0029 0028+0074+0029 0028+0075+0029",
   "0028+0076+0029 0028+0077+0029 0028+0078+0029 0028+0079+0029 0028+007A+0029 0061*26 0061*26",
   "0030 @2A0C 222B+222B+222B+222B @2A74 003A+003A+003D 003D+003D 003D+003D+003D @2ADC",
   "2ADD+0338 @2C00 2C30*48 @2C60 2C61 @2C62 026B 1D7D 027D @2C67 2C68/3 0251 0271 0250 0252",
   "@2C72 2C73 @2C75 2C76 @2C7C 006A 0076 023F*2 2C81/50 @2CEB 2CEC/2 @2CF2 2CF3 @2D6F 2D61",
   "@2E9F 6BCD @2EF3 9F9F @2F00 4E00 4E28 4E36 4E3F 4E59 4E85 4E8C 4EA0 4EBA 513F 5165 516B",
   "5182 5196 51AB 51E0 51F5 5200 529B 52F9 5315 531A 5338 5341 535C 5369 5382 53B6 53C8 53E3",
   "56D7 571F 58EB 5902 590A 5915 5927 5973 5B50 5B80 5BF8 5C0F 5C22 5C38 5C6E 5C71 5DDB 5DE5",
   "5DF1 5DFE 5E72 5E7A 5E7F 5EF4 5EFE 5F0B 5F13 5F50 5F61 5F73 5FC3 6208 6236 624B 652F 6534",
   "6587 6597 65A4 65B9 65E0 65E5 66F0 6708 6728 6B20 6B62 6B79 6BB3 6BCB 6BD4 6BDB 6C0F 6C14",
   "6C34 706B 722A 7236 723B 723F 7247 7259 725B 72AC 7384 7389 74DC 74E6 7518 751F 7528 7530",
   "758B 7592 7676 767D 76AE 76BF 76EE 77DB 77E2 77F3 793A 79B8 79BE 7A74 7ACB 7AF9 7C73 7CF8",
   "7F36 7F51 7F8A 7FBD 8001 800C 8012 8033 807F 8089 81E3 81EA 81F3 81FC 820C 821B 821F 826E",
   "8272 8278 864D 866B 8840 884C 8863 897E 898B 89D2 8A00 8C37 8C46 8C55 8C78 8C9D 8D64 8D70",
   "8DB3 8EAB 8ECA 8F9B 8FB0 8FB5 9091 9149 91C6 91CC 91D1 9577 9580 961C 96B6 96B9 96E8 9751",
   "975E 9762 9769 97CB 97ED 97F3 9801 98A8 98DB 98DF 9996 9999 99AC 9AA8 9AD8 9ADF 9B25 9B2F",
   "9B32 9B3C 9B5A 9CE5 9E75 9E7F 9EA5 9EBB 9EC3 9ECD 9ED1 9EF9 9EFD 9F0E 9F13 9F20 9F3B 9F4A",
   "9F52 9F8D 9F9C 9FA0 @3000 0020 @3002 002E @3036 3012 @3038 5341 5344*2 @309B 0020+3099",
   "0020+309A @309F 3088+308A @30FF 30B3+30C8 @3131 1100*2 11AA 1102 11AC*2 1103*3 11B0*6 111A",
   "1106*3 1121 1109*10 1161*21 @3165 1114*2 11C7*2 11CC 11CE 11D3 11D7 11D9 111C 11DD 11DF",
   "111D*2 1120 1122*2 1127 1129 112B*5 1132 1136 1140 1147 114C 11F1*2 1157*3 1184*2 1188",
   "1191*2 1194 119E 11A1 @3192 4E00 4E8C 4E09 56DB 4E0A 4E2D 4E0B 7532 4E59 4E19 4E01 5929",
   "5730 4EBA @3200 0028+1100+0029 0028+1102+0029 0028+1103+0029 0028+1105+0029 0028+1106+0029",
   "0028+1107+0029 0028+1109+0029 0028+110B+0029 0028+110C+0029 0028+110E+0029 0028+110F+0029",
   "0028+1110+0029 0028+1111+0029 0028+1112+0029 0028+AC00+0029 0028+B098+0029 0028+B2E4+0029",
   "0028+B77C+0029 0028+B9C8+0029 0028+BC14+0029 0028+C0AC+0029 0028+C544+0029 0028+C790+0029",
   "0028+CC28+0029 0028+CE74+0029 0028+D0C0+0029 0028+D30C+0029 0028+D558+0029 0028+C8FC+0029",
   "0028+C624+C804+0029 0028+C624+D6C4+0029 @3220 0028+4E00+0029 0028+4E8C+0029 0028+4E09+0029",
   "0028+56DB+0029 0028+4E94+0029 0028+516D+0029 0028+4E03+0029 0028+516B+0029 0028+4E5D+0029",
   "0028+5341+0029 0028+6708+0029 0028+706B+0029 0028+6C34+0029 0028+6728+0029 0028+91D1+0029",
   "0028+571F+0029 0028+65E5+0029 0028+682A+0029 0028+6709+0029 0028+793E+0029 0028+540D+0029",
   "0028+7279+0029 0028+8CA1+0029 0028+795D+0029 0028+52B4+0029 0028+4EE3+0029 0028+547C+0029",
   "0028+5B66+0029 0028+76E3+0029 0028+4F01+0029 0028+8CC7+0029 0028+5354+0029 0028+796D+0029",
   "0028+4F11+0029 0028+81EA+0029 0028+81F3+0029 554F 5E7C 6587 7B8F @3250 0070+0074+0065",
   "0032+0031 0032+0032 0032+0033 0032+0034 0032+0035 0032+0036 0032+0037 0032+0038 0032+0039",
   "0033+0030 0033+0031 0033+0032 0033+0033 0033+0034 0033+0035 1100 1102*2 1105*3 1109 110B*2",
   "110E*5 AC00 B098 B2E4 B77C B9C8 BC14 C0AC C544 C790 CC28 CE74 D0C0 D30C D558 CC38+ACE0",
   "C8FC+C758 C6B0 @3280 4E00 4E8C 4E09 56DB 4E94 516D 4E03 516B 4E5D 5341 6708 706B 6C34 6728",
   "91D1 571F 65E5 682A 6709 793E 540D 7279 8CA1 795D 52B4 79D8 7537 5973 9069 512A 5370 6CE8",
   "9805 4F11 5199 6B63 4E0A 4E2D 4E0B 5DE6 53F3 533B 5B97 5B66 76E3 4F01 8CC7 5354 591C",
   "0033+0036 0033+0037 0033+0038 0033+0039 0034+0030 0034+0031 0034+0032 0034+0033 0034+0034",
   "0034+0035 0034+0036 0034+0037 0034+0038 0034+0039 0035+0030 0031+6708 0032+6708 0033+6708",
   "0034+6708 0035+6708 0036+6708 0037+6708 0038+6708 0039+6708 0031+0030+6708 0031+0031+6708",
   "0031+0032+6708 0068+0067 0065+0072+0067 0065+0076 006C+0074+0064 30A2 30A4 30A6 30A8",
   "30AA*2 30AD 30AF 30B1 30B3 30B5 30B7 30B9 30BB 30BD 30BF 30C1 30C4 30C6 30C8 30CA*6 30D2",
   "30D5 30D8 30DB 30DE*5 30E4 30E6 30E8*6 30EF*4 4EE4+548C 30A2+30D1+30FC+30C8",
   "30A2+30EB+30D5+30A1 30A2+30F3+30DA+30A2 30A2+30FC+30EB 30A4+30CB+30F3+30B0 30A4+30F3+30C1",
   "30A6+30A9+30F3 30A8+30B9+30AF+30FC+30C9 30A8+30FC+30AB+30FC 30AA+30F3+30B9 30AA+30FC+30E0",
   "30AB+30A4+30EA 30AB+30E9+30C3+30C8 30AB+30ED+30EA+30FC 30AC+30ED+30F3 30AC+30F3+30DE",
   "30AE+30AC 30AE+30CB+30FC 30AD+30E5+30EA+30FC 30AE+30EB+30C0+30FC 30AD+30ED",
   "30AD+30ED+30B0+30E9+30E0 30AD+30ED+30E1+30FC+30C8+30EB 30AD+30ED+30EF+30C3+30C8",
   "30B0+30E9+30E0 30B0+30E9+30E0+30C8+30F3 30AF+30EB+30BC+30A4+30ED 30AF+30ED+30FC+30CD",
   "30B1+30FC+30B9 30B3+30EB+30CA 30B3+30FC+30DD 30B5+30A4+30AF+30EB 30B5+30F3+30C1+30FC+30E0",
   "30B7+30EA+30F3+30B0 30BB+30F3+30C1 30BB+30F3+30C8 30C0+30FC+30B9 30C7+30B7 30C9+30EB",
   "30C8+30F3 30CA+30CE 30CE+30C3+30C8 30CF+30A4+30C4 30D1+30FC+30BB+30F3+30C8 30D1+30FC+30C4",
   "30D0+30FC+30EC+30EB 30D4+30A2+30B9+30C8+30EB 30D4+30AF+30EB 30D4+30B3 30D3+30EB",
   "30D5+30A1+30E9+30C3+30C9 30D5+30A3+30FC+30C8 30D6+30C3+30B7+30A7+30EB 30D5+30E9+30F3",
   "30D8+30AF+30BF+30FC+30EB 30DA+30BD 30DA+30CB+30D2 30D8+30EB+30C4 30DA+30F3+30B9",
   "30DA+30FC+30B8 30D9+30FC+30BF 30DD+30A4+30F3+30C8 30DC+30EB+30C8 30DB+30F3 30DD+30F3+30C9",
   "30DB+30FC+30EB 30DB+30FC+30F3 30DE+30A4+30AF+30ED 30DE+30A4+30EB 30DE+30C3+30CF",
   "30DE+30EB+30AF 30DE+30F3+30B7+30E7+30F3 30DF+30AF+30ED+30F3 30DF+30EA",
   "30DF+30EA+30D0+30FC+30EB 30E1+30AC 30E1+30AC+30C8+30F3 30E1+30FC+30C8+30EB 30E4+30FC+30C9",
   "30E4+30FC+30EB 30E6+30A2+30F3 30EA+30C3+30C8+30EB 30EA+30E9 30EB+30D4+30FC",
   "30EB+30FC+30D6+30EB 30EC+30E0 30EC+30F3+30C8+30B2+30F3 30EF+30C3+30C8 0030+70B9 0031+70B9",
   "0032+70B9 0033+70B9 0034+70B9 0035+70B9 0036+70B9 0037+70B9 0038+70B9 0039+70B9",
   "0031+0030+70B9 0031+0031+70B9 0031+0032+70B9 0031+0033+70B9 0031+0034+70B9 0031+0035+70B9",
   "0031+0036+70B9 0031+0037+70B9 0031+0038+70B9 0031+0039+70B9 0032+0030+70B9 0032+0031+70B9",
   "0032+0032+70B9 0032+0033+70B9 0032+0034+70B9 0068+0070+0061 0064+0061 0061+0075",
   "0062+0061+0072 006F+0076 0070+0063 0064+006D 0064+006D+0032 0064+006D+0033 0069+0075",
   "5E73+6210 662D+548C 5927+6B63 660E+6CBB 682A+5F0F+4F1A+793E 0070+0061 006E+0061 03BC+0061",
   "006D+0061 006B+0061 006B+0062 006D+0062 0067+0062 0063+0061+006C 006B+0063+0061+006C",
   "0070+0066 006E+0066 03BC+0066 03BC+0067 006D+0067 006B+0067 0068+007A 006B+0068+007A",
   "006D+0068+007A 0067+0068+007A 0074+0068+007A 03BC+006C 006D+006C 0064+006C 006B+006C",
   "0066+006D 006E+006D 03BC+006D 006D+006D 0063+006D 006B+006D 006D+006D+0032 0063+006D+0032",
   "006D+0032 006B+006D+0032 006D+006D+0033 0063+006D+0033 006D+0033 006B+006D+0033",
   "006D+2215+0073 006D+2215+0073+0032 0070+0061 006B+0070+0061 006D+0070+0061 0067+0070+0061",
   "0072+0061+0064 0072+0061+0064+2215+0073 0072+0061+0064+2215+0073+0032 0070+0073 006E+0073",
   "03BC+0073 006D+0073 0070+0076 006E+0076 03BC+0076 006D+0076 006B+0076 006D+0076 0070+0077",
   "006E+0077 03BC+0077 006D+0077 006B+0077 006D+0077 006B+03C9 006D+03C9 @33C3 0062+0071",
   "0063+0063 0063+0064 0063+2215+006B+0067 @33C8 0064+0062 0067+0079 0068+0061 0068+0070",
   "0069+006E 006B+006B 006B+006D 006B+0074 006C+006D 006C+006E 006C+006F+0067 006C+0078",
   "006D+0062 006D+0069+006C 006D+006F+006C 0070+0068 @33D9 0070+0070+006D 0070+0072 0073+0072",
   "0073+0076 0077+0062 0076+2215+006D 0061+2215+006D 0031+65E5 0032+65E5 0033+65E5 0034+65E5",
   "0035+65E5 0036+65E5 0037+65E5 0038+65E5 0039+65E5 0031+0030+65E5 0031+0031+65E5",
   "0031+0032+65E5 0031+0033+65E5 0031+0034+65E5 0031+0035+65E5 0031+0036+65E5 0031+0037+65E5",
   "0031+0038+65E5 0031+0039+65E5 0032+0030+65E5 0032+0031+65E5 0032+0032+65E5 0032+0033+65E5",
   "0032+0034+65E5 0032+0035+65E5 0032+0036+65E5 0032+0037+65E5 0032+0038+65E5 0032+0039+65E5",
   "0033+0030+65E5 0033+0031+65E5 0067+0061+006C @A640 A641/23 @A680 A681/14 044A 044C @A722",
   "A723/7 @A732 A733/31 A76F @A779 A77A/2 1D79 A77F/5 @A78B A78C @A78D 0265 @A790 A791/2",
   "@A796 A797/10 0266 025C 0261 026C 026A @A7B0 029E 0287 029D AB53 A7B5/8 A794 0282 1D8E",
   "A7C8/2 0264 A7CD/8 019B @A7F1 0073 0063 0066 0071 A7F6 @A7F8 0127 0153 @AB5C A727 AB37",
   "026B AB52 @AB69 028D @AB70 13A0*80 @F900 8C48 66F4 8ECA 8CC8 6ED1 4E32 53E5 9F9C 9F9C 5951",
   "91D1 5587 5948 61F6 7669 7F85 863F 87BA 88F8 908F 6A02 6D1B 70D9 73DE 843D 916A 99F1 4E82",
   "5375 6B04 721B 862D 9E1E 5D50 6FEB 85CD 8964 62C9 81D8 881F 5ECA 6717 6D6A 72FC 90CE 4F86",
   "51B7 52DE 64C4 6AD3 7210 76E7 8001 8606 865C 8DEF 9732 9B6F 9DFA 788C 797F 7DA0 83C9 9304",
   "9E7F 8AD6 58DF 5F04 7C60 807E 7262 78CA 8CC2 96F7 58D8 5C62 6A13 6DDA 6F0F 7D2F 7E37 964B",
   "52D2 808B 51DC 51CC 7A1C 7DBE 83F1 9675 8B80 62CF 6A02 8AFE 4E39 5BE7 6012 7387 7570 5317",
   "78FB 4FBF 5FA9 4E0D 6CCC 6578 7D22 53C3 585E 7701 8449 8AAA 6BBA 8FB0 6C88 62FE 82E5 63A0",
   "7565 4EAE 5169 51C9 6881 7CE7 826F 8AD2 91CF 52F5 5442 5973 5EEC 65C5 6FFE 792A 95AD 9A6A",
   "9E97 9ECE 529B 66C6 6B77 8F62 5E74 6190 6200 649A 6F23 7149 7489 79CA 7DF4 806F 8F26 84EE",
   "9023 934A 5217 52A3 54BD 70C8 88C2 8AAA 5EC9 5FF5 637B 6BAE 7C3E 7375 4EE4 56F9 5BE7 5DBA",
   "601C 73B2 7469 7F9A 8046 9234 96F6 9748 9818 4F8B 79AE 91B4 96B8 60E1 4E86 50DA 5BEE 5C3F",
   "6599 6A02 71CE 7642 84FC 907C 9F8D 6688 962E 5289 677B 67F3 6D41 6E9C 7409 7559 786B 7D10",
   "985E 516D 622E 9678 502B 5D19 6DEA 8F2A 5F8B 6144 6817 7387 9686 5229 540F 5C65 6613 674E",
   "68A8 6CE5 7406 75E2 7F79 88CF 88E1 91CC 96E2 533F 6EBA 541D 71D0 7498 85FA 96A3 9C57 9E9F",
   "6797 6DCB 81E8 7ACB 7B20 7C92 72C0 7099 8B58 4EC0 8336 523A 5207 5EA6 62D3 7CD6 5B85 6D1E",
   "66B4 8F3B 884C 964D 898B 5ED3 5140 55C0 @FA10 585A @FA12 6674 @FA15 51DE 732A 76CA 793C",
   "795E 7965 798F 9756 7CBE 7FBD @FA20 8612 @FA22 8AF8 @FA25 9038 90FD @FA2A 98EF 98FC 9928",
   "9DB4 90DE 96B7 4FAE 50E7 514D 52C9 52E4 5351 559D 5606 5668 5840 58A8 5C64 5C6E 6094 6168",
   "618E 61F2 654F 65E2 6691 6885 6D77 6E1A 6F22 716E 722B 7422 7891 793E 7949 7948 7950 7956",
   "795D 798D*2 7A40 7A81 7BC0 7DF4 7E09 7E41 7F72 8005 81ED 8279 8279 8457 8910 8996 8B01",
   "8B39 8CD3 8D08 8FB6 9038 96E3 97FF 983B 6075 242EE 8218 @FA70 4E26 51B5 5168 4F80 5145",
   "5180 52C7 52FA 559D 5555 5599 55E2 585A 58B3 5944 5954 5A62 5B28 5ED2 5ED9 5F69 5FAD 60D8",
   "614E 6108 618E 6160 61F2 6234 63C4 641C 6452 6556 6674 6717 671B 6756 6B79 6BBA 6D41 6EDB",
   "6ECB 6F22 701E 716E 77A7 7235 72AF 732A 7471 7506 753B 761D 761F 76CA 76DB 76F4 774A 7740",
   "78CC 7AB1 7BC0 7C7B 7D5B 7DF4 7F3E 8005 8352 83EF 8779 8941 8986 8996 8ABF 8AF8 8ACB 8B01",
   "8AFE 8AED 8B39 8B8A 8D08 8F38 9072 9199 9276 967C 96E3 9756 97DB 97FF 980B 983B 9B12 9F9C",
   "2284A 22844 233D5 3B9D 4018 4039 25249 25CD0 27ED3 9F43 9F8E @FB00 0066+0066 0066+0069",
   "0066+006C 0066+0066+0069 0066+0066+006C 0073+0074 0073+0074 @FB13 0574+0576 0574+0565",
   "0574+056B 057E+0576 0574+056D @FB1D 05D9+05B4 @FB1F 05F2+05B7 05E2 05D0 05D3*2 05DB*3 05E8",
   "05EA 002B 05E9+05C1 05E9+05C2 05E9+05BC+05C1 05E9+05BC+05C2 05D0+05B7 05D0+05B8 05D0+05BC",
   "05D1+05BC 05D2+05BC 05D3+05BC 05D4+05BC 05D5+05BC 05D6+05BC @FB38 05D8+05BC 05D9+05BC",
   "05DA+05BC 05DB+05BC 05DC+05BC @FB3E 05DE+05BC @FB40 05E0+05BC 05E1+05BC @FB43 05E3+05BC",
   "05E4+05BC @FB46 05E6+05BC 05E7+05BC 05E8+05BC 05E9+05BC 05EA+05BC 05D5+05B9 05D1+05BF",
   "05DB+05BF 05E4+05BF 05D0+05DC 0671 0671 067B 067B 067B 067B 067E 067E 067E 067E 0680 0680",
   "0680 0680 067A 067A 067A 067A 067F 067F 067F 067F 0679 0679 0679 0679 06A4 06A4 06A4 06A4",
   "06A6 06A6 06A6 06A6 0684 0684 0684 0684 0683 0683 0683 0683 0686 0686 0686 0686*2 0687",
   "0687 0687 068D 068D 068C 068C 068E 068E 0688 0688 0698 0698 0691 0691 06A9 06A9 06A9 06A9",
   "06AF 06AF 06AF 06AF 06B3 06B3 06B3 06B3 06B1 06B1 06B1 06B1 06BA 06BA*2 06BB 06BB 06BB",
   "06C0 06C0*2 06C1 06C1 06C1 06BE 06BE 06BE 06BE 06D2 06D2*2 06D3 @FBD3 06AD 06AD 06AD 06AD",
   "06C7 06C7 06C6 06C6 06C8 06C8 06C7+0674 06CB 06CB 06C5 06C5 06C9 06C9 06D0 06D0 06D0 06D0",
   "0649 0649 0626+0627 0626+0627 0626+06D5 0626+06D5 0626+0648 0626+0648 0626+06C7 0626+06C7",
   "0626+06C6 0626+06C6 0626+06C8 0626+06C8 0626+06D0 0626+06D0 0626+06D0 0626+0649 0626+0649",
   "0626+0649 06CC 06CC 06CC 06CC 0626+062C 0626+062D 0626+0645 0626+0649 0626+064A 0628+062C",
   "0628+062D 0628+062E 0628+0645 0628+0649 0628+064A 062A+062C 062A+062D 062A+062E 062A+0645",
   "062A+0649 062A+064A 062B+062C 062B+0645 062B+0649 062B+064A 062C+062D 062C+0645 062D+062C",
   "062D+0645 062E+062C 062E+062D 062E+0645 0633+062C 0633+062D 0633+062E 0633+0645 0635+062D",
   "0635+0645 0636+062C 0636+062D 0636+062E 0636+0645 0637+062D 0637+0645 0638+0645 0639+062C",
   "0639+0645 063A+062C 063A+0645 0641+062C 0641+062D 0641+062E 0641+0645 0641+0649 0641+064A",
   "0642+062D 0642+0645 0642+0649 0642+064A 0643+0627 0643+062C 0643+062D 0643+062E 0643+0644",
   "0643+0645 0643+0649 0643+064A 0644+062C 0644+062D 0644+062E 0644+0645 0644+0649 0644+064A",
   "0645+062C 0645+062D 0645+062E 0645+0645 0645+0649 0645+064A 0646+062C 0646+062D 0646+062E",
   "0646+0645 0646+0649 0646+064A 0647+062C 0647+0645 0647+0649 0647+064A 064A+062C 064A+062D",
   "064A+062E 064A+0645 064A+0649 064A+064A 0630+0670 0631+0670 0649+0670 0020+064C+0651",
   "0020+064D+0651 0020+064E+0651 0020+064F+0651 0020+0650+0651 0020+0651+0670 0626+0631",
   "0626+0632 0626+0645 0626+0646 0626+0649 0626+064A 0628+0631 0628+0632 0628+0645 0628+0646",
   "0628+0649 0628+064A 062A+0631 062A+0632 062A+0645 062A+0646 062A+0649 062A+064A 062B+0631",
   "062B+0632 062B+0645 062B+0646 062B+0649 062B+064A 0641+0649 0641+064A 0642+0649 0642+064A",
   "0643+0627 0643+0644 0643+0645 0643+0649 0643+064A 0644+0645 0644+0649 0644+064A 0645+0627",
   "0645+0645 0646+0631 0646+0632 0646+0645 0646+0646 0646+0649 0646+064A 0649+0670 064A+0631",
   "064A+0632 064A+0645 064A+0646 064A+0649 064A+064A 0626+062C 0626+062D 0626+062E 0626+0645",
   "0626+0647 0628+062C 0628+062D 0628+062E 0628+0645 0628+0647 062A+062C 062A+062D 062A+062E",
   "062A+0645 062A+0647 062B+0645 062C+062D 062C+0645 062D+062C 062D+0645 062E+062C 062E+0645",
   "0633+062C 0633+062D 0633+062E 0633+0645 0635+062D 0635+062E 0635+0645 0636+062C 0636+062D",
   "0636+062E 0636+0645 0637+062D 0638+0645 0639+062C 0639+0645 063A+062C 063A+0645 0641+062C",
   "0641+062D 0641+062E 0641+0645 0642+062D 0642+0645 0643+062C 0643+062D 0643+062E 0643+0644",
   "0643+0645 0644+062C 0644+062D 0644+062E 0644+0645 0644+0647 0645+062C 0645+062D 0645+062E",
   "0645+0645 0646+062C 0646+062D 0646+062E 0646+0645 0646+0647 0647+062C 0647+0645 0647+0670",
   "064A+062C 064A+062D 064A+062E 064A+0645 064A+0647 0626+0645 0626+0647 0628+0645 0628+0647",
   "062A+0645 062A+0647 062B+0645 062B+0647 0633+0645 0633+0647 0634+0645 0634+0647 0643+0644",
   "0643+0645 0644+0645 0646+0645 0646+0647 064A+0645 064A+0647 0640+064E+0651 0640+064F+0651",
   "0640+0650+0651 0637+0649 0637+064A 0639+0649 0639+064A 063A+0649 063A+064A 0633+0649",
   "0633+064A 0634+0649 0634+064A 062D+0649 062D+064A 062C+0649 062C+064A 062E+0649 062E+064A",
   "0635+0649 0635+064A 0636+0649 0636+064A 0634+062C 0634+062D 0634+062E 0634+0645 0634+0631",
   "0633+0631 0635+0631 0636+0631 0637+0649 0637+064A 0639+0649 0639+064A 063A+0649 063A+064A",
   "0633+0649 0633+064A 0634+0649 0634+064A 062D+0649 062D+064A 062C+0649 062C+064A 062E+0649",
   "062E+064A 0635+0649 0635+064A 0636+0649 0636+064A 0634+062C 0634+062D 0634+062E 0634+0645",
   "0634+0631 0633+0631 0635+0631 0636+0631 0634+062C 0634+062D 0634+062E 0634+0645 0633+0647",
   "0634+0647 0637+0645 0633+062C 0633+062D 0633+062E 0634+062C 0634+062D 0634+062E 0637+0645",
   "0638+0645 0627+064B 0627+064B @FD50 062A+062C+0645 062A+062D+062C 062A+062D+062C",
   "062A+062D+0645 062A+062E+0645 062A+0645+062C 062A+0645+062D 062A+0645+062E 062C+0645+062D",
   "062C+0645+062D 062D+0645+064A 062D+0645+0649 0633+062D+062C 0633+062C+062D 0633+062C+0649",
   "0633+0645+062D 0633+0645+062D 0633+0645+062C 0633+0645+0645 0633+0645+0645 0635+062D+062D",
   "0635+062D+062D 0635+0645+0645 0634+062D+0645 0634+062D+0645 0634+062C+064A 0634+0645+062E",
   "0634+0645+062E 0634+0645+0645 0634+0645+0645 0636+062D+0649 0636+062E+0645 0636+062E+0645",
   "0637+0645+062D 0637+0645+062D 0637+0645+0645 0637+0645+064A 0639+062C+0645 0639+0645+0645",
   "0639+0645+0645 0639+0645+0649 063A+0645+0645 063A+0645+064A 063A+0645+0649 0641+062E+0645",
   "0641+062E+0645 0642+0645+062D 0642+0645+0645 0644+062D+0645 0644+062D+064A 0644+062D+0649",
   "0644+062C+062C 0644+062C+062C 0644+062E+0645 0644+062E+0645 0644+0645+062D 0644+0645+062D",
   "0645+062D+062C 0645+062D+0645 0645+062D+064A 0645+062C+062D 0645+062C+0645 0645+062E+062C",
   "0645+062E+0645 @FD92 0645+062C+062E 0647+0645+062C 0647+0645+0645 0646+062D+0645",
   "0646+062D+0649 0646+062C+0645 0646+062C+0645 0646+062C+0649 0646+0645+064A 0646+0645+0649",
   "064A+0645+0645 064A+0645+0645 0628+062E+064A 062A+062C+064A 062A+062C+0649 062A+062E+064A",
   "062A+062E+0649 062A+0645+064A 062A+0645+0649 062C+0645+064A 062C+062D+0649 062C+0645+0649",
   "0633+062E+0649 0635+062D+064A 0634+062D+064A 0636+062D+064A 0644+062C+064A 0644+0645+064A",
   "064A+062D+064A 064A+062C+064A 064A+0645+064A 0645+0645+064A 0642+0645+064A 0646+062D+064A",
   "0642+0645+062D 0644+062D+0645 0639+0645+064A 0643+0645+064A 0646+062C+062D 0645+062E+064A",
   "0644+062C+0645 0643+0645+0645 0644+062C+0645 0646+062C+062D 062C+062D+064A 062D+062C+064A",
   "0645+062C+064A 0641+0645+064A 0628+062D+064A 0643+0645+0645 0639+062C+0645 0635+0645+0645",
   "0633+062E+064A 0646+062C+064A @FDF0 0635+0644+06D2 0642+0644+06D2 0627+0644+0644+0647",
   "0627+0643+0628+0631 0645+062D+0645+062F 0635+0644+0639+0645 0631+0633+0648+0644",
   "0639+0644+064A+0647 0648+0633+0644+0645 0635+0644+0649",
   "0635+0644+0649+0020+0627+0644+0644+0647+0020+0639+0644+064A+0647+0020+0648+0633+0644+0645",
   "062C+0644+0020+062C+0644+0627+0644+0647 0631+06CC+0627+0644 @FE10 002C 3001 @FE13 003A*2",
   "0021 003F 3016*2 @FE31 2014 2013 005F 005F 0028*2 007B 007D 3014*2 3010*2 300A*2 3008*2",
   "300C*4 @FE47 005B 005D 0020+0305 0020+0305 0020+0305 0020+0305 005F 005F 005F 002C 3001",
   "@FE54 003B 003A 003F 0021 2014 0028*2 007B 007D 3014*2 0023 0026 002A*2 002D 003C 003E",
   "003D @FE68 005C 0024*2 0040 @FE70 0020+064B 0640+064B 0020+064C @FE74 0020+064D @FE76",
   "0020+064E 0640+064E 0020+064F 0640+064F 0020+0650 0640+0650 0020+0651 0640+0651 0020+0652",
   "0640+0652 0621*2 0622*2 0623*2 0624*2 0625*2 0626 0626 0626*2 0627*2 0628 0628 0628*2",
   "0629*2 062A 062A 062A*2 062B 062B 062B*2 062C 062C 062C*2 062D 062D 062D*2 062E 062E",
   "062E*2 062F*2 0630*2 0631*2 0632*2 0633 0633 0633*2 0634 0634 0634*2 0635 0635 0635*2 0636",
   "0636 0636*2 0637 0637 0637*2 0638 0638 0638*2 0639 0639 0639*2 063A 063A 063A 0641 0641",
   "0641 0641*2 0642 0642 0642*2 0643 0643 0643*2 0644 0644 0644*2 0645 0645 0645*2 0646 0646",
   "0646*2 0647 0647 0647*2 0648*2 0649*2 064A 064A 064A 0644+0622 0644+0622 0644+0623",
   "0644+0623 0644+0625 0644+0625 0644+0627 0644+0627 @FF01 0021*32 0061*26 005B*36 2985*2",
   "002E 300C*2 3001 30FB 30F2 30A1 30A3 30A5 30A7 30A9 30E3 30E5 30E7 30C3 30FC 30A2 30A4",
   "30A6 30A8 30AA*2 30AD 30AF 30B1 30B3 30B5 30B7 30B9 30BB 30BD 30BF 30C1 30C4 30C6 30C8",
   "30CA*6 30D2 30D5 30D8 30DB 30DE*5 30E4 30E6 30E8*6 30EF 30F3 3099*2 @FFA1 1100*2 11AA 1102",
   "11AC*2 1103*3 11B0*6 111A 1106*3 1121 1109*10 @FFC2 1161*6 @FFCA 1167*6 @FFD2 116D*6 @FFDA",
   "1173*3 @FFE0 00A2*2 00AC 0020+0304 00A6 00A5 20A9 @FFE8 2502 2190*4 25A0 25CB @10400",
   "10428*40 @104B0 104D8*36 @10570 10597*11 @1057C 105A3*15 @1058C 105B3*7 @10594 105BB*2",
   "@10781 02D0*2 00E6 0299 0253 @10787 02A3 AB66 02A5 02A4 0256*2 1D91 0258 025E 02A9 0264",
   "0262 0260 029B 0127 029C 0267 0284 02AA*2 026C 1DF04 A78E 026E 1DF05 028E 1DF06 00F8",
   "0276*2 0071 027A 1DF08 027D*2 0280 02A8 02A6 AB67 02A7 0288 2C71 @107B2 028F 02A1*2 0298",
   "01C0*3 1DF0A 1DF1E @10C80 10CC0*51 @10D50 10D70*22 @118A0 118C0*32 @16E40 16E60*32 @16EA0",
   "16EBB*25 @1CCD6 0061*26 0030*10 @1D15E 1D157+1D165 1D158+1D165 1D158+1D165+1D16E",
   "1D158+1D165+1D16F 1D158+1D165+1D170 1D158+1D165+1D171 1D158+1D165+1D172 @1D1BB 1D1B9+1D165",
   "1D1BA+1D165 1D1B9+1D165+1D16E 1D1BA+1D165+1D16E 1D1B9+1D165+1D16F 1D1BA+1D165+1D16F @1D400",
   "0061*26 0061*26 0061*26 0061*7 @1D456 0069*18 0061*26 0061*26 0061/2 @1D49F 0064 @1D4A2",
   "0067 @1D4A5 006A*2 @1D4A9 006E*4 @1D4AE 0073*8 0061*4 @1D4BB 0066/2 @1D4BE 0069*6 @1D4C5",
   "0070*11 0061*26 0061*26 0061*2 @1D507 0064*4 @1D50D 006A*8 @1D516 0073*7 @1D51E 0061*26",
   "0061*2 @1D53B 0064*4 @1D540 0069*5 @1D546 006F @1D54A 0073*7 @1D552 0061*26 0061*26",
   "0061*26 0061*26 0061*26 0061*26 0061*26 0061*26 0061*26 0061*26 0061*26 0061*26 0061*26",
   "0131 0237 @1D6A8 03B1*17 03B8 03C3*7 2207 03B1*17 03C3 03C3*7 2202 03B5 03B8 03BA 03C6",
   "03C1 03C0 03B1*17 03B8 03C3*7 2207 03B1*17 03C3 03C3*7 2202 03B5 03B8 03BA 03C6 03C1 03C0",
   "03B1*17 03B8 03C3*7 2207 03B1*17 03C3 03C3*7 2202 03B5 03B8 03BA 03C6 03C1 03C0 03B1*17",
   "03B8 03C3*7 2207 03B1*17 03C3 03C3*7 2202 03B5 03B8 03BA 03C6 03C1 03C0 03B1*17 03B8",
   "03C3*7 2207 03B1*17 03C3 03C3*7 2202 03B5 03B8 03BA 03C6 03C1 03C0 03DD 03DD @1D7CE",
   "0030*10 0030*10 0030*10 0030*10 0030*10 @1E030 0430*9 043A*3 043E*11 044B 044D*2 A689 04D9",
   "0456 0458 04E9 04AF 04CF 0430*9 043A*2 043E*2 0441 0443*6 044A*2 0491 0456 0455 045F 04AB",
   "A651 04B1 @1E900 1E922*34 @1EE00 0627*2 062C 062F @1EE05 0648 0632 062D 0637 064A 0643*4",
   "0633 0639 0641 0635 0642 0631 0634 062A*2 062E 0630 0636 0638 063A 066E 06BA 06A1 066F",
   "@1EE21 0628 062C @1EE24 0647 @1EE27 062D @1EE29 064A 0643*4 0633 0639 0641 0635 0642",
   "@1EE34 0634 062A*2 062E @1EE39 0636 @1EE3B 063A @1EE42 062C @1EE47 062D @1EE49 064A @1EE4B",
   "0644/2 @1EE4E 0633 0639 @1EE51 0635 0642 @1EE54 0634 @1EE57 062E @1EE59 0636 @1EE5B 063A",
   "@1EE5D 06BA @1EE5F 066F @1EE61 0628 062C @1EE64 0647 @1EE67 062D 0637 064A 0643/2 @1EE6D",
   "0646 0633 0639 0641 0635 0642 @1EE74 0634 062A*2 062E @1EE79 0636 0638 063A 066E @1EE7E",
   "06A1 @1EE80 0627*2 062C 062F 0647*2 0632 062D 0637 064A @1EE8B 0644*3 0633 0639 0641 0635",
   "0642 0631 0634 062A*2 062E 0630 0636 0638 063A @1EEA1 0628 062C 062F @1EEA5 0648 0632 062D",
   "0637 064A @1EEAB 0644*3 0633 0639 0641 0635 0642 0631 0634 062A*2 062E 0630 0636 0638 063A",
   "@1F101 0030+002C 0031+002C 0032+002C 0033+002C 0034+002C 0035+002C 0036+002C 0037+002C",
   "0038+002C 0039+002C @1F110 0028+0061+0029 0028+0062+0029 0028+0063+0029 0028+0064+0029",
   "0028+0065+0029 0028+0066+0029 0028+0067+0029 0028+0068+0029 0028+0069+0029 0028+006A+0029",
   "0028+006B+0029 0028+006C+0029 0028+006D+0029 0028+006E+0029 0028+006F+0029 0028+0070+0029",
   "0028+0071+0029 0028+0072+0029 0028+0073+0029 0028+0074+0029 0028+0075+0029 0028+0076+0029",
   "0028+0077+0029 0028+0078+0029 0028+0079+0029 0028+007A+0029 3014+0073+3015 0063 0072",
   "0063+0064 0077+007A @1F130 0061*26 0068+0076 006D+0076 0073+0064 0073+0073 0070+0070+0076",
   "0077+0063 @1F16A 006D+0063 006D+0064 006D+0072 @1F190 0064+006A @1F200 307B+304B 30B3+30B3",
   "30B5 @1F210 624B 5B57 53CC 30C7 4E8C 591A 89E3 5929 4EA4 6620 7121 6599 524D 5F8C 518D",
   "65B0 521D 7D42 751F 8CA9 58F0 5439 6F14 6295 6355 4E00 4E09 904A 5DE6 4E2D 53F3 6307 8D70",
   "6253 7981 7A7A 5408 6E80 6709 6708 7533 5272 55B6 914D @1F240 3014+672C+3015",
   "3014+4E09+3015 3014+4E8C+3015 3014+5B89+3015 3014+70B9+3015 3014+6253+3015 3014+76D7+3015",
   "3014+52DD+3015 3014+6557+3015 @1F250 5F97 53EF @1FBF0 0030*10 @2F800 4E3D 4E38 4E41 20122",
   "4F60 4FAE 4FBB 5002 507A 5099 50E7 50CF 349E 2063A 514D 5154 5164 5177 2051C 34B9 5167",
   "518D 2054B 5197 51A4 4ECC 51AC 51B5 291DF 51F5 5203 34DF 523B 5246 5272 5277 3515 52C7",
   "52C9 52E4 52FA 5305*2 5317 5349 5351 535A 5373 537D 537F 537F 537F 20A2C 7070 53CA 53DF",
   "20B63 53EB 53F1 5406 549E 5438 5448 5468 54A2 54F6 5510 5553 5563 5584 5584 5599 55AB 55B3",
   "55C2 5716 5606 5717 5651 5674 5207 58EE 57CE 57F4 580D 578B 5832 5831 58AC 214E4 58F2 58F7",
   "5906 591A 5922 5962 216A8 216EA 59EC 5A1B 5A27 59D8 5A66 36EE 36FC 5B08 5B3E 5B3E 219C8",
   "5BC3 5BD8 5BE7 5BF3 21B18 5BFF 5C06 5F53 5C22 3781 5C60 5C6E 5CC0 5C8D 21DE4 5D43 21DE6",
   "5D6E 5D6B 5D7C 5DE1*2 382F 5DFD 5E28 5E3D 5E69 3862 22183 387C 5EB0 5EB3 5EB6 5ECA 2A392",
   "5EFE 22331 22331 8201 5F22 5F22 38C7 232B8 261DA 5F62 5F6B 38E3 5F9A 5FCD 5FD7 5FF9 6081",
   "393A 391C 6094 226D4 60C7 6148 614C 614E 614C 617A 618E 61B2 61A4 61AF 61DE 61F2 61F6 6210",
   "621B 625D 62B1 62D4 6350 22B0C 633D 62FC 6368 6383 63E4 22BF1 6422 63C5 63A9 3A2E 6469",
   "647E 649D 6477 3A6C 654F 656C 2300A 65E3 66F8 6649 3B19 6691 3B08 3AE4 5192 5195 6700 669C",
   "80AD 43D9 6717 671B 6721 675E 6753 233C3 3B49 67FA 6785 6852 6885 2346D 688E 681F 6914",
   "3B9D 6942 69A3 69EA 6AA8 236A3 6ADB 3C18 6B21 238A7 6B54 3C4E 6B72 6B9F 6BBA*2 23A8D 21D0B",
   "23AFA 6C4E 23CBC 6CBF 6CCD 6C67 6D16 6D3E 6D77 6D41 6D69 6D78 6D85 23D1E 6D34 6E2F 6E6E",
   "3D33 6ECB 6EC7 23ED1 6DF9 6F6E 23F5E 23F8E 6FC6 7039 701E 701B 3D96 704A 707D 7077 70AD",
   "20525 7145 24263 719C 243AB 7228 7235 7250 24608 7280 7295 24735 24814 737A 738B 3EAC 73A5",
   "3EB8 3EB8 7447 745C 7471 7485 74CA 3F1B 7524 24C36 753E 24C92 7570 2219F 7610 24FA1 24FB8",
   "25044 3FFC 4008 76F4 250F3 250F2 25119 25133 771E*2 771F 774A 4039 778B 4046 4096 2541D",
   "784E 788C 78CC 40E3 25626 7956 2569A 256C5 798F 79EB 412F 7A40 7A4A 7A4F 2597C 25AA7 25AA7",
   "7AEE 4202 25BAB 7BC6 7BC9 4227 25C80 7CD2 42A0 7CE8 7CE3 7D00 25F86 7D63 4301 7DC7 7E02",
   "7E45 4334 26228 26247 4359 262D9 7F7A 2633E 7F95 7FFA 8005 264DA 26523 8060 265A8 8070",
   "2335F 43D5 80B2 8103 440B 813E 5AB5 267A7 267B5 23393 2339C 8201 8204 8F9E 446B 8291 828B",
   "829D 52B3 82B1 82B3 82BD 82E6 26B3C 82E5 831D 8363 83AD 8323 83BD 83E7 8457 8353 83CA 83CC",
   "83DC 26C36 26D6B 26CD5 452B 84F1 84F3 8516 273CA 8564 26F2C 455D 4561 26FB1 270D2 456B",
   "8650 865C 8667 8669 86A9 8688 870E 86E2 8779 8728 876B 8786 45D7 87E1 8801 45F9 8860 8863",
   "27667 88D7 88DE 4635 88FA 34BB 278AE 27966 46BE 46C7 8AA0 8AED 8B8A 8C55 27CA8 8CAB 8CC1",
   "8D1B 8D77 27F2F 20804 8DCB 8DBC 8DF0 208DE 8ED4 8F38 285D2 285ED 9094 90F1 9111 2872E 911B",
   "9238 92D7*2 927C 93F9 9415 28BFA 958B 4995 95B7 28D77 49E6 96C3 5DB2 9723 29145 2921A 4A6E",
   "4A76 97E0 2940A 4AB2 29496 980B 980B 9829 295B6 98E2 4B33 9929 99A7 99C2 99FE 4BCE 29B30",
   "9B12 9C40 9CFD 4CCE 4CED 9D67 2A0CE 4CF8 2A105 2A20E 2A291 9EBB 4D56 9EF9 9EFE 9F05 9F0F",
   "9F16 9F3B 2A600"])
where
  following (next : Nat) : List (List Char) → List Mapping
    | [] => []
    | ('@' :: place) :: rest => following (Unicode.codePoint place) rest
    | word :: rest =>
      let m := Mapping.ofWord next word
      m :: following (next + m.step * m.count) rest

/-- What stands for a character in a prepared name, if the character is allowed. -/
def imageOf? (c : Char) : Option (List Char) :=
  if isDomainCharacter c then some [c]
  else if Unicode.inRuns ignoredRuns c.toNat then some []
  else (mappings.findSome? (·.at? c.toNat)).map fun image => image.map Char.ofNat

end CredentialIssuer.Url
