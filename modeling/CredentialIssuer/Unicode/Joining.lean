import CredentialIssuer.Unicode.Runs

/-! How cursive letters join with their neighbours. -/
namespace CredentialIssuer.Unicode

inductive Joining where
  | left
  | right
  | dual
  | transparent
  /-- Letters that join with none, and those that only cause others to join. -/
  | other
  deriving DecidableEq, Repr

private def Joining.ofWord : List Char → Joining
  | ['L'] => .left
  | ['R'] => .right
  | ['D'] => .dual
  | ['T'] => .transparent
  | _ => .other

private def joiningRuns : List (Nat × Joining) := classRuns Joining.ofWord
  ["173 U 1 T 594 U 112 T 275 U 7 T 263 U 45 T 1 U 1 T 1 U 2 T 1 U 2 T 1 U 1 T 72 U 11 T 1 U 1",
   "T 3 U 1 D 1 U 4 R 1 D 1 R 1 D 1 R 5 D 4 R 13 D 1 C 7 D 1 R 2 D 21 T 14 U 2 D 1 T 3 R 1 U 3",
   "R 16 D 18 R 38 D 1 R 2 D 9 R 1 D 1 R 1 D 1 R 2 D 2 R 1 U 1 R 7 T 2 U 6 T 2 U 2 T 1 U 4 T 2",
   "R 10 U 3 D 2 U 1 D 15 U 1 T 1 R 1 T 3 D 5 R 4 D 1 R 9 D 1 R 1 D 1 R 1 D 1 R 2 D 1 R 27 T 2",
   "U 1 R 11 D 3 R 15 D 2 R 4 D 1 R 1 D 2 R 3 D 2 R 6 D 38 U 11 T 25 U 33 D 9 T 6 U 1 C 2 U 1",
   "T 24 U 4 T 1 U 9 T 1 U 3 T 1 U 5 T 18 U 1 R 5 D 2 R 1 D 1 R 10 D 1 R 1 D 3 R 3 T 4 U 1 D 1",
   "U 4 D 1 U 1 R 1 D 2 R 5 U 19 R 3 C 1 D 2 U 5 D 1 R 1 D 7 U 9 T 10 D 3 R 1 U 1 R 2 D 2 R 6",
   "D 1 R 15 D 1 U 24 T 1 U 32 T 55 U 1 T 1 U 1 T 4 U 8 T 4 U 1 T 3 U 7 T 10 U 2 T 29 U 1 T 58",
   "U 1 T 4 U 4 T 8 U 1 T 20 U 2 T 26 U 1 T 2 U 2 T 57 U 1 T 4 U 2 T 4 U 2 T 2 U 3 T 3 U 1 T",
   "30 U 2 T 3 U 1 T 11 U 2 T 57 U 1 T 4 U 5 T 1 U 2 T 4 U 1 T 20 U 2 T 22 U 6 T 1 U 1 T 58 U",
   "1 T 2 U 1 T 1 U 4 T 8 U 1 T 7 U 2 T 11 U 2 T 30 U 1 T 61 U 1 T 12 U 1 T 50 U 1 T 3 U 1 T",
   "55 U 1 T 1 U 3 T 5 U 3 T 1 U 4 T 7 U 2 T 11 U 2 T 29 U 1 T 58 U 1 T 2 U 1 T 6 U 1 T 5 U 2",
   "T 20 U 2 T 28 U 2 T 57 U 2 T 4 U 4 T 8 U 1 T 20 U 2 T 29 U 1 T 72 U 1 T 7 U 3 T 1 U 1 T 90",
   "U 1 T 2 U 7 T 12 U 8 T 98 U 1 T 2 U 9 T 11 U 7 T 73 U 2 T 27 U 1 T 1 U 1 T 1 U 1 T 55 U 14",
   "T 1 U 5 T 1 U 2 T 5 U 11 T 1 U 36 T 9 U 1 T 102 U 4 T 1 U 6 T 1 U 2 T 2 U 2 T 25 U 2 T 4 U",
   "3 T 16 U 4 T 13 U 1 T 2 U 2 T 6 U 1 T 15 U 1 T 703 U 3 T 946 U 3 T 29 U 2 T 30 U 2 T 30 U",
   "2 T 64 U 2 T 1 U 7 T 8 U 1 T 2 U 11 T 9 U 1 T 41 U 1 D 2 U 1 C 3 T 1 U 1 T 16 U 89 D 12 U",
   "2 T 34 D 1 T 1 D 117 U 3 T 4 U 2 T 9 U 1 T 6 U 3 T 219 U 2 T 2 U 1 T 58 U 1 T 1 U 7 T 1 U",
   "1 T 1 U 1 T 2 U 8 T 6 U 10 T 2 U 1 T 48 U 46 T 2 U 12 T 20 U 4 T 48 U 1 T 1 U 5 T 1 U 1 T",
   "5 U 1 T 40 U 9 T 12 U 2 T 32 U 4 T 2 U 2 T 1 U 3 T 56 U 1 T 1 U 2 T 3 U 1 T 1 U 3 T 58 U 8",
   "T 2 U 2 T 152 U 3 T 1 U 13 T 1 U 7 T 4 U 1 T 6 U 1 T 3 U 2 T 198 U 64 T 523 U 1 T 1 U 1 C",
   "2 T 26 U 5 T 49 U 5 T 5 U 6 T 96 U 33 T 3070 U 3 T 141 U 1 T 96 U 32 T 554 U 4 T 107 U 2 T",
   "30164 U 4 T 1 U 10 T 32 U 2 T 80 U 2 T 272 U 1 T 3 U 1 T 4 U 1 T 25 U 2 T 5 U 1 T 19 U 50",
   "D 1 L 81 U 2 T 26 U 18 T 13 U 1 T 38 U 8 T 25 U 11 T 46 U 3 T 48 U 1 T 2 U 4 T 2 U 2 T 39",
   "U 1 T 67 U 6 T 2 U 2 T 2 U 2 T 12 U 1 T 8 U 1 T 47 U 1 T 51 U 1 T 1 U 3 T 2 U 2 T 5 U 2 T",
   "1 U 1 T 42 U 2 T 8 U 1 T 238 U 1 T 2 U 1 T 4 U 1 T 20272 U 1 T 737 U 16 T 16 U 16 T 207 U",
   "1 T 249 U 3 T 513 U 1 T 226 U 1 T 149 U 5 T 1670 U 3 T 1 U 2 T 5 U 4 T 40 U 3 T 4 U 1 T",
   "128 U 5 D 1 R 1 U 1 R 1 U 2 R 2 U 1 L 5 R 4 D 1 L 5 D 1 R 3 D 1 R 2 U 1 R 2 T 4 U 4 D 1 R",
   "144 U 1 D 1 R 1 D 3 R 3 D 1 R 2 D 1 R 1 D 2 R 1 D 1 R 23 U 4 R 2 D 337 U 1 L 33 D 1 R 1 D",
   "4 T 65 U 5 T 317 U 2 T 21 U 1 R 2 D 1 U 2 D 50 U 6 T 48 U 3 D 1 R 17 D 1 U 11 T 3 D 1 R 27",
   "U 4 D 2 R 12 D 4 T 42 U 1 D 1 U 2 D 3 R 1 U 1 D 2 R 2 D 1 R 2 D 1 U 1 D 2 R 1 D 4 U 1 R 1",
   "D 1 L 53 U 1 T 54 U 15 T 41 U 1 T 2 U 2 T 10 U 3 T 49 U 4 T 2 U 2 T 7 U 1 T 61 U 3 T 36 U",
   "5 T 1 U 8 T 62 U 1 T 12 U 2 T 52 U 9 T 10 U 4 T 2 U 1 T 95 U 3 T 2 U 1 T 1 U 2 T 6 U 1 T 2",
   "U 1 T 157 U 1 T 3 U 8 T 21 U 2 T 57 U 2 T 3 U 1 T 37 U 7 T 3 U 5 T 70 U 6 T 13 U 1 T 1 U 1",
   "T 1 U 1 T 14 U 2 T 85 U 8 T 2 U 3 T 1 U 1 T 23 U 1 T 84 U 6 T 1 U 1 T 4 U 2 T 1 U 2 T 238",
   "U 4 T 6 U 2 T 1 U 2 T 27 U 2 T 85 U 8 T 2 U 1 T 1 U 2 T 106 U 1 T 1 U 1 T 2 U 6 T 1 U 1 T",
   "101 U 1 T 1 U 1 T 2 U 4 T 1 U 5 T 259 U 9 T 1 U 2 T 256 U 2 T 1 U 1 T 4 U 1 T 144 U 4 T 2",
   "U 2 T 4 U 1 T 32 U 10 T 40 U 6 T 2 U 4 T 8 U 1 T 9 U 6 T 2 U 3 T 46 U 13 T 1 U 2 T 198 U 1",
   "T 1 U 3 T 1 U 1 T 201 U 7 T 1 U 6 T 1 U 1 T 82 U 22 T 2 U 7 T 1 U 2 T 1 U 2 T 122 U 6 T 3",
   "U 1 T 1 U 2 T 1 U 7 T 1 U 1 T 72 U 2 T 3 U 1 T 1 U 1 T 347 U 2 T 11 U 2 T 52 U 5 T 5 U 1 T",
   "1 U 1 T 23 U 1 T 5333 U 17 T 6 U 15 T 11464 U 12 T 3 U 3 T 2496 U 5 T 59 U 7 T 1048 U 1 T",
   "63 U 4 T 81 U 1 T 19640 U 2 T 1 U 4 T 4700 U 46 T 2 U 23 T 544 U 3 T 9 U 16 T 2 U 7 T 30 U",
   "4 T 148 U 3 T 1979 U 55 T 4 U 50 T 8 U 1 T 14 U 1 T 22 U 5 T 1 U 15 T 1360 U 7 T 1 U 17 T",
   "2 U 7 T 1 U 2 T 1 U 5 T 100 U 1 T 160 U 7 T 375 U 1 T 61 U 4 T 508 U 4 T 254 U 2 T 243 U 1",
   "T 2 U 1 T 7 U 2 T 5 U 1 T 474 U 7 T 41 U 68 D 8 T 792245 U 1 T 30 U 96 T 128 U 240 T"]

def joining (c : Char) : Joining := classAt .other joiningRuns c.toNat

end CredentialIssuer.Unicode
