import ApiLinks.Domain.Run

/-!
# The characters of labels

Which characters a label of a domain can hold, and which of them are marks, with which no label begins.
Upper case, compatibility forms and what is invisible are not among them, since they are mapped to others.
-/

namespace ApiLinks.Domain

/-- The valid characters: how many are passed over and how many follow. -/
def validLines : List String :=
  [
    "0 41 1A 25 21 7 1 1 1 2 1 1 1 2 4 2 3 1 3 1 17 1 7 21 1 1 1 1 1 1 1 1 1 1 1 1 1 1 1 1 1 1 1 1 1 1 1 1 1 1 1 1 1",
    "1 1 1 1 1 1 1 1 1 1 1 1 1 1 1 1 1 1 1 1 1 3 1 1 2 1 1 1 1 1 1 3 1 1 1 1 1 1 1 2 1 1 1 1 1 1 1 1 1 1 1 1 1 1 1 1",
    "1 1 1 1 1 1 1 1 1 1 1 1 1 1 1 1 1 1 1 1 1 1 1 1 1 1 1 1 1 2 1 1 1 1 1 1 1 2 1 1 1 2 1 3 2 4 1 2 1 3 3 2 1 2 1 1",
    "1 1 1 2 1 1 2 1 1 2 1 3 1 1 1 2 3 1 7 A 1 1 1 1 1 1 1 1 1 1 1 1 1 1 2 1 1 1 1 1 1 1 1 1 1 1 1 1 1 1 1 1 2 4 1 3",
    "1 1 1 1 1 1 1 1 1 1 1 1 1 1 1 1 1 1 1 1 1 1 1 1 1 1 1 1 1 1 1 1 1 1 1 1 1 1 1 1 1 1 1 1 1 1 1 1 1 1 1 1 1 1 1 1",
    "1 1 7 2 1 2 2 1 1 4 1 1 1 1 1 1 1 1 61 9 1F 6 2 5 5B 2 1 3 9 1 20 1 1 1 1 1 1 1 1 3 3 12 1 1B 23 8 1 1 1 1 1 1 1",
    "1 1 1 1 1 1 1 1 1 1 1 1 1 1 1 1 1 1 3 1 2 1 1 1 2 2 33 30 1 1 1 1 1 1 1 1 1 1 1 1 1 1 1 1 1 1 1 1 1 1 1 1 1 1 1",
    "1 1 1 1 1 1 9 1 1 1 1 1 1 1 1 1 1 1 1 1 1 1 1 1 1 1 1 1 1 1 1 1 1 1 1 1 1 1 1 1 1 1 1 1 1 1 1 1 1 1 1 1 1 1 1 1",
    "1 1 1 1 1 2 1 1 1 1 1 1 1 1 1 1 1 1 2 1 1 1 1 1 1 1 1 1 1 1 1 1 1 1 1 1 1 1 1 1 1 1 1 1 1 1 1 1 1 1 1 1 1 1 1 1",
    "1 1 1 1 1 1 1 1 1 1 1 1 1 1 1 1 1 1 1 1 1 1 1 1 1 1 1 1 1 1 1 1 1 1 1 1 1 1 1 1 1 1 1 1 1 1 1 1 1 1 1 1 1 1 1 1",
    "1 1 1 29 2E 1 3 2 3 1 37 8 1B 4 6 11 16 1 58 4 64 1 30 2 3B 2 65 E 3B 2 31 2 F 1 1C 2 1 1 B 5 1F 9 4A 1 75 8 24",
    "1 8 2 2 2 16 1 7 1 1 3 4 2 9 2 2 2 4 8 1 8 4 2 19 2 3 1 6 4 2 2 16 1 7 1 1 2 1 2 2 2 1 1 5 4 2 2 3 3 1 A 1 9 11",
    "A 3 1 9 1 3 1 16 1 7 1 2 1 5 2 A 1 3 1 3 2 1 F 4 2 C 7 7 1 3 1 8 2 2 2 16 1 7 1 2 1 5 2 9 2 2 2 3 7 3 7 5 2 12 A",
    "2 1 6 3 3 1 4 3 2 1 1 1 2 3 2 3 3 3 C 4 5 3 3 1 4 2 1 6 1 E 15 5 D 1 3 1 17 1 10 2 9 1 3 1 4 7 2 1 3 2 1 2 4 2 A",
    "7 16 1 3 1 17 1 A 1 5 2 9 1 3 1 4 7 2 6 2 1 4 2 A 1 3 C D 1 3 1 33 1 3 1 6 4 10 2 1A 1 3 1 12 3 18 1 9 1 1 2 7 3",
    "1 4 6 1 1 1 8 6 A 2 3 C 32 1 7 4 1D 25 2 1 1 1 5 1 18 1 1 1 C 1 A 2 5 1 1 1 7 1 A 4 2 20 C 1 36 1 4 1 4 1 4 1 4",
    "1 4 1 C 1 3 4 2 1 1 5 7 1 11 1 4 1 4 1 4 1 4 1 4 1 C 1 3 1 F 1 D 25 A0 30 2C 1 62 2 E8 1 4 2 7 1 1 1 4 2 29 1 4",
    "2 21 1 4 2 7 1 1 1 4 2 F 1 39 1 4 2 43 2 20 3 1A 6 56 A 280 1 1C 3 59 7 16 9 18 9 14 C D 1 3 1 2 C 34 2 28 2 A 6",
    "A 6 B 5 A 6 59 7 2B 5 46 A 1F 1 C 4 C 4 1 3 2A 2 5 B 2C 4 1A 6 B 3 3E 2 41 1 1D 2 B 6 A 6 E 2 1F 31 4D 3 2F 1 74",
    "8 3C 3 F 3 33 40 8 8 2B 5 2C 3 1 B 1 12 1 1C D 1 22 25 40 1 1 1 1 1 1 1 1 1 1 1 1 1 1 1 1 1 1 1 1 1 1 1 1 1 1 1",
    "1 1 1 1 1 1 1 1 1 1 1 1 1 1 1 1 1 1 1 1 1 1 1 1 1 1 1 1 1 1 1 1 1 1 1 1 1 1 1 1 1 1 1 1 1 1 1 1 1 1 1 1 1 1 1 1",
    "1 1 1 1 1 1 1 1 1 1 1 1 1 1 1 1 1 1 1 1 1 1 1 1 1 1 1 1 1 1 1 1 1 1 1 1 1 1 1 1 1 1 1 1 1 1 1 1 1 1 1 1 1 1 1 1",
    "1 1 1 1 1 1 1 1 1 1 5 2 2 1 1 1 1 1 1 1 1 1 1 1 1 1 1 1 1 1 1 1 1 1 1 1 1 1 1 1 1 1 1 1 1 1 1 1 1 1 1 1 1 1 1 1",
    "1 1 1 1 1 1 1 1 1 1 1 1 1 1 1 1 1 1 1 1 1 1 1 1 1 1 1 1 1 1 1 1 1 1 1 1 1 1 1 1 1 1 1 1 1 1 1 1 1 1 1 1 1 1 9 8",
    "6 A 8 8 8 8 6 A 8 8 8 8 1 1 1 1 1 1 1 1 1 1 1 1 1 33 2 4 1 F 1 9 3 3 2 8 3 1 4 E 1 15 2 2 1 1 5 1 C 3 1 8 3 2 1",
    "2 4 1 1 1 8 3 D 1 7 41 8 1 18 F 21 13 1 3 1 B 1 2 2 5 2 3 1 1 1 1 1 1 1 4 1 B 1 6 4 5 6 30 3 1 5 1 2 4 9C 2 1 2",
    "F8 2 FC 19 B A0 521 1 67 3 65 1 97 2 20 1 69 30 30 1 1 3 2 1 1 1 1 1 1 4 1 1 2 1 6 5 1 1 1 1 1 1 1 1 1 1 1 1 1 1",
    "1 1 1 1 1 1 1 1 1 1 1 1 1 1 1 1 1 1 1 1 1 1 1 1 1 1 1 1 1 1 1 1 1 1 1 1 1 1 1 1 1 1 1 1 1 1 1 1 1 1 1 1 1 1 1 1",
    "1 1 1 1 1 1 1 1 1 1 1 1 1 1 1 1 1 1 1 1 1 1 1 1 1 1 1 1 8 1 1 1 4 1 1 5 2D 1 1 5 1 2 38 8 1 E 18 9 7 1 7 1 7 1 7",
    "1 7 1 7 1 7 1 7 1 7E 22 1A 1 4 1 53 10E 1 1 33 1 1 3 5 1 56 2 2 2 2 1 5F 6 2B 60 2 E 44 C 10 48 8 2F 1 180 708D",
    "3 37 9 15C 15 1 1 1 1 1 1 1 1 1 1 1 1 1 1 1 1 1 1 1 1 1 1 1 1 1 1 1 1 1 1 1 1 1 1 1 1 1 1 1 1 1 1 1 1 13 1 1 1 1",
    "1 1 1 1 1 1 1 1 1 1 1 1 1 1 1 1 1 1 1 1 1 1 1 1 2 5A 8 22 1 1 1 1 1 1 1 1 1 1 1 1 1 3 1 1 1 1 1 1 1 1 1 1 1 1 1",
    "1 1 1 1 1 1 1 1 1 1 1 1 1 1 1 1 1 1 1 1 1 1 1 1 1 1 1 1 1 1 1 1 1 1 1 1 1 1 1 1 1 1 1 1 1 1 1 1 1 1 8 1 1 1 1 2",
    "1 1 1 1 1 1 1 1 4 1 1 1 2 1 1 1 3 1 1 1 1 1 1 1 1 1 1 1 1 1 1 1 1 1 1 1 1 5 1 5 1 1 1 1 1 1 1 1 1 1 1 1 1 1 1 4",
    "1 1 1 6 1 1 1 1 1 1 1 1 1 1C 2 2 33 3 A 6 38 8 46 8 C 6 74 B 1E 3 4E 1 B 4 21 1 37 9 E 2 A 2 67 18 1C A 6 2 6 2",
    "6 9 7 1 7 1 2C 4 9 1 2 54 2E 2 A 6 2BA4 C 17 4 31 2212 2 1 1 1 2 A 1 1 1 1 2 2 3 F4 1 93 11 17B 12 7F 1 2D 3 20",
    "10 15 2 2C 1 18C C 1 1A 1 13 1 2 1 F 2 E 22 7B 5 3 4 2D 3 58 1 D 3 1 2F 2E 82 1D 3 31 F 1C 4 24 9 1E 5 2B 5 1E 1",
    "25 4 E 52 76 2 A 2E 24 4 28 8 34 B 1 27 B 1 F 1 7 1 2 43 137 9 16 A 8 18 1 7F 6 2 1 1 2C 1 2 3 1 2 17 1 48 8 9",
    "30 13 1 2 5 21 3 1B 5 1 40 38 4 14 2 32 1 2 5 8 1 3 1 1D 2 3 4 A 7 9 7 40 20 27 4 C 9 36 3 1D 2 1B 5 1A 7 4 C 7",
    "50 49 77 33 7 2E 8 A 126 1F 1 2A 1 3 2 2 4B 2B 8 2A 16 1A 26 1C 14 17 9 4E 4 24 9 3E 1 5 D 19 7 A 6 35 1 12 8 27",
    "9 60 1 14 B 12 1 2F 3E 7 1 1 1 4 1 F 1 B 6 3B 5 A 6 4 1 8 2 2 2 16 1 7 1 2 1 5 1 A 2 2 2 3 2 1 6 1 5 7 2 7 3 5",
    "8B 5C 1 5 1E 48 8 A A6 36 2 26 22 45 B A 6 D 13 3A 6 A 36 1B 2 F 4 17 B9 3C 84 33 C 8 2 1 2 8 1 2 1 1E 1 2 2 C 9",
    "A 46 8 2 2E 2 B 1B 48 8 53 D 49 7 A F6 9 1 2D 1 E A 1D 3 20 2 16 1 E 49 7 1 2 1 2C 3 1 1 2 1 9 8 A 6 6 1 2 1 25",
    "1 2 1 6 7 A 136 19 7 11 1 29 3 1C 56 1 F 32 D 39B 66 6F 1 5 B C4 A4C 63 D 430 10 16 FAA 247 21B9 239 7 1F 1 A 4",
    "51 1 A 6 1E 2 6 A 46 A A 1 7 1 15 5 13 2D0 3B 65 4B 4 39 7 11 40 5 B 2 E 17F8 8 4D6 2A 9 22E7 4 1 7 1 2 1 123 F",
    "1 1D 3 2 1 E 4 8 18C 904 6B 5 D 3 9 7 A 2 4 1260 2E 2 17 9 74 3C F6 A 27 2 35 7 E 8 40 6 2A 15 46 7A 14 C 14 C",
    "57 9 19 487 28C F 5 1 F 450 1F 6 6 D5 7 1 11 2 7 1 2 1 5 64 1 70 2D 3 E 2 A 4 2 140 1F 11 3A 5 1 1D0 2A 2E6 7 1",
    "4 1 2 1 F 1 C5 2 10 4B 2A 4 A 4 2 311 44 4C 3D 1B2 2 10E 2C 4 64 C F 2 F 1 F 1 25 15 5 1F 1 20 1A 3 23 1 1D 38",
    "1A 60 6 9A 3D8 4 11 3 D 3 77 4 5F 6 C 4 1 F C 4 38 8 A 6 28 8 1E 2 2 4E 154 C E 2 D 3 9 7 2E 1 7 8 E 4 9 7 9 7",
    "93 1 37 435 A6E0 20 103A 6 DE 2 1682 E 1D31 F 26E 11A2 134B 5 1060"]

def validRuns : Array (Run Unit) := (Run.ofPairs 0 (Run.numbers validLines)).toArray

/-- Whether a label can hold a character. -/
def isValid (c : Char) : Bool := Run.holds validRuns c

/-- The marks; a run may take in characters that are not valid. -/
def markLines : List String :=
  [
    "300 70 113 7 107 2D 1 1 1 2 1 2 1 1 48 B 30 15 10 1 65 7 2 6 2 2 1 4 23 1 1E 1B 5B B 3A 9 9 1 18 4 1 9 1 3 1 5",
    "2B 3 3C 8 2A 3A 36 3 1 12 1 7 A 2 1D 3 38 1 1 10 9 1 A 2 1A 6 38 16 1E 2 3 1 B 3 38 1 1 10 14 2 16 A 38 1 1 1A A",
    "2 1E 1 3B 10 9 1 28 5 37 1 1 19 B 2 1D 3 38 1 1 19 B 2 F 11 37 2 1 10 9 1 A 2 1D 3 46 16 12 2 3D 1 2 7 C 8 62 1",
    "2 9 B 7 49 2 1B 1 1 1 1 1 4 2 31 14 1 2 5 30 9 1 64 14 17 4 4 3 1 3 2 7 3 4 D C 1 1 A 4 2BF 3 3B2 4 1C 3 1D 2 1E",
    "2 42 1E 9 1 A7 2 22 1 76 1C DB 5 39 2B 30 55 2F 11 26 9 C 3 1E D 38 E 30 14 98 3 1 15 4 1 6 1 2 3 C6 40 2D0 21",
    "BFE 3 8D 1 60 20 22A 6 69 2 75D4 4 1 A 20 2 50 2 110 1 3 1 4 1 17 5 4 1 53 2 32 12 1A 12 D 1 26 8 19 D 2C 4 2F E",
    "24 1 43 E C 1 8 2 2D 3 32 1 1 3 2 2 5 2 1 1 29 5 5 2 EC 8 1 2 4F30 1 301 10 3CD 1 E2 1 95 5 686 F 28 8 A5 2 23D",
    "4 183 2 50 3 46 B 31 4 7A 3 35 F 29 1 2 2 A 4 2D B 7 1 3D 3 24 E 10 2 2C 1 C 3 30 E 8 4 1 2 5C C 6 1 2 1 9D C 15",
    "4 37 2 1 10 9 1 A 13 C0 12 17 1 51 14 EB 12 1B 2 52 11 6A D 65 F 100 F F5 F 1 1 1 2 8D 10 3 1 1C A 28 7 1 4 8 1",
    "9 B 2E 10 195 11 52 25 7A 15 1 1 42 E 15B 4 9 2 1 1 30 F 14FD 1 6 F 369A 5 3B 7 418 1 1 42 51 E 4CAB 2 1261 47",
    "21E 5 3 16 2 7 1E 4 94 3 7BB 37 4 32 8 1 E 1 16 15 550 90 A0 7 177 1 3D 4 1FC 4 3E0 7 6D 7"]

def markRuns : Array (Run Unit) := (Run.ofPairs 0 (Run.numbers markLines)).toArray

/-- Whether a valid character is a mark on the one before it. -/
def isMark (c : Char) : Bool := Run.holds markRuns c

end ApiLinks.Domain
