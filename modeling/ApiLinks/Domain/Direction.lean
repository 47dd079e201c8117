import ApiLinks.Domain.Run
import ApiLinks.Text.Basic

/-!
# The direction of writing

Where a domain has a character that is written from right to left, each of its labels keeps to one
direction, so that none is displayed as another one.
-/

namespace ApiLinks.Domain

/-- What a character means for the direction of its text. -/
inductive Direction where
  | leftToRight
  | rightToLeft
  /-- A letter of Arabic, which is written from right to left. -/
  | arabicLetter
  | arabicNumber
  | europeanNumber
  /-- A sign of numbers: a plus or minus, a separator, or what ends them. -/
  | numberSign
  /-- It takes the direction of its neighbours. -/
  | neutral
  /-- It belongs to the character before it. -/
  | mark
  /-- A separator or a sign that changes the direction. -/
  | separator
  deriving DecidableEq, Repr

/-- The directions of characters, by threes; the third number is the place in `Direction`. -/
def directionLines : List String :=
  [
    "0 9 6 0 5 8 0 E 6 0 5 8 0 2 6 0 3 5 0 5 6 0 5 5 0 A 4 0 1 5 0 26 6 1A 27 6 0 4 5 0 9 6 1 2 5 4 22 6 1F 1 6 1C1 2",
    "6 7 E 6 2 1C 6 1 11 6 0 70 7 5 1 6 80 1 6 8C 7 7 100 5 6 0 1 5 1 2D 7 0 1 1 0 1 7 0 1 1 0 2 7 0 1 1 0 2 7 0 1 1",
    "0 1 7 8 25 1 11 2 6 0 1 2 0 2 5 0 1 2 0 1 5 0 1 2 0 2 6 0 B 7 0 30 2 0 15 7 0 A 3 0 1 5 0 2 3 0 3 2 0 1 7 0 65 2",
    "0 7 7 1 1 6 0 6 7 0 2 2 0 2 7 0 1 6 0 4 7 0 2 2 0 A 4 0 17 2 0 1 7 0 1E 2 0 1B 7 2 59 2 0 B 7 0 1 2 E 2B 1 0 9 7",
    "0 2 1 0 4 6 0 1 1 2 1 7 0 18 1 0 4 7 0 1 1 0 9 7 0 1 1 0 3 7 0 1 1 0 5 7 2 29 1 0 3 7 2 1 1 1 2F 2 9 8 7 0 2A 2",
    "0 39 7 37 1 7 1 1 7 4 8 7 4 1 7 3 7 7 A 2 7 1D 1 7 3A 1 7 4 4 7 8 1 7 14 2 7 E 2 5 7 1 5 2 5 7 39 1 7 4 11 7 1E",
    "2 7 3 1 7 B 2 7 39 1 7 4 8 7 4 1 7 14 2 7 D 1 5 8 8 7 3A 1 7 2 1 7 1 4 7 8 A 7 B 2 7 1E 1 7 3D 1 7 C 1 7 25 6 6",
    "0 1 5 0 1 6 5 1 7 3 1 7 37 1 7 1 3 7 5 11 7 B 2 7 14 7 6 2 1 7 3A 1 7 F 2 7 14 2 7 1C 2 7 39 2 7 4 4 7 8 1 7 14",
    "2 7 1D 1 7 48 1 7 7 5 7 5A 1 7 2 7 7 4 1 5 7 8 7 62 1 7 2 9 7 B 7 7 49 2 7 1B 1 7 1 1 7 1 1 7 0 4 6 33 E 7 1 5 7",
    "1 2 7 5 30 7 9 1 7 66 4 7 1 6 7 1 2 7 2 2 7 19 2 7 4 3 7 10 4 7 D 1 7 2 2 7 6 1 7 F 1 7 2BF 3 7 30 A 6 66 1 6",
    "29A 2 6 75 3 7 1D 2 7 1E 2 7 1E 2 7 43 7 7 8 1 7 2 B 7 7 1 5 1 1 7 12 1B 6 7A 2 7 22 1 7 76 3 7 4 2 7 9 1 7 6 3",
    "7 4 6 6 98 22 6 17 2 7 2 1 7 3A 1 7 1 9 7 1 1 7 2 8 7 6 D 7 30 54 7 30 1 7 1 5 7 1 1 7 5 1 7 28 9 7 C 2 7 20 4 7",
    "2 2 7 1 3 7 38 1 7 1 2 7 3 1 7 1 3 7 3A 8 7 2 2 7 98 3 7 1 D 7 1 7 7 4 1 7 6 1 7 3 2 7 C6 40 7 20C 1C 6 8 3 5 2",
    "F 6 0 1 5 0 1A 6 41 21 5 F 21 7 13 26 6 4 1 5 B 14 6 3C 88 6 0 2 5 0 122 6 45 1A 6 1 316 6 1 153 6 100 300 6 E5",
    "6 6 4 3 7 7 7 6 7F 1 7 60 20 7 0 205 6 3 19 6 9 4 7 2 1 6 6 1 6 5 3 6 59 2 7 5 1 6 5A 1 6 C4 24 6 1BDC 40 6 5690",
    "37 6 146 3 6 5F 4 7 0 1 6 0 A 7 0 2 6 1E 2 7 50 2 7 E 22 6 66 1 6 79 1 7 3 1 7 4 1 7 19 2 7 1 4 6 0 1 7 B 2 5 3A",
    "4 6 4C 2 7 1A 12 7 D 1 7 26 8 7 19 B 7 2E 3 7 30 1 7 2 4 7 2 2 7 27 1 7 43 6 7 2 2 7 2 2 7 C 1 7 8 1 7 2F 1 7 33",
    "1 7 1 3 7 2 2 7 5 2 7 1 1 7 2A 2 7 8 1 7 73 2 6 79 1 7 2 1 7 4 1 7 4F30 1 7 93 11 2 17B C2 6 20 10 7 15 2 6 2C 1",
    "2 28D 1 6 3E 4D 6 3 11 6 5C 1 7 E2 1 7 0 1B 4 7A 5 7 485 11C 1 3 1 6 0 E1 1 0 F 7 0 26 1 2 8 7 0 A5 1 0 2 7 4 4B",
    "1 3 7 6 0 1C0 1 0 24 2 0 4 7 8 14F 3 1 2A 1 1 2 7 0 5 1 4B 3 7 0 28 1 8 16 2 0 B 7 0 9 2 16 12 1 0 4 7 0 71 1 A",
    "1 7 36 F 7 B 14 6 A 1 7 2 2 7 A 3 7 31 4 7 2 2 7 7 1 7 3D 3 7 24 5 7 1 8 7 3E 1 7 C 2 7 34 9 7 A 4 7 2 1 7 5F 3",
    "7 2 1 7 1 2 7 6 1 7 2 1 7 9D 1 7 3 8 7 15 2 7 39 2 7 3 1 7 25 F 7 C3 8 7 2 3 7 1 1 7 17 1 7 54 6 7 1 1 7 4 2 7 1",
    "2 7 EE 4 7 6 2 7 1 2 7 1B 2 7 55 8 7 2 1 7 1 2 7 1F D 6 3E 1 7 1 1 7 2 6 7 1 1 7 65 3 7 2 4 7 1 5 7 103 9 7 1 2",
    "7 100 2 7 1 1 7 4 1 7 90 8 7 4 1 7 20 6 7 2 2 7 28 6 7 2 4 7 8 1 7 9 6 7 2 3 7 2E D 7 1 2 7 196 E 7 54 16 7 2 7",
    "7 1 2 7 1 2 7 7A 15 7 1 1 7 48 2 7 3 1 7 1 1 7 15B 2 7 B 2 7 34 5 7 5 1 7 1 1 7 92 8 6 0 4 5 0 11 6 144E 1 7 6 F",
    "7 369A 5 7 3B 7 7 418 1 7 3F 4 7 4F 1 6 1 1 7 4CB8 2 7 1261 47 7 220 3 7 11 8 7 2 7 7 1E 4 7 3B 59 6 0 3 7 0 1 6",
    "BA 57 6 6A9 37 7 4 32 7 8 1 7 E 1 7 16 15 7 550 90 7 A0 7 7 177 1 7 3D 4 7 F 1 5 1EC 4 7 310 D0 1 0 7 7 4B 22 1",
    "0 7 7 0 15 1 311 CD 2 1B2 240 6 3D 3 6 3D 1 6 B2 96B 6"]

def directionRuns : Array (Run Nat) := (Run.ofTriples 0 (Run.numbers directionLines)).toArray

def direction (c : Char) : Direction :=
  match Run.valueOf directionRuns c with
  | 1 => .rightToLeft
  | 2 => .arabicLetter
  | 3 => .arabicNumber
  | 4 => .europeanNumber
  | 5 => .numberSign
  | 6 => .neutral
  | 7 => .mark
  | 8 => .separator
  | _ => .leftToRight

/-- Whether a character is written from right to left. -/
def isRightToLeft (c : Char) : Bool :=
  let d := direction c
  d = .rightToLeft || d = .arabicLetter || d = .arabicNumber

/-- Whether a label keeps to one direction: that of its first character, which is a letter. It ends
in a letter or a number, marks aside, and has no character of the other direction; from right to
left it has numbers of one kind. -/
def keepsDirection (label : Text) : Bool :=
  match label with
  | [] => true
  | first :: _ =>
    let directions := label.map direction
    let last := (directions.reverse.dropWhile (· == .mark)).head?
    let only (ds : List Direction) := directions.all fun d => ds.contains d
    match direction first with
    | .leftToRight =>
      only [.leftToRight, .europeanNumber, .numberSign, .neutral, .mark] &&
        last.any [Direction.leftToRight, .europeanNumber].contains
    | .rightToLeft | .arabicLetter =>
      only [.rightToLeft, .arabicLetter, .arabicNumber, .europeanNumber, .numberSign, .neutral, .mark] &&
        last.any [Direction.rightToLeft, .arabicLetter, .arabicNumber, .europeanNumber].contains &&
        !(directions.contains .arabicNumber && directions.contains .europeanNumber)
    | _ => false

end ApiLinks.Domain
