import ApiLinks.Domain.Composition

/-!
# Joiners

Two invisible characters ask for letters to be joined or kept apart. A label holds them only where they make
a difference: behind a sign that takes the vowel of its letter away, or, for the one that keeps apart,
between letters that would join.
-/

namespace ApiLinks.Domain

/-- How a character joins with its neighbours. -/
inductive Joining where
  /-- It joins with none. -/
  | none
  /-- Joining goes on across it. -/
  | transparent
  /-- It joins with the character behind it. -/
  | behind
  /-- It joins with the character in front of it. -/
  | before
  /-- It joins with both. -/
  | both
  deriving DecidableEq, Repr

/-- How characters join, by threes; the third number is the place in `Joining`. -/
def joiningLines : List String :=
  [
    "300 70 1 113 7 1 107 2D 1 1 1 1 1 2 1 1 2 1 1 1 1 48 B 1 5 1 4 1 4 3 0 1 4 0 1 3 0 1 4 0 1 3 0 5 4 0 4 3 0 D 4 1",
    "7 4 0 1 3 0 2 4 0 15 1 E 2 4 0 1 1 0 3 3 5 F 4 0 12 3 0 26 4 0 1 3 0 2 4 0 9 3 0 1 4 0 1 3 0 1 4 0 1 3 0 2 4 0 2",
    "3 1 1 3 0 7 1 2 6 1 2 2 1 1 4 1 0 2 3 A 3 4 2 1 4 10 1 3 0 1 1 0 3 4 0 5 3 0 4 4 0 1 3 0 9 4 0 1 3 0 1 4 0 1 3 0",
    "1 4 0 1 3 0 2 4 0 1 3 0 1B 1 2 1 3 0 B 4 0 3 3 0 F 4 0 2 3 0 4 4 0 1 3 0 1 4 0 2 3 0 3 4 0 2 3 0 6 4 26 B 1 19",
    "21 4 0 9 1 9 1 1 18 4 1 1 9 1 1 3 1 1 5 1 12 1 3 0 5 4 0 2 3 0 1 4 0 1 3 0 A 4 0 1 3 0 1 4 0 3 3 0 3 1 4 1 4 1 4",
    "4 1 1 3 0 1 4 0 1A 3 3 1 4 2 5 4 0 1 3 9 8 1 0 A 4 0 3 3 1 1 3 0 2 4 0 2 3 0 6 4 0 1 3 0 F 4 1 39 1 37 1 1 1 1 1",
    "4 8 1 4 1 1 3 7 1 A 2 1 1D 1 1 3A 1 1 4 4 1 8 1 1 14 2 1 1A 5 1 39 1 1 4 11 1 1E 2 1 3 1 1 B 2 1 39 1 1 4 8 1 4",
    "1 1 14 2 1 16 8 1 3A 1 1 2 1 1 1 4 1 8 A 1 B 2 1 1E 1 1 3D 1 1 C 1 1 32 1 1 3 1 1 37 1 1 1 3 1 5 11 1 B 2 1 1D 1",
    "1 3A 1 1 2 1 1 6 1 1 5 2 1 14 2 1 1C 2 1 39 2 1 4 4 1 8 1 1 14 2 1 1D 1 1 48 1 1 7 5 1 5A 1 1 2 7 1 C 8 1 62 1 1",
    "2 9 1 B 7 1 49 2 1 1B 1 1 1 1 1 1 1 1 37 E 1 1 5 1 1 2 1 5 30 1 9 1 1 66 4 1 1 6 1 1 2 1 2 2 1 19 2 1 4 3 1 10 4",
    "1 D 1 1 2 2 1 6 1 1 F 1 1 2BF 3 1 3B2 3 1 1D 2 1 1E 2 1 1E 2 1 43 7 1 8 1 1 2 B 1 9 1 1 29 1 4 18 59 4 C 2 1 0",
    "22 4 0 1 1 0 1 4 75 3 1 4 2 1 9 1 1 6 3 1 DB 2 1 2 1 1 3A 1 1 1 9 1 1 1 1 2 8 1 6 D 1 30 54 1 30 1 1 1 5 1 1 1 1",
    "5 1 1 28 9 1 C 2 1 20 4 1 2 2 1 1 3 1 38 1 1 1 2 1 3 1 1 1 3 1 3A 8 1 2 2 1 98 3 1 1 D 1 1 7 1 4 1 1 6 1 1 3 2 1",
    "C6 40 1 2D0 21 1 BFE 3 1 8D 1 1 60 20 1 22A 4 1 6B 2 1 75D4 4 1 1 A 1 20 2 1 50 2 1 110 1 1 3 1 1 4 1 1 19 2 1 5",
    "1 1 13 32 4 0 1 2 51 2 1 1A 12 1 D 1 1 26 8 1 19 B 1 2E 3 1 30 1 1 2 4 1 2 2 1 27 1 1 43 6 1 2 2 1 2 2 1 C 1 1 8",
    "1 1 2F 1 1 33 1 1 1 3 1 2 2 1 5 2 1 1 1 1 2A 2 1 8 1 1 EE 1 1 2 1 1 4 1 1 4F30 1 1 301 10 1 3CD 1 1 E2 1 1 95 5",
    "1 686 F 1 28 8 1 80 5 4 0 1 3 1 1 3 1 2 3 2 1 2 0 5 3 0 4 4 0 1 2 0 5 4 0 1 3 0 3 4 0 1 3 2 1 3 0 2 1 4 4 4 0 1",
    "3 90 1 4 0 1 3 0 1 4 0 3 3 0 3 4 0 1 3 0 2 4 0 1 3 0 1 4 0 2 3 0 1 4 0 1 3 17 4 3 0 2 4 151 1 2 0 21 4 0 1 3 0 1",
    "4 0 4 1 183 2 1 50 3 1 30 3 4 0 1 3 0 11 4 1 B 1 0 3 4 0 1 3 1B 4 4 0 2 3 0 C 4 0 4 1 2A 1 4 1 2 4 0 3 3 1 1 4 0",
    "2 3 0 2 4 0 1 3 0 2 4 1 1 4 0 2 3 0 1 4 4 1 3 0 1 4 0 1 2 35 1 1 36 F 1 29 1 1 2 2 1 A 3 1 31 4 1 2 2 1 7 1 1 3D",
    "3 1 24 5 1 1 8 1 3E 1 1 C 2 1 34 9 1 A 4 1 2 1 1 5F 3 1 2 1 1 1 2 1 6 1 1 2 1 1 9D 1 1 3 8 1 15 2 1 39 2 1 3 1 1",
    "25 F 1 C3 8 1 2 3 1 1 1 1 17 1 1 54 6 1 1 1 1 4 2 1 1 2 1 EE 4 1 6 2 1 1 2 1 1B 2 1 55 8 1 2 1 1 1 2 1 6A 1 1 1",
    "1 1 2 6 1 1 1 1 65 3 1 2 4 1 1 5 1 103 9 1 1 2 1 100 2 1 1 1 1 4 1 1 90 8 1 4 1 1 20 A 1 28 6 1 2 4 1 8 1 1 9 6",
    "1 2 3 1 2E D 1 1 2 1 196 E 1 1 1 1 52 16 1 2 7 1 1 2 1 1 2 1 7A 15 1 1 1 1 48 2 1 3 1 1 1 1 1 15B 2 1 B 2 1 34 5",
    "1 5 1 1 1 1 1 14FD 1 1 6 F 1 369A 5 1 3B 7 1 418 1 1 3F 4 1 51 1 1 4CB8 2 1 1261 47 1 220 3 1 11 8 1 2 7 1 1E 4",
    "1 94 3 1 7BB 37 1 4 32 1 8 1 1 E 1 1 16 15 1 550 90 1 A0 7 1 177 1 1 3D 4 1 1FC 4 1 3E0 7 1 4B 22 4 0 8 1"]

def joiningRuns : Array (Run Nat) := (Run.ofTriples 0 (Run.numbers joiningLines)).toArray

def joining (c : Char) : Joining :=
  match Run.valueOf joiningRuns c with
  | 1 => .transparent
  | 2 => .behind
  | 3 => .before
  | 4 => .both
  | _ => .none

/-- Keeps letters apart. -/
def nonJoiner : Char := '\u200C'

/-- Asks for letters to be joined. -/
def joiner : Char := '\u200D'

/-- The class of the signs that take the vowel of a letter away. -/
def vowelKillerClass : Nat := 9

/-- Whether the first character that is not transparent joins in one of these ways. -/
def reaches (ways : List Joining) : Text → Bool
  | [] => false
  | c :: rest => if joining c = .transparent then reaches ways rest else ways.contains (joining c)

/-- Whether a joiner makes a difference between the text before it, held from its end, and the text behind. -/
def joinerCounts (c : Char) (before behind : Text) : Bool :=
  before.head?.any (fun d => markClass d == vowelKillerClass) ||
    (c == nonJoiner && reaches [.behind, .both] before && reaches [.before, .both] behind)

/-- Whether every joiner of a label makes a difference, where `before` is held from its end. -/
def joinersCount (before : Text) : Text → Bool
  | [] => true
  | c :: rest =>
    (!(c == nonJoiner || c == joiner) || joinerCounts c before rest) && joinersCount (c :: before) rest

end ApiLinks.Domain
