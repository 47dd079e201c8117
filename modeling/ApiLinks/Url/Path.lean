import ApiLinks.Url.Basic
import ApiLinks.Url.Encoding

/-!
# Paths

The segments of a path, from the segments that it starts with and a text whose segments are put behind them:
a dot stays where it is, two dots go back by one segment, and neither leaves a segment of its own.

`resolve_plain` : segments that are no dots are put behind one another as they are.
-/

namespace ApiLinks.Url

/-- A segment that stays where it is. -/
def isDot (s : Text) : Bool := s == ['.'] || s == "%2e".toList || s == "%2E".toList

/-- A segment that goes back; either dot may be encoded. -/
def isDoubleDot (s : Text) : Bool :=
  ["..", "%2e%2e", "%2e%2E", "%2E%2e", "%2E%2E", "%2e.", "%2E.", ".%2e", ".%2E"].any fun w => s == w.toList

/-- A letter with a colon or a bar behind it, as it names a drive. -/
def isDrive : Text → Bool
  | [c, d] => c.isAlpha && (d == ':' || d == '|')
  | _ => false

/-- The segments without the last one, the last of them first; a drive is never left. -/
def back : List Text → List Text
  | [] => []
  | s :: rest => if isDrive s then s :: rest else rest

/-- The name of a drive is written with a colon. -/
def withDrive (s : Text) : Text :=
  match s with
  | [c, d] => if isDrive s then [c, ':'] else [c, d]
  | _ => s

/-- Puts a segment behind others, of which the last one comes first. The first
segment of a file can name a drive. -/
def follow (files : Bool) (done : List Text) (s : Text) : List Text :=
  (if files && done.isEmpty then withDrive s else s) :: done

/-- Puts segments behind others, of which the last one comes first. -/
def resolve (files : Bool) : List Text → List Text → List Text
  | done, [] => done.reverse
  | done, [last] =>
    if isDoubleDot last then ([] :: back done).reverse
    else if isDot last then ([] :: done).reverse
    else (follow files done last).reverse
  | done, s :: rest =>
    if isDoubleDot s then resolve files (back done) rest
    else if isDot s then resolve files done rest
    else resolve files (follow files done s) rest

/-- What separates the segments of a path: where the scheme is special, a backslash too. -/
def isSeparator (special : Bool) (c : Char) : Bool := c == '/' || (special && c == '\\')

/-- The segments of a text, encoded. -/
def segmentsOf (special : Bool) (t : Text) : List Text :=
  (t.splitOnP (isSeparator special)).map (Percent.encodeExcept mayStandInPath)

/-- A path of a file does not begin with empty segments, unless it has no other. -/
def trimmed (segments : List Text) : List Text :=
  match segments.dropWhile (·.isEmpty) with
  | [] => [[]]
  | ss => ss

/-- The path of segments `start` and the segments of a text behind them. -/
def pathFrom (scheme : Text) (start : List Text) (t : Text) : List Text :=
  let segments := segmentsOf (isSpecial scheme) t
  if scheme = fileScheme then trimmed (resolve true start.reverse segments)
  else resolve false start.reverse segments

/-- The segments that a relative path starts from: all but the last, which is kept if it is a drive. -/
def directory (scheme : Text) (segments : List Text) : List Text :=
  match segments.getLast? with
  | some last =>
    if scheme = fileScheme ∧ isDrive last ∧ last.getLast? = some ':' then segments else segments.dropLast
  | none => []

theorem resolve_plain {done segments : List Text}
    (h : ∀ s ∈ segments, isDot s = false ∧ isDoubleDot s = false) :
    resolve false done segments = done.reverse ++ segments := by
  induction segments generalizing done with
  | nil => simp [resolve]
  | cons s rest ih =>
    have hs := h s (by simp)
    have hr : ∀ s ∈ rest, isDot s = false ∧ isDoubleDot s = false := fun x hx => h x (List.mem_cons_of_mem _ hx)
    cases rest with
    | nil => simp [resolve, follow, hs]
    | cons s2 rest =>
      rw [resolve]
      · simp [follow, hs, ih hr]
      · simp

end ApiLinks.Url
