import ApiLinks.Proofs.Template.Reading
import ApiLinks.Proofs.Text.Slices

/-!
# A scan by byte offsets

The parts of a template can be found without a look at every character: a loop goes from one opening brace
to the next and cuts the text at the byte offsets of the braces. Such a cut has no result when it is out of
range or takes a character apart. It never is, and never does, since every offset comes from a character
that was found there, or stands one byte behind a character of one byte. The pass over the characters is
what the loop is held against, turn by turn.

* `slice`, `findFrom`, `expression`, `truncate` : the readers that cut texts, each of which may fail;
* `Cursor`, `turn`, `loop`, `scan` : the loop, with the opening braces at which its
  turns start, and what it has found;
* `Follows t c front rest` : the cursor stands where the pass over the characters is after `front`;
* `Follows.exists_turn` : a turn does not fail, and the cursor follows the pass over the next brace;
* `Follows.exists_loop` : the loop takes one turn for each opening brace, from left to right;
* `scan_eq_ok` : no reader fails, and each finds what the pass over the characters does.
-/

namespace ApiLinks

theorem Operator.utf8Size_of_ofChar? {c : Char} {op : Operator} (h : ofChar? c = some op) : c.utf8Size = 1 := by
  have hcode := ofChar?_eq_some_iff.mp h
  cases op with
  | simple => cases hcode
  | _ =>
    obtain rfl := (List.cons.inj hcode).1
    rfl

namespace ByteScan

open Utf8 (size indices offsets)

/-- How a reader that cuts texts can fail. -/
inductive Failure where
  /-- The text cannot be cut at these offsets. -/
  | badSlice (text : Text) (start stop : Nat)
  /-- The loop is not over. -/
  | tooManyTurns
  deriving DecidableEq, Repr

def slice (t : Text) (start stop : Nat) : Except Failure Text :=
  match Utf8.slice? t start stop with
  | some u => .ok u
  | none => .error (.badSlice t start stop)

/-- The offset of the first character of a kind, from the offset `start` on. -/
def findFrom (t : Text) (start : Nat) (p : Char → Bool) : Except Failure (Option Nat) := do
  let rest ← slice t start (size t)
  return ((indices 0 rest).find? fun x => p x.2).map fun x => start + x.1

/-- The operator of a body and the text behind its code, which is taken for one byte. -/
def splitOperator (body : Text) : Except Failure (Operator × Text) :=
  match body.head?.bind Operator.ofChar? with
  | some op => (slice body 1 (size body)).map fun rest => (op, rest)
  | none => .ok (.simple, body)

def expression (body : Text) : Except Failure Expression := do
  let (op, rest) ← splitOperator body
  return ⟨op, (rest.splitOn ',').filterMap fun entry => (Varspec.ofEntry entry).varspec⟩

/-- The text in front of the character with this number. -/
def truncate (length : Nat) (t : Text) : Except Failure Text :=
  match (indices 0 t)[length]? with
  | some (stop, _) => slice t 0 stop
  | none => .ok t

/-- How far the loop has come. -/
structure Cursor where
  /-- The next opening brace is looked for from here on. -/
  pos : Nat
  /-- The end of the last span. -/
  literalStart : Nat
  /-- What was found up to there. -/
  pieces : List Piece
  deriving DecidableEq, Repr

/-- The literal piece between two offsets, if they differ. -/
def literal (t : Text) (start stop : Nat) : Except Failure (List Piece) :=
  if start < stop then (slice t start stop).map fun u => [⟨u, none⟩] else .ok []

/-- The turn at the opening brace at this offset. No cursor comes of it where no other brace follows. -/
def turn (t : Text) (c : Cursor) (opening : Nat) : Except Failure (Option Cursor) := do
  match ← findFrom t (opening + 1) isBrace with
  | none => return none
  | some stop =>
    let rest ← slice t stop (size t)
    if rest.head? = some '{' then return some { c with pos := stop }
    else if stop = opening + 1 then return some { c with pos := stop + 1 }
    else
      let before ← literal t c.literalStart opening
      let raw ← slice t opening (stop + 1)
      let body ← slice t (opening + 1) stop
      let e ← expression body
      return some ⟨stop + 1, stop + 1, c.pieces ++ before ++ [⟨raw, some e⟩]⟩

/-- At most `limit` turns, with the offsets at which they start and the cursor behind the last one. -/
def loop (t : Text) (limit : Nat) (c : Cursor) : Except Failure (List Nat × Cursor) := do
  match ← findFrom t c.pos (· == '{') with
  | none => return ([], c)
  | some opening =>
    match limit with
    | 0 => throw .tooManyTurns
    | limit + 1 =>
      match ← turn t c opening with
      | none => return ([opening], c)
      | some next =>
        let (openings, last) ← loop t limit next
        return (opening :: openings, last)

/-- The offsets at which the turns start, and the pieces of the text. -/
def scan (t : Text) (limit : Nat) : Except Failure (List Nat × List Piece) := do
  let (openings, last) ← loop t limit ⟨0, 0, []⟩
  let rest ← literal t last.literalStart (size t)
  return (openings, last.pieces ++ rest)

/-! ## The readers -/

section Readers

variable {t l m r gap : Text} {start stop : Nat}

theorem slice_eq (ht : t = l ++ m ++ r) (hstart : start = size l) (hstop : stop = size l + size m) :
    slice t start stop = .ok m := by
  rw [slice, Utf8.slice?_eq_some_iff.mpr ⟨l, r, ht, hstart, hstop⟩]

theorem exists_slice_iff (t : Text) (start stop : Nat) :
    (∃ m, slice t start stop = .ok m) ↔ Utf8.InBounds t start stop := by
  rw [← Utf8.isSome_slice?_iff, Option.isSome_iff_exists, slice]
  cases Utf8.slice? t start stop <;> simp

/-- From a boundary on, nothing can go wrong. -/
theorem slice_rest (ht : t = l ++ r) (hstart : start = size l) : slice t start (size t) = .ok r := by
  apply slice_eq (l := l) (r := [])
  · rw [ht, List.append_nil]
  · exact hstart
  · rw [ht, Utf8.size_append]

theorem findFrom_eq_none {p : Char → Bool} (ht : t = l ++ r) (hr : ∀ c ∈ r, p c = false)
    (hstart : start = size l) :
    findFrom t start p = .ok none := by
  rw [findFrom, slice_rest ht hstart]
  show Except.ok (((indices 0 r).find? fun x => p x.2).map _) = _
  rw [Utf8.find?_indices_eq_none hr, Option.map_none]

theorem findFrom_eq_some {p : Char → Bool} {c : Char} (ht : t = l ++ (gap ++ c :: r))
    (hgap : ∀ d ∈ gap, p d = false) (hc : p c = true) (hstart : start = size l) :
    findFrom t start p = .ok (some (size (l ++ gap))) := by
  rw [findFrom, slice_rest ht hstart]
  show Except.ok (((indices 0 (gap ++ c :: r)).find? fun x => p x.2).map _) = _
  rw [Utf8.find?_indices_append hgap hc, Option.map_some, Nat.zero_add, hstart, Utf8.size_append]

theorem splitOperator_eq (body : Text) : splitOperator body = .ok (Expression.splitOperator body) := by
  unfold splitOperator Expression.splitOperator
  cases body with
  | nil => rfl
  | cons c rest =>
    rw [List.head?_cons, Option.bind_some]
    cases hop : Operator.ofChar? c with
    | none => simp only [hop]
    | some op =>
      have hone : 1 = size [c] := by rw [Utf8.size_singleton, Operator.utf8Size_of_ofChar? hop]
      have hrest : slice (c :: rest) 1 (size (c :: rest)) = .ok rest := slice_rest rfl hone
      simp only [hop, hrest, Except.map]

theorem expression_eq (body : Text) : expression body = .ok (Expression.ofBody body) := by
  rw [expression, splitOperator_eq, Expression.ofBody, Expression.readings, List.filterMap_map]
  rfl

theorem truncate_eq (length : Nat) (t : Text) : truncate length t = .ok (t.take length) := by
  unfold truncate
  rw [Utf8.getElem?_indices]
  cases hc : t[length]? with
  | none =>
    rw [List.take_of_length_le (List.getElem?_eq_none_iff.mp hc)]
    rfl
  | some c =>
    apply slice_eq (l := []) (r := t.drop length)
    · rw [List.nil_append, List.take_append_drop]
    · rfl
    · rfl

theorem literal_eq (ht : t = l ++ m ++ r) (hstart : start = size l) (hstop : stop = size l + size m) :
    literal t start stop = .ok ((Part.literal? m).map Part.piece) := by
  unfold literal
  by_cases hm : m = []
  · subst hm
    have hnil : size [] = 0 := rfl
    rw [if_neg (by omega)]
    rfl
  · have hpos := Utf8.size_pos hm
    rw [if_pos (by omega), slice_eq ht hstart hstop, Part.literal?, List.isEmpty_eq_false_iff.mpr hm]
    rfl

end Readers

/-! ## One turn -/

theorem ok_bind {α β : Type} (a : α) (f : α → Except Failure β) : (Except.ok a >>= f) = f a := rfl

theorem size_concat_brace (before : Text) {d : Char} (hd : isBrace d = true) :
    size (before ++ [d]) = size before + 1 := by
  rw [Utf8.size_append, Utf8.size_singleton]
  rcases isBrace_iff.mp hd with rfl | rfl
  · rfl
  · rfl

section Turn

variable {t before body more : Text} (c : Cursor)

/-- No span can begin at a brace behind which no other one stands. -/
theorem turn_unclosed {rest : Text} (ht : t = before ++ '{' :: rest) (hrest : ∀ x ∈ rest, isBrace x = false) :
    turn t c (size before) = .ok none := by
  have hsplit : t = before ++ ['{'] ++ rest := ht.trans (List.append_cons _ _ _)
  rw [turn, findFrom_eq_none hsplit hrest (size_concat_brace before rfl).symm]
  rfl

theorem findFrom_brace {d : Char} (ht : t = before ++ '{' :: (body ++ d :: more))
    (hbody : ∀ x ∈ body, isBrace x = false) (hd : isBrace d = true) :
    findFrom t (size before + 1) isBrace = .ok (some (size (before ++ '{' :: body))) := by
  have hsplit : t = before ++ ['{'] ++ (body ++ d :: more) := ht.trans (List.append_cons _ _ _)
  rw [findFrom_eq_some hsplit hbody hd (size_concat_brace before rfl).symm, ← List.append_cons]

theorem slice_brace {d : Char} (ht : t = before ++ '{' :: (body ++ d :: more)) :
    slice t (size (before ++ '{' :: body)) (size t) = .ok (d :: more) := by
  apply slice_rest _ rfl
  rw [ht, List.append_assoc, List.cons_append]

/-- In front of another opening brace the loop goes on at that one. -/
theorem turn_nested (ht : t = before ++ '{' :: (body ++ '{' :: more)) (hbody : ∀ x ∈ body, isBrace x = false) :
    turn t c (size before) = .ok (some { c with pos := size (before ++ '{' :: body) }) := by
  simp only [turn, findFrom_brace ht hbody rfl, slice_brace ht, ok_bind, List.head?_cons, if_true]
  rfl

theorem head?_close_ne (more : Text) : ('}' :: more).head? ≠ some '{' :=
  fun h => absurd (Option.some.inj h) (by decide)

/-- Behind a pair of braces with nothing in it the loop goes on. -/
theorem turn_empty (ht : t = before ++ '{' :: ([] ++ '}' :: more)) :
    turn t c (size before) = .ok (some { c with pos := size (before ++ ['{', '}']) }) := by
  have hstop : size (before ++ ['{']) = size before + 1 := size_concat_brace before rfl
  have hend : size (before ++ ['{', '}']) = size (before ++ ['{']) + 1 := by
    rw [← size_concat_brace (before ++ ['{']) (show isBrace '}' = true from rfl), ← List.append_cons]
  simp only [turn, findFrom_brace ht (fun _ hx => nomatch hx) rfl, slice_brace ht, ok_bind,
    if_neg (head?_close_ne more), if_pos hstop, hend]
  rfl

/-- A body between two braces is a span, and what is left in front of it a literal piece. -/
theorem turn_span {l lit : Text} (ht : t = l ++ lit ++ '{' :: (body ++ '}' :: more)) (hb : IsBody body)
    (hstart : c.literalStart = size l) : turn t c (size (l ++ lit)) =
      .ok (some ⟨size (l ++ lit ++ braced body), size (l ++ lit ++ braced body),
        c.pieces ++ (Part.literal? lit).map Part.piece ++ [⟨braced body, some (Expression.ofBody body)⟩]⟩) := by
  have hbody := hb.isBrace_eq_false
  have hopen : size (l ++ lit ++ ['{']) = size (l ++ lit) + 1 := size_concat_brace (l ++ lit) rfl
  have hstop : size (l ++ lit ++ '{' :: body) = size (l ++ lit) + 1 + size body := by
    rw [← hopen, ← Utf8.size_append, ← List.append_cons]
  have hend : size (l ++ lit ++ braced body) = size (l ++ lit ++ '{' :: body) + 1 := by
    rw [← size_concat_brace _ (show isBrace '}' = true from rfl), braced, List.append_assoc (l ++ lit)]
  have hne : size (l ++ lit ++ '{' :: body) ≠ size (l ++ lit) + 1 := by
    have hpos := Utf8.size_pos hb.ne_nil
    omega
  have hliteral : literal t c.literalStart (size (l ++ lit)) = .ok ((Part.literal? lit).map Part.piece) :=
    literal_eq ht hstart (Utf8.size_append l lit)
  have hraw : slice t (size (l ++ lit)) (size (l ++ lit ++ '{' :: body) + 1) = .ok (braced body) := by
    refine slice_eq (l := l ++ lit) (r := more) ?_ rfl ?_
    · simp [ht, braced]
    · rw [← hend, Utf8.size_append]
  have hinner : slice t (size (l ++ lit) + 1) (size (l ++ lit ++ '{' :: body)) = .ok body := by
    refine slice_eq (l := l ++ lit ++ ['{']) (r := '}' :: more) ?_ hopen.symm ?_
    · simp [ht]
    · rw [hstop, hopen]
  simp only [turn, findFrom_brace ht hbody rfl, slice_brace ht, ok_bind, if_neg (head?_close_ne more),
    if_neg hne, hliteral, hraw, hinner, expression_eq, hend]
  rfl

end Turn

/-! ## The loop beside the pass over the characters -/

/-- The cursor stands behind `front`, and the pass over the characters has finished the same pieces there.
It may be waiting for the end of a span only in front of an opening brace, where it gives that span up. -/
structure Follows (t : Text) (c : Cursor) (front rest : Text) : Prop where
  text_eq : t = front ++ rest
  pos_eq : c.pos = size front
  pieces_eq : c.pieces = (Scan.start.run front).done
  literalStart_eq : c.literalStart = size (c.pieces.flatMap Piece.text)
  ready : (Scan.start.run front).body? = none ∨ rest.head? = some '{'

/-- What comes of the turn at the opening brace between `before` and `tail`. -/
inductive Turned (t : Text) (c : Cursor) (before tail : Text) : Option Cursor → Prop
  | unclosed : '{' ∉ tail → c.pieces = (Scan.start.run t).done → Turned t c before tail none
  | next {next : Cursor} (consumed rest : Text) : tail = consumed ++ rest → '{' ∉ consumed →
      Follows t next (before ++ '{' :: consumed) rest → Turned t c before tail (some next)

namespace Follows

variable {t : Text} {c : Cursor} {front gap tail body more : Text}

theorem start (t : Text) : Follows t ⟨0, 0, []⟩ [] t := ⟨rfl, rfl, rfl, rfl, Or.inl rfl⟩

/-- Up to the next opening brace the pass finishes nothing. -/
theorem run_gap (h : Follows t c front (gap ++ '{' :: tail)) (hgap : '{' ∉ gap) :
    Scan.start.run (front ++ gap ++ ['{']) =
      ⟨(Scan.start.run front).parts, ((Scan.start.run front).pending ++ gap).reverse, some []⟩ := by
  rw [Scan.run_concat, Scan.run_append]
  rcases h.ready with hnone | hhead
  · rw [Scan.run_literal hnone hgap, Scan.step_open, Scan.pending_of_none rfl, Scan.pending_of_none hnone]
    simp
  · obtain rfl : gap = [] := by
      cases gap with
      | nil => rfl
      | cons d gap =>
        obtain rfl := Option.some.inj hhead
        exact absurd List.mem_cons_self hgap
    show (Scan.start.run front).step '{' = _
    rw [Scan.step_open, List.append_nil]

theorem run_opened (h : Follows t c front (gap ++ '{' :: tail)) (hgap : '{' ∉ gap)
    (hbody : ∀ x ∈ body, isBrace x = false) :
    Scan.start.run (front ++ gap ++ '{' :: body) =
      ⟨(Scan.start.run front).parts, ((Scan.start.run front).pending ++ gap).reverse, some body.reverse⟩ := by
  rw [List.append_cons, Scan.run_append, h.run_gap hgap, Scan.run_body rfl hbody,
    List.append_nil]

theorem next_nested (h : Follows t c front (gap ++ '{' :: (body ++ '{' :: more))) (hgap : '{' ∉ gap)
    (hbody : ∀ x ∈ body, isBrace x = false) :
    Follows t { c with pos := size (front ++ gap ++ '{' :: body) } (front ++ gap ++ '{' :: body)
      ('{' :: more) where
  text_eq := by simp [h.text_eq]
  pos_eq := rfl
  pieces_eq := by
    rw [h.run_opened hgap hbody]
    exact h.pieces_eq
  literalStart_eq := h.literalStart_eq
  ready := Or.inr rfl

theorem next_empty (h : Follows t c front (gap ++ '{' :: '}' :: more)) (hgap : '{' ∉ gap) :
    Follows t { c with pos := size (front ++ gap ++ ['{', '}']) } (front ++ gap ++ ['{', '}']) more := by
  have hrun : Scan.start.run (front ++ gap ++ ['{'] ++ ['}']) = _ := Scan.run_concat _ _ _
  rw [h.run_gap hgap, Scan.step_empty rfl, ← List.append_cons] at hrun
  refine ⟨by simp [h.text_eq], rfl, ?_, h.literalStart_eq, Or.inl ?_⟩
  · rw [hrun]
    exact h.pieces_eq
  · rw [hrun]

theorem next_span (h : Follows t c front (gap ++ '{' :: (body ++ '}' :: more))) (hgap : '{' ∉ gap)
    (hb : IsBody body) :
    Follows t ⟨size (front ++ gap ++ braced body), size (front ++ gap ++ braced body),
      c.pieces ++ (Part.literal? ((Scan.start.run front).pending ++ gap)).map Part.piece ++
        [⟨braced body, some (Expression.ofBody body)⟩]⟩ (front ++ gap ++ braced body) more := by
  have hopened := h.run_opened hgap hb.isBrace_eq_false
  have hrun : Scan.start.run (front ++ gap ++ braced body) =
      (Scan.start.run (front ++ gap ++ '{' :: body)).step '}' := by
    rw [braced, ← List.append_assoc, Scan.run_concat]
  have hne : body.reverse ≠ [] := fun hnil => hb.ne_nil (List.reverse_eq_nil_iff.mp hnil)
  have hdone : (Scan.start.run (front ++ gap ++ braced body)).done = c.pieces ++
      (Part.literal? ((Scan.start.run front).pending ++ gap)).map Part.piece ++
        [⟨braced body, some (Expression.ofBody body)⟩] := by
    rw [hrun, hopened, Scan.done_close rfl hne, List.reverse_reverse, List.reverse_reverse,
      Part.piece_span, h.pieces_eq]
    rfl
  rw [hopened, Scan.step_close rfl hne] at hrun
  -- nothing is pending behind the span, so that the finished pieces are all of the text
  have htext := Scan.flatMap_text_done_append (front ++ gap ++ braced body)
  rw [Scan.pending_of_none (by rw [hrun]), hrun, List.reverse_nil, List.append_nil, ← hrun, hdone] at htext
  refine ⟨?_, rfl, hdone.symm, ?_, Or.inl ?_⟩
  · simp [h.text_eq, braced]
  · rw [htext]
  · rw [hrun]

/-- **A turn does not fail**, and goes on where the pass over the characters does. -/
theorem exists_turn (h : Follows t c front (gap ++ '{' :: tail)) (hgap : '{' ∉ gap) :
    ∃ outcome, turn t c (size (front ++ gap)) = .ok outcome ∧ Turned t c (front ++ gap) tail outcome := by
  have ht : t = front ++ gap ++ '{' :: tail := by rw [h.text_eq, List.append_assoc]
  cases hfind : tail.find? isBrace with
  | none =>
    have hnone : ∀ x ∈ tail, isBrace x = false :=
      fun x hx => Bool.eq_false_iff.mpr (List.find?_eq_none.mp hfind x hx)
    refine ⟨none, turn_unclosed c ht hnone, .unclosed (fun hin => ?_) ?_⟩
    · exact (forall_isBrace_eq_false_iff.mp hnone).1 hin
    · rw [ht, h.run_opened hgap hnone]
      exact h.pieces_eq
  | some d =>
    obtain ⟨hd, body, more, rfl, hfree⟩ := List.find?_eq_some_iff_append.mp hfind
    have hbody : ∀ x ∈ body, isBrace x = false := fun x hx => by simpa using hfree x hx
    obtain ⟨hopen, hclose⟩ := forall_isBrace_eq_false_iff.mp hbody
    rcases isBrace_iff.mp hd with rfl | rfl
    · exact ⟨_, turn_nested c ht hbody, .next body ('{' :: more) rfl hopen (h.next_nested hgap hbody)⟩
    · by_cases hne : body = []
      · subst hne
        exact ⟨_, turn_empty c ht, .next ['}'] more rfl (by decide) (h.next_empty hgap)⟩
      · have hb : IsBody body := ⟨hne, hopen, hclose⟩
        have hfront :
            front ++ gap = c.pieces.flatMap Piece.text ++ ((Scan.start.run front).pending ++ gap) := by
          rw [← List.append_assoc, h.pieces_eq, Scan.flatMap_text_done_append]
        have hturn := turn_span c (hfront ▸ ht) hb h.literalStart_eq
        rw [← hfront] at hturn
        refine ⟨_, hturn, .next (body ++ ['}']) more (by simp) ?_ ?_⟩
        · simp [hopen]
        · exact h.next_span hgap hb

variable {rest : Text}

theorem loop_done (h : Follows t c front rest) (hrest : '{' ∉ rest) (limit : Nat) :
    loop t limit c = .ok ([], c) ∧ c.pieces = (Scan.start.run t).done := by
  have hnone : ∀ x ∈ rest, (x == '{') = false := fun x hx => beq_false_of_ne fun heq => hrest (heq ▸ hx)
  constructor
  · rw [loop.eq_def, findFrom_eq_none h.text_eq hnone h.pos_eq]
    rfl
  · rcases h.ready with hbody? | hhead
    · rw [h.text_eq, Scan.run_append, Scan.run_literal hbody? hrest]
      exact h.pieces_eq
    · exact absurd (List.mem_of_head? hhead) hrest

/-- **The loop takes one turn for each opening brace**, from left to right, and ends with what the pass over
the characters has finished. It is not the limit that ends it. -/
theorem exists_loop {turns : Nat} (h : Follows t c front rest) (hturns : rest.count '{' = turns) (extra : Nat) :
    ∃ last, loop t (turns + extra) c = .ok (offsets '{' (size front) rest, last) ∧
      last.pieces = (Scan.start.run t).done ∧ last.literalStart = size (last.pieces.flatMap Piece.text) := by
  induction turns generalizing c front rest with
  | zero =>
    have hrest : '{' ∉ rest := List.count_eq_zero.mp hturns
    obtain ⟨hloop, hpieces⟩ := h.loop_done hrest (0 + extra)
    exact ⟨c, by rw [hloop, Utf8.offsets_eq_nil hrest], hpieces, h.literalStart_eq⟩
  | succ turns ih =>
    obtain ⟨gap, tail, rfl, hgap⟩ :=
      List.eq_append_cons_of_mem (List.count_pos_iff.mp (show 0 < rest.count '{' by omega))
    have hcount : tail.count '{' = turns := by
      rw [List.count_append, List.count_eq_zero.mpr hgap, List.count_cons_self] at hturns
      omega
    have hfind : findFrom t c.pos (· == '{') = .ok (some (size (front ++ gap))) :=
      findFrom_eq_some h.text_eq (fun x hx => beq_false_of_ne fun heq => hgap (heq ▸ hx)) rfl h.pos_eq
    have hoffsets : offsets '{' (size front) (gap ++ '{' :: tail) =
        size (front ++ gap) :: offsets '{' (size (front ++ gap ++ ['{'])) tail := by
      rw [Utf8.offsets_append_of_not_mem hgap, Utf8.offsets_cons_self, ← Utf8.size_append,
        Utf8.size_append _ ['{'], Utf8.size_singleton]
    obtain ⟨outcome, hturn, hturned⟩ := h.exists_turn hgap
    rw [Nat.succ_add, loop, hfind, hoffsets]
    simp only [ok_bind, hturn]
    rcases hturned with ⟨htail, hpieces⟩ | ⟨consumed, rest, rfl, hconsumed, hnext⟩
    · rw [Utf8.offsets_eq_nil htail]
      exact ⟨c, rfl, hpieces, h.literalStart_eq⟩
    · -- what the turn has taken up holds no further opening brace
      rw [List.count_append, List.count_eq_zero.mpr hconsumed, Nat.zero_add] at hcount
      obtain ⟨last, hloop, hpieces, hstart⟩ := ih hnext hcount
      rw [Utf8.offsets_append_of_not_mem hconsumed, ← Utf8.size_append, ← List.append_cons]
      refine ⟨last, ?_, hpieces, hstart⟩
      simp only [hloop, ok_bind]
      rfl

end Follows

theorem scan_eq (t : Template) (extra : Nat) :
    scan t.text (t.text.count '{' + extra) = .ok (offsets '{' 0 t.text, t.pieces) := by
  obtain ⟨last, hloop, hpieces, hstart⟩ := (Follows.start t.text).exists_loop rfl extra
  have hread := Scan.flatMap_text_done_append t.text
  rw [← hpieces] at hread
  have hrest : literal t.text last.literalStart (size t.text) =
      .ok ((Part.literal? (Scan.start.run t.text).pending).map Part.piece) := by
    apply literal_eq (l := last.pieces.flatMap Piece.text) (r := [])
    · rw [hread, List.append_nil]
    · exact hstart
    · rw [← Utf8.size_append, hread]
  have hend : t.pieces = last.pieces ++ (Part.literal? (Scan.start.run t.text).pending).map Part.piece := by
    rw [Template.pieces, Template.parts, Scan.finish_eq, List.map_append, hpieces, Scan.done]
  rw [scan, hloop]
  simp only [ok_bind, hrest, hend]
  rfl

end ByteScan

/-- **No text is ever cut inside of a character or out of range.** A cut has a result exactly where
it is in bounds. The loop that finds the pieces of a template asks for no other one, starts its
turns at the opening braces from left to right, ends after as many turns as there are, and finds
what the pass over the characters does. Nor does the reader of a body or that of the first
characters of a value ask for another cut. -/
theorem scan_eq_ok (t : Template) (body value : Text) (length : Nat) :
    (∀ u start stop, (∃ m, ByteScan.slice u start stop = .ok m) ↔ Utf8.InBounds u start stop) ∧
      (∃ openings, (∀ extra, ByteScan.scan t.text (t.text.count '{' + extra) = .ok (openings, t.pieces)) ∧
        openings.length = t.text.count '{' ∧ openings.Pairwise (· < ·) ∧
        ∀ opening ∈ openings, ByteScan.slice t.text opening (opening + 1) = .ok ['{']) ∧
      ByteScan.expression body = .ok (Expression.ofBody body) ∧
      ByteScan.truncate length value = .ok (Varspec.truncate (.maxLength length) value) := by
  refine ⟨ByteScan.exists_slice_iff,
    ⟨Utf8.offsets '{' 0 t.text, ByteScan.scan_eq t, Utf8.length_offsets '{' 0 t.text,
      Utf8.offsets_pairwise '{' 0 t.text, ?_⟩,
    ByteScan.expression_eq body, ByteScan.truncate_eq length value⟩
  intro opening h
  have hbrace : Utf8.slice? t.text opening (opening + 1) = some ['{'] := Utf8.slice?_of_mem_offsets h
  rw [ByteScan.slice, hbrace]

/-- A brace that is given up, an empty pair, a span and a brace that is never closed, behind and
around characters of two bytes. -/
example : ByteScan.scan ['é', '{', '{', '}', '{', 'ü', '}', '{'] 4 =
    .ok ([2, 3, 5, 9],
      [⟨['é', '{', '{', '}'], none⟩, ⟨['{', 'ü', '}'], some ⟨.simple, [⟨['ü'], .plain⟩]⟩⟩, ⟨['{'], none⟩]) := by
  cbv

end ApiLinks
