import ApiLinks.Proofs.Expansion.Contributions
import ApiLinks.Proofs.Template.Layout
import ApiLinks.Proofs.Template.Seam
import ApiLinks.Proofs.Text.Decoding

/-!
# Lengths of any size

A span of one variable with a length behind it shows the first so many characters of a text. Lengths are
kept below a bound, and a number beyond it is dropped with a notice: the whole text is shown, which has no
more characters than that anyway.

* `IsBareName op name`, `IsLengthText length` : what can stand in front of the colon and behind it;
* `Varspec.ofEntry_length` : the entry reads as the name with the modifier that the length text gives;
* `Varspec.truncate_lengthModifier` : the modifier shows as many characters as the number
  says, below the bound and beyond;
* `expand_name_span`, `expand_length_span` : the expansions of the span without a length and of that with one;
* `expand_length_exact` : the one against the other, for numbers of any size and for what is no number.
-/

namespace ApiLinks

open Number (Denotes)
open Text (Blanks IsTrimmed)

/-- A name that is read as it stands, alone in a span or with a colon behind it. Behind the simple operator,
which has no code, it does not begin with that of another. -/
structure IsBareName (op : Operator) (name : Text) : Prop where
  ne_nil : name ≠ []
  trimmed : IsTrimmed name
  no_sign : ∀ c ∈ [',', ':', '{', '}'], c ∉ name
  no_star : name.getLast? ≠ some '*'
  no_code : op = .simple → ∀ c, name.head? = some c → c ∉ ['+', '#', '.', '/', ';', '?', '&']

/-- A text that stays behind the colon of its entry, whether or not it is a number. -/
structure IsLengthText (length : Text) : Prop where
  no_sign : ∀ c ∈ [',', '{', '}'], c ∉ length
  no_star : length.trim.getLast? ≠ some '*'

variable {op : Operator} {name length s : Text} {n : Nat} {b : Bindings}

theorem IsBareName.writable (h : IsBareName op name) : (⟨name, .plain⟩ : Varspec).Writable where
  ne_nil := h.ne_nil
  trimmed := h.trimmed
  no_comma := h.no_sign ',' (by decide)
  plain _ := ⟨h.no_sign ':' (by decide), h.no_star⟩
  maxLength _ hn := by cases hn

/-! ## The modifier -/

namespace Varspec

/-- The modifier that a text behind the colon gives. -/
def lengthModifier (length : Text) : Modifier :=
  match length? length.trim with
  | some n => .maxLength n
  | none => .plain

theorem lengthModifier_of_denotes (h : Denotes length.trim n) :
    lengthModifier length = if 0 < n ∧ n < lengthBound then .maxLength n else .plain := by
  unfold lengthModifier length?
  rw [Number.unsigned?_eq_some_iff.mpr h]
  by_cases hn : 0 < n ∧ n < lengthBound
  · simp only [if_pos hn]
  · simp only [if_neg hn]

theorem lengthModifier_of_not_denotes (h : ∀ n, 0 < n → ¬ Denotes length.trim n) :
    lengthModifier length = .plain := by
  unfold lengthModifier
  cases hl : length? length.trim with
  | none => rfl
  | some n =>
    obtain ⟨hread, hpos, -⟩ := length?_eq_some_iff.mp hl
    exact absurd (Number.unsigned?_eq_some_iff.mp hread) (h n hpos)

/-- A number beyond the bound is more than the text has characters. -/
theorem truncate_lengthModifier (hs : s.length < lengthBound) (hn : 0 < n) (h : Denotes length.trim n) :
    truncate (lengthModifier length) s = s.take (min n s.length) := by
  have hmin : s.take (min n s.length) = s.take n := by rw [List.take_eq_take_iff, Nat.min_assoc, Nat.min_self]
  rw [lengthModifier_of_denotes h, hmin]
  by_cases hbound : n < lengthBound
  · rw [if_pos ⟨hn, hbound⟩]
    rfl
  · rw [if_neg fun hboth => hbound hboth.2, List.take_of_length_le (by omega)]
    rfl

/-- Behind the colon only the blanks at the end of the entry are lost. -/
theorem trim_length_entry (hname : IsBareName op name) (hlength : IsLengthText length) :
    ∃ kept : Text, (name ++ ':' :: length).trim = name ++ ':' :: kept ∧ kept.trim = length.trim ∧
      kept.getLast? ≠ some '*' := by
  obtain ⟨before, after, hbefore, hafter, hpadded⟩ := Text.exists_padded length
  have hcore := Text.isTrimmed_trim length
  have hstar := hlength.no_star
  have hends {rest : Text} (hlast : ∀ c, (':' :: rest).getLast? = some c → isBlank c = false) :
      IsTrimmed (name ++ ':' :: rest) := hname.trimmed.append hname.ne_nil (List.cons_ne_nil _ _) hlast
  generalize length.trim = core at hpadded hcore hstar ⊢
  by_cases hnil : core = []
  · -- nothing but blanks stands behind the colon, and they go with those that end the entry
    subst hnil
    refine ⟨[], ?_, rfl, hstar⟩
    have hcolon : IsTrimmed (name ++ [':']) := hends fun c hc => Option.some.inj hc ▸ rfl
    have htrim := Text.trim_padded .nil hcolon (hbefore.append hafter)
    rw [hpadded, List.append_nil]
    simpa using htrim
  · have hlast : (before ++ core).getLast? = core.getLast? := List.getLast?_append_of_ne_nil before hnil
    refine ⟨before ++ core, ?_, ?_, by rwa [hlast]⟩
    · have hkept : IsTrimmed (name ++ ':' :: (before ++ core)) := by
        refine hends fun c hc => hcore.last c ?_
        rwa [← List.singleton_append, List.getLast?_append_of_ne_nil _ (by simp [hnil]), hlast] at hc
      have htrim := Text.trim_padded .nil hkept hafter
      rw [hpadded]
      simpa using htrim
    · have htrim := Text.trim_padded hbefore hcore .nil
      rwa [List.append_nil] at htrim

/-- An entry with a colon reads as the name, whatever stands behind the colon. -/
theorem ofEntry_length (hname : IsBareName op name) (hlength : IsLengthText length) :
    (ofEntry (name ++ ':' :: length)).varspec = some ⟨name, lengthModifier length⟩ := by
  obtain ⟨kept, htrim, hkept, hstar⟩ := trim_length_entry hname hlength
  have hlast : (name ++ ':' :: kept).getLast? ≠ some '*' := by
    rw [List.getLast?_append_of_ne_nil _ (List.cons_ne_nil _ _)]
    cases kept with
    | nil => exact fun h => absurd (Option.some.inj h) (by decide)
    | cons c kept => exact hstar
  have hcolon : ':' ∉ name := hname.no_sign ':' (by decide)
  have htrimmed : name.trimEnd = name := hname.trimmed.trimEnd_eq
  have hentry : (name ++ ':' :: kept).isEmpty = false := List.isEmpty_eq_false_iff.mpr (by simp)
  have hsome : name.isEmpty = false := List.isEmpty_eq_false_iff.mpr hname.ne_nil
  unfold lengthModifier
  cases hl : length? length.trim <;>
    simp only [ofEntry, parts, htrim, hkept, hentry, Text.dropLast?_eq_none hlast,
      Text.cut?_append hcolon, htrimmed, hl, hsome, Bool.false_eq_true, if_false]

theorem ofEntry_name (hname : IsBareName op name) : (ofEntry name).varspec = some ⟨name, .plain⟩ := by
  have hread := (Written.plain name).ofEntry_eq hname.writable .nil .nil
  rw [List.nil_append, List.append_nil] at hread
  rw [hread]

end Varspec

/-! ## The expansion -/

theorem IsBareName.not_mem_entry (hname : IsBareName op name) (hlength : IsLengthText length) {c : Char}
    (hc : c ∈ [',', '{', '}']) : c ∉ name ++ ':' :: length := by
  have hsigns : [',', '{', '}'] ⊆ [',', ':', '{', '}'] := by simp
  have hn : c ∉ name := hname.no_sign c (hsigns hc)
  have hl : c ∉ length := hlength.no_sign c hc
  have hcolon : c ≠ ':' := by
    rintro rfl
    exact absurd hc (by decide)
  simp [hn, hl, hcolon]

namespace Expression

/-- A body of one entry. -/
theorem ofBody_entry {entry : Text} {v : Varspec} (hcomma : ',' ∉ entry)
    (hread : (Varspec.ofEntry entry).varspec = some v)
    (hop : op = .simple → ∀ c, entry.head? = some c → c ∉ ['+', '#', '.', '/', ';', '?', '&']) :
    ofBody (op.code ++ entry) = ⟨op, [v]⟩ := by
  have hsplit : splitOperator (op.code ++ entry) = (op, entry) :=
    splitOperator_code_append op entry fun hs c hc => Operator.ofChar?_eq_none (hop hs c hc)
  have hentries : entry.splitOn ',' = [entry] := by
    have hjoined : (Text.joined [','] [entry]).splitOn ',' = [entry] :=
      splitOn_joined (fun e he => List.mem_singleton.mp he ▸ hcomma) (List.cons_ne_nil _ _)
    rwa [Text.joined_singleton] at hjoined
  unfold ofBody readings
  rw [hsplit, hentries, List.map_singleton, List.filterMap_cons, hread]
  rfl

theorem ofBody_name (hname : IsBareName op name) : ofBody (op.code ++ name) = ⟨op, [⟨name, .plain⟩]⟩ :=
  ofBody_entry (hname.no_sign ',' (by decide)) (Varspec.ofEntry_name hname) hname.no_code

theorem ofBody_length (hname : IsBareName op name) (hlength : IsLengthText length) :
    ofBody (op.code ++ (name ++ ':' :: length)) = ⟨op, [⟨name, Varspec.lengthModifier length⟩]⟩ := by
  refine ofBody_entry (hname.not_mem_entry hlength (by decide))
    (Varspec.ofEntry_length hname hlength) fun hs c hc => ?_
  refine hname.no_code hs c ?_
  rwa [List.head?_append_of_ne_nil _ hname.ne_nil] at hc

end Expression

theorem isBody_code_append {entry : Text} (hne : entry ≠ []) (hopen : '{' ∉ entry)
    (hclose : '}' ∉ entry) (op : Operator) :
    IsBody (op.code ++ entry) where
  ne_nil := fun h => hne (List.append_eq_nil_iff.mp h).2
  no_open := by cases op <;> simp [Operator.code, hopen]
  no_close := by cases op <;> simp [Operator.code, hclose]

theorem IsBareName.isBody (hname : IsBareName op name) : IsBody (op.code ++ name) :=
  isBody_code_append hname.ne_nil (hname.no_sign '{' (by decide)) (hname.no_sign '}' (by decide)) op

theorem IsBareName.isBody_length (hname : IsBareName op name) (hlength : IsLengthText length) :
    IsBody (op.code ++ (name ++ ':' :: length)) :=
  isBody_code_append (by simp) (hname.not_mem_entry hlength (by decide))
    (hname.not_mem_entry hlength (by decide)) op

theorem expand_name_span (hname : IsBareName op name) (hb : b.get? name = some (.scalar s)) :
    (⟨braced (op.code ++ name)⟩ : Template).expand b =
      op.led (Varspec.labelled op name (Percent.encode s)) := by
  rw [Template.expand_braced hname.isBody, Expression.ofBody_name hname]
  exact Expression.expand_scalar hb

theorem expand_length_span (hname : IsBareName op name) (hlength : IsLengthText length)
    (hb : b.get? name = some (.scalar s)) :
    (⟨braced (op.code ++ (name ++ ':' :: length))⟩ : Template).expand b =
      op.led (Varspec.labelled op name
        (Percent.encode (Varspec.truncate (Varspec.lengthModifier length) s))) := by
  rw [Template.expand_braced (hname.isBody_length hlength), Expression.ofBody_length hname hlength]
  exact Expression.expand_scalar hb

/-- **A length is exact, however large.** A span with a number above zero behind the colon shows as many
characters of a text, or all that it has, as a span of the name alone would show of these characters; they
are whole ones in the bytes that are written, too. With zero, or with anything but a number, it shows the
text. Only lengths below the bound are kept. -/
theorem expand_length_exact (op : Operator) (name length s : Text) (b : Bindings) (hname : IsBareName op name)
    (hlength : IsLengthText length) (hs : s.length < Nat.pow 2 64) (hb : b.get? name = some (.scalar s)) :
    let t : Template := ⟨braced (op.code ++ (name ++ ':' :: length))⟩
    let u : Template := ⟨braced (op.code ++ name)⟩
    (∀ n, 0 < n → Denotes length.trim n →
      (∀ c : Bindings, c.get? name = some (.scalar (s.take (min n s.length))) → t.expand b = u.expand c) ∧
      (∃ shown, t.expand b = op.led (Varspec.labelled op name shown) ∧
        Percent.decode? shown = some (s.take (min n s.length))) ∧
      t.expressions = [⟨op, [⟨name, if n < Nat.pow 2 64 then .maxLength n else .plain⟩]⟩]) ∧
    ((∀ n, 0 < n → ¬ Denotes length.trim n) →
      ∀ c : Bindings, c.get? name = some (.scalar s) → t.expand b = u.expand c) := by
  intro t u
  have ht := expand_length_span hname hlength hb
  constructor
  · intro n hn hdenotes
    rw [Varspec.truncate_lengthModifier hs hn hdenotes] at ht
    refine ⟨fun c hc => ?_, ⟨_, ht, (Percent.standsFor_encode _).decode?_eq⟩, ?_⟩
    · rw [ht, expand_name_span hname hc]
    · rw [Template.expressions_braced (hname.isBody_length hlength), Expression.ofBody_length hname hlength,
        Varspec.lengthModifier_of_denotes hdenotes]
      simp only [hn, true_and, Varspec.lengthBound]
  · intro hnone c hc
    rw [Varspec.lengthModifier_of_not_denotes hnone] at ht
    rw [ht, expand_name_span hname hc]
    rfl

/-- The first number beyond the bound, with a sign and a blank, and a text of a character
of two bytes and another one. -/
theorem expand_length_exact_overflow :
    let length : Text := [' ', '+'] ++ "18446744073709551616".toList
    let t : Template := ⟨braced (Operator.query.code ++ (['v'] ++ ':' :: length))⟩
    let b := Bindings.ofPairs [(['v'], .scalar ['é', 'x'])]
    IsBareName .query ['v'] ∧ IsLengthText length ∧ Denotes length.trim (Nat.pow 2 64) ∧
      t.expand b = ['?', 'v', '=', '%', 'C', '3', '%', 'A', '9', 'x'] ∧
      t.expressions = [⟨.query, [⟨['v'], .plain⟩]⟩] := by
  intro length t b
  have hname : IsBareName .query ['v'] := by
    refine ⟨List.cons_ne_nil _ _, ⟨?_, ?_⟩, by simp, by decide, fun h => by cases h⟩
    · rintro c ⟨⟩
      rfl
    · rintro c ⟨⟩
      rfl
  have hlength : IsLengthText length := ⟨by simp [length], by decide⟩
  have hdigits : ∀ c ∈ "18446744073709551616".toList, c.isDigit = true := List.all_eq_true.mp (by decide)
  have hdenotes : Denotes length.trim (Nat.pow 2 64) :=
    ⟨"18446744073709551616".toList, Or.inr (by decide), by decide, hdigits, by decide⟩
  have hb : b.get? ['v'] = some (.scalar ['é', 'x']) := by decide
  have hexact := expand_length_exact .query ['v'] length ['é', 'x'] b hname hlength (by decide) hb
  obtain ⟨hshown, -, hread⟩ := hexact.1 (Nat.pow 2 64) (by decide) hdenotes
  refine ⟨hname, hlength, hdenotes, ?_, hread⟩
  rw [hshown b hb]
  decide

end ApiLinks
