import ApiLinks.Proofs.Template.Notices
import ApiLinks.Proofs.Template.Reading

/-!
# Well-formed specifications

A name comes out of its entry in front of a star, in front of a colon, or as the whole entry.
Whichever way it takes, it is neither empty nor padded, and holds none of the signs that the readers
around it have taken for their own: the braces of the span, the commas between the entries and, unless
a star stood behind it, the colon.

* `Varspec.IsWellFormed v` : what a specification has when it was read from a template;
* `Varspec.isTrimmed_parts`, `Varspec.no_colon_of_parts` : the name of an entry, on each of the three ways;
* `Expression.isWellFormed_of_mem_ofBody` : the specifications of a body;
* `isWellFormed_of_mem_pieces` : every specification of a template, and its name in the text of the span.
-/

namespace ApiLinks

namespace Varspec

/-- What reading makes sure of. A name behind which a star stood may hold colons. -/
structure IsWellFormed (v : Varspec) : Prop where
  ne_nil : v.name ≠ []
  trimmed : Text.IsTrimmed v.name
  no_comma : ',' ∉ v.name
  no_open : '{' ∉ v.name
  no_close : '}' ∉ v.name
  no_colon : v.modifier ≠ .explode → ':' ∉ v.name
  length : ∀ n, v.modifier = .maxLength n → 0 < n ∧ n < Nat.pow 2 64

variable {entry : Text} {v : Varspec}

/-- The blanks that a star or a colon leaves at the end of a name are taken away,
and there are none at its start. -/
theorem isTrimmed_parts (h : Text.IsTrimmed entry) : Text.IsTrimmed (parts entry).1 := by
  cases hstar : Text.dropLast? '*' entry with
  | some name =>
    simp only [parts, hstar]
    exact h.trimEnd_of_prefix (Text.prefix_of_dropLast?_eq_some hstar)
  | none =>
    cases hcut : Text.cut? ':' entry with
    | none =>
      simp only [parts, hstar, hcut]
      exact h
    | some sides =>
      obtain ⟨name, length⟩ := sides
      rw [parts_name_of_cut hstar hcut]
      exact h.trimEnd_of_prefix ⟨':' :: length, (Text.cut?_eq_some hcut).1.symm⟩

/-- An entry without a star at its end is cut at its first colon. -/
theorem no_colon_of_parts (h : (parts entry).2.1 ≠ .explode) : ':' ∉ (parts entry).1 := by
  cases hstar : Text.dropLast? '*' entry with
  | some name => exact absurd (by simp only [parts, hstar]) h
  | none =>
    cases hcut : Text.cut? ':' entry with
    | none =>
      simp only [parts, hstar, hcut]
      exact Text.cut?_eq_none_iff.mp hcut
    | some sides =>
      obtain ⟨name, length⟩ := sides
      rw [parts_name_of_cut hstar hcut]
      intro hcolon
      exact (Text.cut?_eq_some hcut).2 ((Text.trimEnd_prefix_self name).subset hcolon)

theorem isTrimmed_of_ofEntry (h : (ofEntry entry).varspec = some v) : Text.IsTrimmed v.name := by
  obtain rfl := eq_parts_of_ofEntry h
  exact isTrimmed_parts (Text.isTrimmed_trim entry)

theorem no_colon_of_ofEntry (h : (ofEntry entry).varspec = some v) (hv : v.modifier ≠ .explode) :
    ':' ∉ v.name := by
  obtain rfl := eq_parts_of_ofEntry h
  exact no_colon_of_parts hv

end Varspec

/-- The commas are taken by the list of the entries, and the braces by the span. -/
theorem Expression.isWellFormed_of_mem_ofBody {body : Text} (hb : IsBody body) {v : Varspec}
    (hv : v ∈ (ofBody body).varspecs) : v.IsWellFormed := by
  obtain ⟨entry, -, hread⟩ := exists_ofEntry hv
  have hname : v.name ⊆ body := (name_infix_of_ofBody hv).subset
  exact {
    ne_nil := Varspec.name_ne_nil hread
    trimmed := Varspec.isTrimmed_of_ofEntry hread
    no_comma := no_comma_of_ofBody hv
    no_open := fun hin => hb.no_open (hname hin)
    no_close := fun hin => hb.no_close (hname hin)
    no_colon := Varspec.no_colon_of_ofEntry hread
    length := fun _ hn => Varspec.length_of_ofEntry hread hn }

theorem infix_braced (body : Text) : body <:+: braced body := ⟨['{'], ['}'], rfl⟩

/-- **Every specification that is read from a template is well-formed**, and its name
stands in the text of its span. -/
theorem isWellFormed_of_mem_pieces (t : Template) (p : Piece) (hp : p ∈ t.pieces) (e : Expression)
    (he : p.expression? = some e) (v : Varspec) (hv : v ∈ e.varspecs) :
    v.IsWellFormed ∧ v.name <:+: p.text := by
  obtain ⟨body, hb, htext, rfl⟩ := t.isReading_pieces.span p hp e he
  refine ⟨Expression.isWellFormed_of_mem_ofBody hb hv, ?_⟩
  rw [htext]
  exact (Expression.name_infix_of_ofBody hv).trans (infix_braced body)

/-- Behind an opening brace that is given up: a wide blank in front of a star, and a colon
that the star keeps in the name. -/
theorem isWellFormed_of_mem_pieces_padded :
    let t : Template := ⟨['{', 'x', '{', ' ', 'a', ':', 'b', '\u3000', '*', ',', 'c', ' ', ':', '3', '}']⟩
    let span : Text := ['{', ' ', 'a', ':', 'b', '\u3000', '*', ',', 'c', ' ', ':', '3', '}']
    let e : Expression := ⟨.simple, [⟨['a', ':', 'b'], .explode⟩, ⟨['c'], .maxLength 3⟩]⟩
    ⟨span, some e⟩ ∈ t.pieces ∧
      ((⟨['a', ':', 'b'], .explode⟩ : Varspec).IsWellFormed ∧ ['a', ':', 'b'] <:+: span) ∧
      (⟨['c'], .maxLength 3⟩ : Varspec).IsWellFormed ∧ ['c'] <:+: span := by
  intro t span e
  have hp : ⟨span, some e⟩ ∈ t.pieces := by decide
  have hread := isWellFormed_of_mem_pieces t ⟨span, some e⟩ hp e rfl
  exact ⟨hp, hread ⟨['a', ':', 'b'], .explode⟩ List.mem_cons_self,
    hread ⟨['c'], .maxLength 3⟩ (List.mem_cons_of_mem _ List.mem_cons_self)⟩

end ApiLinks
