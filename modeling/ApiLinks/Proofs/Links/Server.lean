import ApiLinks.LinkSet
import ApiLinks.Proofs.Template.Reading
import ApiLinks.Proofs.Url.Rooted

/-!
# The server that a link leads to

A link that begins with a slash is resolved on the server of the base, unless its expansion begins
with two slashes. Values decide that only where a span follows the first slash: a segment without a
value between two slashes is enough.

* `Template.expand_of_literal` : literal text at the front of a template stays at the front of its expansions;
* `Url.OnServer base t` : the text of a URL with the scheme, the host and the port of the base;
* `LinkSet.resolve_keeps_server` : where a link that begins with a slash leads;
* `LinkSet.resolve_leaves_server` : a missing value that leads to another server.
-/

namespace ApiLinks

/-! ## The start of an expansion -/

/-- Text without an opening brace in front of parts is in their literal ones. -/
theorem Template.flatMap_expandPart_of_literal (b : Bindings) {parts : List Part} {start rest : Text}
    (h : parts.flatMap Part.text = start ++ rest) (hs : '{' ∉ start) :
    ∃ more, parts.flatMap (expandPart b) = start ++ more := by
  induction parts generalizing start with
  | nil =>
    obtain ⟨rfl, -⟩ := List.append_eq_nil_iff.mp h.symm
    exact ⟨[], rfl⟩
  | cons p parts ih =>
    rw [List.flatMap_cons] at h
    rw [List.flatMap_cons]
    cases p with
    | span body =>
      cases start with
      | nil => exact ⟨_, rfl⟩
      | cons c start =>
        obtain ⟨rfl, -⟩ : '{' = c ∧ _ := List.cons.inj h
        exact absurd List.mem_cons_self hs
    | literal text =>
      have hp : expandPart b (.literal text) = text := rfl
      rw [hp]
      rcases List.append_eq_append_iff.mp h with ⟨m, rfl, hm⟩ | ⟨m, hm, -⟩
      · obtain ⟨more, hmore⟩ := ih hm fun hin => hs (List.mem_append_right _ hin)
        exact ⟨more, by rw [hmore, List.append_assoc]; rfl⟩
      · have htext : text = start ++ m := hm
        exact ⟨m ++ parts.flatMap (expandPart b), by rw [htext, List.append_assoc]⟩

theorem Template.expand_of_literal {t : Template} {start rest : Text} (h : t.text = start ++ rest)
    (hs : '{' ∉ start) (b : Bindings) : ∃ more, t.expand b = start ++ more := by
  unfold expand
  split
  · exact ⟨rest, h⟩
  · exact flatMap_expandPart_of_literal b (t.flatMap_text_parts.trans h) hs

theorem Link.expand_of_literal {l : Link} {start rest : Text} (h : l.href.text = start ++ rest)
    (hs : '{' ∉ start) (b : Bindings) : ∃ more, l.expand b = start ++ more := by
  unfold expand
  split
  · exact Template.expand_of_literal h hs b
  · exact ⟨rest, h⟩

/-! ## The server of a URL -/

namespace Url

/-- The host and the port. -/
def server (u : Url) : Option (Host × Option Nat) := u.authority.map fun a => (a.host, a.port)

/-- The text is that of a URL with the scheme, the host and the port of the base. -/
def OnServer (base : Url) (t : Text) : Prop :=
  ∃ u : Url, t = u.toText ∧ u.scheme = base.scheme ∧ u.server = base.server

theorem authorityText_of_authority {u : Url} {a : Authority} (ha : u.authority = some a) :
    u.authorityText = '/' :: '/' :: a.toText := by
  unfold authorityText
  rw [ha]

/-- A slash ends the authority. -/
theorem toText_of_authority {u : Url} {a : Authority} {s : Text} {ss : List Text} (ha : u.authority = some a)
    (hp : u.path = .segments (s :: ss)) :
    ∃ more, u.toText = u.scheme ++ ':' :: '/' :: '/' :: a.toText ++ '/' :: more := by
  have hpath : u.path.toText = '/' :: (s ++ ss.flatMap ('/' :: ·)) := by
    rw [hp, UrlPath.toText, List.flatMap_cons, List.cons_append]
  refine ⟨s ++ ss.flatMap ('/' :: ·) ++ u.query.elim [] ('?' :: ·) ++ u.fragment.elim [] ('#' :: ·), ?_⟩
  rw [toText, beforeQuery, authorityText_of_authority ha, hpath]
  simp only [List.append_assoc, List.cons_append]

theorem length_host_le {u : Url} {a : Authority} (ha : u.authority = some a) :
    a.host.toText.length ≤ u.toText.length := by
  rw [toText, beforeQuery, authorityText_of_authority ha, Authority.toText]
  simp only [List.length_append, List.length_cons]
  omega

theorem not_startsAtHost {c : Char} (hc : c ∉ ['/', '\\', '\t', '\n', '\r']) (t : Text) :
    ¬ StartsAtHost ('/' :: c :: t) := by
  simp only [List.mem_cons, List.not_mem_nil, or_false, not_or] at hc
  obtain ⟨hslash, hback, htab, hfeed, hreturn⟩ := hc
  have hkept : isTabOrBreak c = false := by simp [isTabOrBreak, htab, hfeed, hreturn]
  have hno : isSlash c = false := by simp [isSlash, hslash, hback]
  rw [startsAtHost_cons_slash, List.filter_cons_of_pos (by rw [hkept]; rfl), List.head?_cons,
    Option.any_some, hno]
  exact Bool.false_ne_true

end Url

namespace LinkSet

variable {s : LinkSet} {resource : Text} {b : Bindings} {l : Link} {base : Url} {u : Text}

theorem join_of_resolve (hl : s.get? resource = some l) (hbase : s.base = some base)
    (hrelative : Url.parse (l.expand b) = .error .relative) (hu : s.resolve resource b = .ok u) :
    ∃ v, Url.join base (l.expand b) = .ok v ∧ u = v.toText := by
  unfold resolve resolveListed at hu
  simp only [hl, hbase] at hu
  split at hu
  · cases hu
  · unfold joinRelative at hu
    simp only [hrelative] at hu
    split at hu
    · rename_i v hv
      exact ⟨v, hv, (Except.ok.inj hu).symm⟩
    · cases hu

/-- **Where a link that begins with a slash leads.** The scheme is that of the base. So are host and port,
and the text up to the path, unless the expansion begins with two slashes. It does so for no values at all
if the first slash has a literal character behind it that is neither a slash nor a tab or a line break. -/
theorem resolve_keeps_server (s : LinkSet) (resource : Text) (b : Bindings) (l : Link)
    (base : Url) (rest u : Text) (hl : s.get? resource = some l) (hbase : s.base = some base)
    (hscheme : base.scheme = "http".toList ∨ base.scheme = "https".toList) (hhref : l.href.text = '/' :: rest)
    (hu : s.resolve resource b = .ok u) :
    (∃ v : Url, u = v.toText ∧ v.scheme = base.scheme) ∧
      (¬ Url.StartsAtHost (l.expand b) → base.OnServer u ∧
        ∀ a, base.authority = some a →
          ∃ more, u = base.scheme ++ ':' :: '/' :: '/' :: a.toText ++ '/' :: more) ∧
      (∀ c, rest.head? = some c → c ∉ ['/', '\\', '\t', '\n', '\r'] → c ≠ '{' →
        ¬ Url.StartsAtHost (l.expand b)) := by
  have hfile : base.scheme ≠ Url.fileScheme := by
    rcases hscheme with h | h
    · rw [h]
      decide
    · rw [h]
      decide
  obtain ⟨more, hexpand⟩ : ∃ more, l.expand b = '/' :: more :=
    Link.expand_of_literal (show l.href.text = ['/'] ++ rest from hhref) (by decide) b
  have hrelative : Url.parse (l.expand b) = .error .relative := by
    rw [hexpand]
    exact Url.parse_cons_slash more
  obtain ⟨v, hjoin, rfl⟩ := join_of_resolve hl hbase hrelative hu
  rw [hexpand] at hjoin
  obtain ⟨hv, hkept⟩ := Url.join_cons_slash hfile hjoin
  refine ⟨⟨v, rfl, hv⟩, fun hn => ?_, fun c hc hno hbrace => ?_⟩
  · rw [hexpand] at hn
    obtain ⟨hauthority, segment, segments, hpath⟩ := hkept hn
    refine ⟨⟨v, rfl, hv, by unfold Url.server; rw [hauthority]⟩, fun a ha => ?_⟩
    rw [← hv]
    exact Url.toText_of_authority (hauthority.trans ha) hpath
  · obtain ⟨tail, rfl⟩ : ∃ tail, rest = c :: tail := by
      cases rest with
      | nil => cases hc
      | cons d tail => exact ⟨tail, congrArg (· :: tail) (Option.some.inj hc)⟩
    have hstart : '{' ∉ ['/', c] := by simp [Ne.symm hbrace]
    obtain ⟨more, hexpand⟩ := Link.expand_of_literal (show l.href.text = ['/', c] ++ tail from hhref) hstart b
    rw [hexpand]
    exact Url.not_startsAtHost hno more

/-- The second of two adjacent spans has a value. -/
theorem resolve_keeps_server_adjacent :
    let base : Url := ⟨"https".toList, some ⟨[], [], .domain "api.example.org".toList, some 8443⟩,
      .segments [[]], none, none⟩
    let l : Link := ⟨⟨['/', '{', 'a', '}', '{', 'b', '}']⟩, true⟩
    let s : LinkSet := ⟨NameMap.ofList [(['r'], l)], some base⟩
    let b := Bindings.ofPairs [(['b'], .scalar ['x'])]
    s.get? ['r'] = some l ∧ s.base = some base ∧
      s.resolve ['r'] b = .ok "https://api.example.org:8443/x".toList ∧
      base.OnServer "https://api.example.org:8443/x".toList := by
  intro base l s b
  have hl : s.get? ['r'] = some l := by decide
  have hexpand : l.expand b = ['/', 'x'] := by decide
  have hu : s.resolve ['r'] b = .ok "https://api.example.org:8443/x".toList := by decide +kernel
  have hhost : ¬ Url.StartsAtHost (l.expand b) := by
    rw [hexpand]
    exact Url.not_startsAtHost (by decide) []
  exact ⟨hl, rfl, hu, ((resolve_keeps_server s ['r'] b l base _ _ hl rfl (Or.inr rfl) rfl hu).2.1 hhost).1⟩

/-- **A missing value can lead to another server**: nothing stands between the two
slashes, and what follows is a host. -/
theorem resolve_leaves_server :
    let base : Url :=
      ⟨"https".toList, some ⟨[], [], .domain "api.example.org".toList, none⟩, .segments [[]], none, none⟩
    let l : Link := ⟨⟨['/', '{', 'v', '}', '/', 'p', 'o', 'i']⟩, true⟩
    let s : LinkSet := ⟨NameMap.ofList [(['r'], l)], some base⟩
    Url.parse "https://api.example.org/".toList = .ok base ∧ s.get? ['r'] = some l ∧
      s.resolve ['r'] NameMap.empty = .ok "https://poi/".toList ∧ ¬ base.OnServer "https://poi/".toList := by
  intro base l s
  have hbase : Url.parse "https://api.example.org/".toList = .ok base := by decide +kernel
  have hl : s.get? ['r'] = some l := by decide
  have hu : s.resolve ['r'] NameMap.empty = .ok "https://poi/".toList := by decide +kernel
  refine ⟨hbase, hl, hu, ?_⟩
  rintro ⟨v, hv, -, hserver⟩
  obtain ⟨a, ha, hhost⟩ := Option.map_eq_some_iff.mp hserver
  have hle := Url.length_host_le ha
  rw [← hv, (Prod.mk.inj hhost).1] at hle
  exact absurd hle (by decide)

end LinkSet

end ApiLinks
