import ApiLinks.Proofs.Text.Decoding

/-!
# Slices

A text is cut at byte offsets of its UTF-8 form. A cut that is out of order or out of range, or that would
take a character apart, has no result.

* `Utf8.size t` : the number of bytes;
* `Utf8.isBoundary t i` : no byte stands at the offset that continues a character;
* `Utf8.InBounds t start stop`, `Utf8.slice? t start stop` : the cuts that can be made, and what they give;
* `Utf8.isBoundary_iff` : the boundaries of a text are the sizes of its beginnings;
* `Utf8.slice?_eq_some_iff` : a slice is what stands between two boundaries;
  `Utf8.isSome_slice?_iff` : and always there;
* `Utf8.indices start t` : the characters with their offsets;
  `Utf8.find?_indices_append` : the first one of a kind;
* `Utf8.offsets c start t` : the offsets of one character, in ascending order (`Utf8.offsets_pairwise`).
-/

namespace ApiLinks.Utf8

/-- The number of bytes of a text. -/
def size (t : Text) : Nat := (encode t).length

theorem size_append (t u : Text) : size (t ++ u) = size t + size u := by
  simp only [size, encode_append, List.length_append]

theorem size_singleton (c : Char) : size [c] = c.utf8Size := by
  rw [size, encode, List.flatMap_singleton, String.length_utf8EncodeChar]

theorem size_cons (c : Char) (t : Text) : size (c :: t) = c.utf8Size + size t := by
  rw [← List.singleton_append, size_append, size_singleton]

theorem size_pos {t : Text} (h : t ≠ []) : 0 < size t := by
  obtain ⟨c, t, rfl⟩ := List.exists_cons_of_ne_nil h
  have hc := c.utf8Size_pos
  rw [size_cons]
  omega

/-! ## Boundaries -/

/-- Whether a character begins at the offset, or the text ends there. -/
def isBoundary (t : Text) (i : Nat) : Bool :=
  match (encode t)[i]? with
  | some b => (tail? b).isNone
  | none => i == size t

/-- The byte that leads a character and those that continue it. -/
theorem encodeChar_eq_cons (c : Char) :
    ∃ lead tails, String.utf8EncodeChar c = lead :: tails ∧ tail? lead = none ∧
      ∀ b ∈ tails, (tail? b).isSome := by
  have hbound := toNat_lt c
  have hlead {n : Nat} (hn : n < 0x80 ∨ 0xC0 ≤ n) (hbyte : n < 256) : tail? (UInt8.ofNat n) = none := by
    have hvalue : (UInt8.ofNat n).toNat = n := UInt8.toNat_ofNat_of_lt' hbyte
    unfold tail?
    rw [hvalue, if_neg (by omega)]
  have htail (n : Nat) : (tail? (UInt8.ofNat (n % 64 + 128))).isSome := by
    rw [tail?_ofNat]
    rfl
  unfold String.utf8EncodeChar
  generalize c.val.toNat = n at hbound
  dsimp only
  -- one case for each number of bytes; the leading ones lie below and above those that continue
  split_ifs
  all_goals
    refine ⟨_, _, rfl, hlead (by omega) (by omega), ?_⟩
    simp only [List.forall_mem_cons, htail, true_and, List.not_mem_nil, false_imp_iff, implies_true]

theorem isBoundary_zero (t : Text) : isBoundary t 0 = true := by
  cases t with
  | nil => rfl
  | cons c t =>
    obtain ⟨lead, tails, hc, hlead, -⟩ := encodeChar_eq_cons c
    simp only [isBoundary, encode_cons, hc, List.cons_append, List.getElem?_cons_zero, hlead,
      Option.isNone_none]

/-- Behind the first character the boundaries are those of the rest. -/
theorem isBoundary_cons_add (c : Char) (t : Text) (i : Nat) :
    isBoundary (c :: t) (c.utf8Size + i) = isBoundary t i := by
  have hbyte : (encode (c :: t))[c.utf8Size + i]? = (encode t)[i]? := by
    rw [encode_cons, ← String.length_utf8EncodeChar, List.getElem?_append_right (Nat.le_add_right _ _),
      Nat.add_sub_cancel_left]
  unfold isBoundary
  rw [hbyte, size_cons]
  cases (encode t)[i]? with
  | some b => rfl
  | none => simp only [Nat.add_left_cancel_iff, beq_eq_beq]

/-- Inside of the first character there are none. -/
theorem isBoundary_cons_lt {c : Char} {t : Text} {i : Nat} (hpos : 0 < i) (hlt : i < c.utf8Size) :
    isBoundary (c :: t) i = false := by
  obtain ⟨lead, tails, hc, -, htails⟩ := encodeChar_eq_cons c
  have hlength : tails.length + 1 = c.utf8Size := by
    rw [← String.length_utf8EncodeChar, hc, List.length_cons]
  obtain ⟨i, rfl⟩ := Nat.exists_eq_add_of_lt hpos
  have hi : i < tails.length := by omega
  have hbyte : (encode (c :: t))[0 + i + 1]? = some tails[i] := by
    rw [encode_cons, hc, Nat.zero_add, List.cons_append, List.getElem?_cons_succ, List.getElem?_append_left hi,
      List.getElem?_eq_getElem hi]
  simp only [isBoundary, hbyte, Option.isNone_eq_false_iff]
  exact htails _ (List.getElem_mem hi)

/-- **The boundaries of a text are the sizes of its beginnings.** -/
theorem isBoundary_iff {t : Text} {i : Nat} :
    isBoundary t i = true ↔ ∃ front, front <+: t ∧ i = size front := by
  constructor
  · intro h
    induction t generalizing i with
    | nil =>
      refine ⟨[], List.prefix_rfl, ?_⟩
      have hi : (i == 0) = true := h
      exact beq_iff_eq.mp hi
    | cons c t ih =>
      rcases Nat.eq_zero_or_pos i with rfl | hpos
      · exact ⟨[], List.nil_prefix, rfl⟩
      · rcases Nat.lt_or_ge i c.utf8Size with hlt | hge
        · rw [isBoundary_cons_lt hpos hlt] at h
          cases h
        · obtain ⟨j, rfl⟩ := Nat.exists_eq_add_of_le hge
          rw [isBoundary_cons_add] at h
          obtain ⟨front, hfront, rfl⟩ := ih h
          exact ⟨c :: front, List.cons_prefix_cons.mpr ⟨rfl, hfront⟩, (size_cons c front).symm⟩
  · rintro ⟨front, hfront, rfl⟩
    induction front generalizing t with
    | nil => exact isBoundary_zero t
    | cons c front ih =>
      obtain ⟨rest, rfl⟩ := hfront
      rw [size_cons, List.cons_append, isBoundary_cons_add]
      exact ih (List.prefix_append front rest)

/-! ## Slices -/

/-- The offsets are in order and in range, and take no character apart. -/
structure InBounds (t : Text) (start stop : Nat) : Prop where
  ordered : start ≤ stop
  in_range : stop ≤ size t
  start_boundary : isBoundary t start = true
  stop_boundary : isBoundary t stop = true

instance (t : Text) (start stop : Nat) : Decidable (InBounds t start stop) :=
  decidable_of_iff (start ≤ stop ∧ stop ≤ size t ∧ isBoundary t start = true ∧ isBoundary t stop = true)
    ⟨fun ⟨h1, h2, h3, h4⟩ => ⟨h1, h2, h3, h4⟩, fun ⟨h1, h2, h3, h4⟩ => ⟨h1, h2, h3, h4⟩⟩

/-- The text of the bytes from `start` up to `stop`. -/
def slice? (t : Text) (start stop : Nat) : Option Text :=
  if InBounds t start stop then decode? (((encode t).take stop).drop start) else none

theorem inBounds_append (l m r : Text) : InBounds (l ++ m ++ r) (size l) (size l + size m) where
  ordered := Nat.le_add_right _ _
  in_range := by
    rw [size_append, size_append]
    omega
  start_boundary := isBoundary_iff.mpr ⟨l, (List.prefix_append l m).trans (List.prefix_append _ r), rfl⟩
  stop_boundary := isBoundary_iff.mpr ⟨l ++ m, List.prefix_append _ r, (size_append l m).symm⟩

theorem InBounds.exists_append {t : Text} {start stop : Nat} (h : InBounds t start stop) :
    ∃ l m r, t = l ++ m ++ r ∧ start = size l ∧ stop = size l + size m := by
  obtain ⟨l, hl, rfl⟩ := isBoundary_iff.mp h.start_boundary
  obtain ⟨front, ⟨r, rfl⟩, rfl⟩ := isBoundary_iff.mp h.stop_boundary
  have hordered := h.ordered
  rcases List.prefix_or_prefix_of_prefix hl (List.prefix_append front r) with ⟨m, rfl⟩ | ⟨m, rfl⟩
  · exact ⟨l, m, r, rfl, rfl, size_append l m⟩
  · -- what stands behind the end of the slice and in front of its start is empty
    obtain rfl : m = [] := by
      by_contra hne
      have hpos := size_pos hne
      rw [size_append] at hordered
      omega
    exact ⟨front, [], r, by simp, by simp, rfl⟩

theorem slice?_append (l m r : Text) : slice? (l ++ m ++ r) (size l) (size l + size m) = some m := by
  have htake : (encode (l ++ m ++ r)).take (size l + size m) = encode (l ++ m) := by
    rw [← size_append, encode_append]
    exact List.take_left
  have hdrop : (encode (l ++ m)).drop (size l) = encode m := by
    rw [encode_append]
    exact List.drop_left
  rw [slice?, if_pos (inBounds_append l m r), htake, hdrop, decode?_encode]

theorem slice?_eq_some_iff {t m : Text} {start stop : Nat} :
    slice? t start stop = some m ↔ ∃ l r, t = l ++ m ++ r ∧ start = size l ∧ stop = size l + size m := by
  constructor
  · intro h
    by_cases hin : InBounds t start stop
    · obtain ⟨l, m', r, rfl, rfl, rfl⟩ := hin.exists_append
      rw [slice?_append] at h
      obtain rfl := Option.some.inj h
      exact ⟨l, r, rfl, rfl, rfl⟩
    · rw [slice?, if_neg hin] at h
      cases h
  · rintro ⟨l, r, rfl, rfl, rfl⟩
    exact slice?_append l m r

theorem isSome_slice?_iff {t : Text} {start stop : Nat} :
    (slice? t start stop).isSome ↔ InBounds t start stop := by
  constructor
  · intro h
    obtain ⟨m, hm⟩ := Option.isSome_iff_exists.mp h
    obtain ⟨l, r, rfl, rfl, rfl⟩ := slice?_eq_some_iff.mp hm
    exact inBounds_append l m r
  · intro h
    obtain ⟨l, m, r, rfl, rfl, rfl⟩ := h.exists_append
    rw [slice?_append]
    rfl

/-- The two bytes of one character are a slice, and neither of them is. -/
example : slice? ['a', 'é'] 1 3 = some ['é'] ∧ slice? ['a', 'é'] 1 2 = none ∧
    slice? ['a', 'é'] 2 3 = none := by decide

/-! ## Characters with their offsets -/

/-- The characters with the offsets at which they begin, if the text begins at the offset `start`. -/
def indices (start : Nat) : Text → List (Nat × Char)
  | [] => []
  | c :: t => (start, c) :: indices (start + c.utf8Size) t

/-- The offsets at which a character stands. -/
def offsets (c : Char) (start : Nat) (t : Text) : List Nat := ((indices start t).filter (·.2 == c)).map (·.1)

theorem indices_append (start : Nat) (t u : Text) :
    indices start (t ++ u) = indices start t ++ indices (start + size t) u := by
  induction t generalizing start with
  | nil => rfl
  | cons c t ih => rw [List.cons_append, indices, ih, indices, List.cons_append, size_cons, Nat.add_assoc]

theorem snd_of_mem_indices {start : Nat} {t : Text} {x : Nat × Char} (h : x ∈ indices start t) : x.2 ∈ t := by
  induction t generalizing start with
  | nil => cases h
  | cons c t ih =>
    rcases List.mem_cons.mp h with rfl | h
    · exact List.mem_cons_self
    · exact List.mem_cons_of_mem c (ih h)

theorem le_of_mem_indices {start : Nat} {t : Text} {x : Nat × Char} (h : x ∈ indices start t) :
    start ≤ x.1 := by
  induction t generalizing start with
  | nil => cases h
  | cons c t ih =>
    rcases List.mem_cons.mp h with rfl | h
    · exact Nat.le_refl _
    · exact Nat.le_trans (Nat.le_add_right _ _) (ih h)

theorem indices_pairwise (start : Nat) (t : Text) : (indices start t).Pairwise fun x y => x.1 < y.1 := by
  induction t generalizing start with
  | nil => exact List.Pairwise.nil
  | cons c t ih =>
    refine List.Pairwise.cons (fun x hx => ?_) (ih _)
    have hpos := c.utf8Size_pos
    have hle := le_of_mem_indices hx
    omega

theorem getElem?_indices (start : Nat) (t : Text) (n : Nat) :
    (indices start t)[n]? = t[n]?.map fun c => (start + size (t.take n), c) := by
  induction t generalizing start n with
  | nil => rfl
  | cons c t ih =>
    cases n with
    | zero => rfl
    | succ n =>
      rw [indices, List.getElem?_cons_succ, ih, List.getElem?_cons_succ, List.take_succ_cons,
        size_cons, Nat.add_assoc]

theorem find?_indices_eq_none {p : Char → Bool} {t : Text} (h : ∀ c ∈ t, p c = false) (start : Nat) :
    (indices start t).find? (fun x => p x.2) = none := by
  rw [List.find?_eq_none]
  intro x hx
  rw [h x.2 (snd_of_mem_indices hx)]
  exact Bool.false_ne_true

theorem find?_indices_append {p : Char → Bool} {gap : Text} (h : ∀ c ∈ gap, p c = false)
    {c : Char} (hc : p c = true) (start : Nat) (t : Text) :
    (indices start (gap ++ c :: t)).find? (fun x => p x.2) = some (start + size gap, c) := by
  rw [indices_append, List.find?_append, find?_indices_eq_none h, Option.none_or, indices]
  exact List.find?_cons_of_pos hc

theorem offsets_append (c : Char) (start : Nat) (t u : Text) :
    offsets c start (t ++ u) = offsets c start t ++ offsets c (start + size t) u := by
  simp only [offsets, indices_append, List.filter_append, List.map_append]

theorem offsets_cons_self (c : Char) (start : Nat) (t : Text) :
    offsets c start (c :: t) = start :: offsets c (start + c.utf8Size) t := by
  simp only [offsets, indices, List.filter_cons, beq_self_eq_true, if_true, List.map_cons]

theorem offsets_eq_nil {c : Char} {t : Text} (h : c ∉ t) (start : Nat) : offsets c start t = [] := by
  rw [offsets, List.map_eq_nil_iff, List.filter_eq_nil_iff]
  intro x hx hxc
  exact h (beq_iff_eq.mp hxc ▸ snd_of_mem_indices hx)

theorem offsets_append_of_not_mem {c : Char} {t : Text} (h : c ∉ t) (start : Nat) (u : Text) :
    offsets c start (t ++ u) = offsets c (start + size t) u := by
  rw [offsets_append, offsets_eq_nil h, List.nil_append]

theorem offsets_pairwise (c : Char) (start : Nat) (t : Text) : (offsets c start t).Pairwise (· < ·) :=
  List.pairwise_map.mpr ((indices_pairwise start t).filter _)

theorem length_offsets (c : Char) (start : Nat) (t : Text) : (offsets c start t).length = t.count c := by
  induction t generalizing start with
  | nil => rfl
  | cons d t ih =>
    have hcons : offsets c start (d :: t) =
        (if d == c then [start] else []) ++ offsets c (start + d.utf8Size) t := by
      simp only [offsets, indices, List.filter_cons]
      split <;> rfl
    rw [hcons, List.length_append, ih, List.count_cons]
    split <;> simp [Nat.add_comm]

theorem slice?_of_mem_offsets {c : Char} {t : Text} {i : Nat} (h : i ∈ offsets c 0 t) :
    slice? t i (i + c.utf8Size) = some [c] := by
  obtain ⟨x, hx, rfl⟩ := List.mem_map.mp h
  obtain ⟨hin, hxc⟩ := List.mem_filter.mp hx
  obtain ⟨n, hn⟩ := List.mem_iff_getElem?.mp hin
  rw [getElem?_indices, Option.map_eq_some_iff] at hn
  obtain ⟨d, hd, rfl⟩ := hn
  obtain rfl : d = c := beq_iff_eq.mp hxc
  have ht : t = t.take n ++ [d] ++ t.drop (n + 1) := by
    obtain ⟨hlt, hget⟩ := List.getElem?_eq_some_iff.mp hd
    rw [← hget, ← List.take_succ_eq_append_getElem hlt, List.take_append_drop]
  exact slice?_eq_some_iff.mpr ⟨t.take n, t.drop (n + 1), ht, by simp, by simp [size_singleton]⟩

end ApiLinks.Utf8
