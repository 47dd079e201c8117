import ApiLinks.Proofs.Bindings
import ApiLinks.Proofs.Links.Resolution
import Mathlib.Data.List.Dedup

/-!
# Runs of calls on one store

A store is collected from pairs and then called on: one value at a time, with or without an answer, pairs in
one go, or parameters of which some have no value. Cut into calls or not, the pairs are written from left to
right, and the first value of a name stays.

* `Call.apply`, `Call.pairs` : what a call does to a store, and what it writes;
* `Call.apply_fst`, `run_fst` : one call and a run of calls bind the pairs that they write;
* `answer_call` : what a call inside a run answers;
* `SameByName` : two lists with the same values for each name, in the same order;
* `run_keeps_first_values` : what a store holds after a run, what the calls answered,
  and which runs leave equal stores.
-/

namespace ApiLinks.Bindings

/-- A call that can write to a store. -/
inductive Call where
  /-- Binds a value to a name and says whether the name took it. -/
  | bind (name : Text) (value : Value)
  /-- Binds a value to a name and passes the store on. -/
  | chain (name : Text) (value : Value)
  /-- Binds pairs. -/
  | extend (pairs : List (Text × Value))
  /-- Binds the parameters that have a value. -/
  | params (pairs : List (Text × Option Value))
  deriving DecidableEq, Repr

/-- The pair with its value where one without a value could stand. -/
def withValue (pair : Text × Value) : Text × Option Value := (pair.1, some pair.2)

namespace Call

/-- The store after the call, with its answer if it gives one. -/
def apply (b : Bindings) : Call → Bindings × Option Bool
  | bind name value => ((b.tryBind name value).1, some (b.tryBind name value).2)
  | chain name value => (b.bind name value, none)
  | extend pairs => (b.bindAll pairs, none)
  | params pairs => (b.bindSome pairs, none)

/-- The pairs that the call writes, with those that have no value. -/
def pairs : Call → List (Text × Option Value)
  | bind name value => [(name, some value)]
  | chain name value => [(name, some value)]
  | extend pairs => pairs.map withValue
  | params pairs => pairs

end Call

/-- Makes calls one after the other and collects their answers. -/
def run (b : Bindings) : List Call → Bindings × List (Option Bool)
  | [] => (b, [])
  | call :: calls =>
    let (next, answer) := call.apply b
    let (last, answers) := run next calls
    (last, answer :: answers)

/-- The pairs that a run writes on what it was collected from, from first to last. -/
def written (start : List (Text × Value)) (calls : List Call) : List (Text × Option Value) :=
  start.map withValue ++ calls.flatMap Call.pairs

/-- The values that a list of pairs has for a name, in order. -/
def values (pairs : List (Text × Option Value)) (name : Text) : List Value :=
  pairs.filterMap fun p => if p.1 = name then p.2 else none

/-- The same values for each name in the same order: pairs of different names may be moved past each other,
and those without a value may stand anywhere. -/
def SameByName (pairs others : List (Text × Option Value)) : Prop :=
  ∀ name, values pairs name = values others name

variable {name : Text} {pairs : List (Text × Option Value)} {start : List (Text × Value)} {calls : List Call}

/-! ## The pairs that are written -/

theorem bindAll_eq_bindSome (b : Bindings) (pairs : List (Text × Value)) :
    b.bindAll pairs = b.bindSome (pairs.map withValue) := by
  unfold bindAll bindSome
  rw [List.foldl_map]
  rfl

/-- **A call binds what it writes**, whichever call it is. -/
theorem Call.apply_fst (call : Call) (b : Bindings) : (call.apply b).1 = b.bindSome call.pairs := by
  cases call with
  | bind name value => exact congrArg Prod.fst (tryBind_eq b name value)
  | chain name value => rfl
  | extend pairs => exact bindAll_eq_bindSome b pairs
  | params pairs => rfl

theorem run_cons (b : Bindings) (call : Call) (calls : List Call) :
    b.run (call :: calls) =
      (((call.apply b).1.run calls).1, (call.apply b).2 :: ((call.apply b).1.run calls).2) := rfl

/-- **A run binds what its calls write**, in the order of the calls. -/
theorem run_fst (b : Bindings) (calls : List Call) :
    (b.run calls).1 = b.bindSome (calls.flatMap Call.pairs) := by
  -- for any store, since every call hands its own to the next
  induction calls generalizing b with
  | nil => rfl
  | cons call calls ih => rw [run_cons, ih, call.apply_fst, List.flatMap_cons, bindSome_append]

theorem run_append (b : Bindings) (before after : List Call) :
    (b.run (before ++ after)).1 = ((b.run before).1.run after).1 := by
  rw [run_fst, run_fst, run_fst, List.flatMap_append, bindSome_append]

theorem answer_call (b : Bindings) (before : List Call) (call : Call) (after : List Call) :
    (b.run (before ++ call :: after)).2[before.length]? = some (call.apply (b.run before).1).2 := by
  induction before generalizing b with
  | nil => rfl
  | cons first before ih =>
    rw [List.cons_append, run_cons, run_cons, List.length_cons, List.getElem?_cons_succ, ih]

/-- A run on a collected store, with the collecting as its first write. -/
theorem run_ofPairs (start : List (Text × Value)) (calls : List Call) :
    ((ofPairs start).run calls).1 = bindSome NameMap.empty (written start calls) := by
  rw [run_fst, ofPairs, bindAll_eq_bindSome, written, bindSome_append]

theorem get?_run (start : List (Text × Value)) (calls : List Call) (name : Text) :
    ((ofPairs start).run calls).1.get? name = firstValue? (written start calls) name := by
  rw [run_ofPairs, get?_bindSome, NameMap.get?_empty, Option.none_or]

/-! ## The names that have a value -/

/-- The names that have a value in a list of pairs, as often as they have one. -/
def valued (pairs : List (Text × Option Value)) : List Text := (pairs.filter fun p => p.2.isSome).map (·.1)

theorem mem_valued_iff : name ∈ valued pairs ↔ (firstValue? pairs name).isSome = true := by
  rw [← Option.ne_none_iff_isSome, Ne, firstValue?_eq_none_iff, valued, List.mem_map]
  push Not
  refine exists_congr fun p => ?_
  rw [List.mem_filter, ← Option.ne_none_iff_isSome, and_assoc, and_comm (a := p.2 ≠ none)]

theorem size_run (start : List (Text × Value)) (calls : List Call) :
    ((ofPairs start).run calls).1.size = (valued (written start calls)).dedup.length := by
  have hperm : ((ofPairs start).run calls).1.names.Perm (valued (written start calls)).dedup := by
    refine (List.perm_ext_iff_of_nodup (NameMap.names_nodup _) (List.nodup_dedup _)).mpr fun name => ?_
    rw [NameMap.mem_names_iff, NameMap.contains, get?_run, List.mem_dedup, mem_valued_iff]
  rw [← hperm.length_eq, NameMap.names, List.length_map, NameMap.size]

/-! ## The answers -/

/-- **What a call inside a run answers**: the name takes the value unless a pair before has one for it. -/
theorem answer_bind (start : List (Text × Value)) (before : List Call) (name : Text) (value : Value)
    (after : List Call) :
    ∃ taken, ((ofPairs start).run (before ++ .bind name value :: after)).2[before.length]? = some (some taken) ∧
      (taken = true ↔ ∀ p ∈ written start before, p.1 = name → p.2 = none) ∧
      (taken = false →
        ((ofPairs start).run (before ++ [.bind name value])).1 = ((ofPairs start).run before).1) := by
  have hcontains :
      ((ofPairs start).run before).1.contains name = (firstValue? (written start before) name).isSome := by
    rw [NameMap.contains, get?_run]
  refine ⟨!((ofPairs start).run before).1.contains name, ?_, ?_, fun hfalse => ?_⟩
  · rw [answer_call, Call.apply, tryBind_eq]
  · rw [hcontains, Bool.not_eq_true', Option.isSome_eq_false_iff, Option.isNone_iff_eq_none,
      firstValue?_eq_none_iff]
  · have hbind := bind_of_contains ((Bool.not_eq_false' _).mp hfalse) value
    rw [run_append, run_cons, Call.apply, tryBind_eq]
    exact hbind

/-! ## Other orders -/

theorem firstValue?_eq_head? (pairs : List (Text × Option Value)) (name : Text) :
    firstValue? pairs name = (values pairs name).head? := List.head?_filterMap.symm

/-- Two neighbours with different names can change places. -/
theorem SameByName.swap {p q : Text × Option Value} (h : p.1 ≠ q.1)
    (before after : List (Text × Option Value)) :
    SameByName (before ++ p :: q :: after) (before ++ q :: p :: after) := by
  intro name
  unfold values
  rw [List.filterMap_append, List.filterMap_append]
  congr 1
  by_cases hp : p.1 = name
  · have hq : ¬ q.1 = name := fun hq => h (hp.trans hq.symm)
    simp [List.filterMap_cons, hp, hq]
  · simp [List.filterMap_cons, hp]

theorem run_eq_of_sameByName {start' : List (Text × Value)} {calls' : List Call}
    (h : SameByName (written start calls) (written start' calls')) :
    ((ofPairs start).run calls).1 = ((ofPairs start').run calls').1 :=
  NameMap.eq_of_get?_eq fun name => by
    rw [get?_run, get?_run, firstValue?_eq_head?, firstValue?_eq_head?, h name]

/-- **The first value of a name stays**, however the pairs are cut into calls. Every name has the first
value that is written for it, and nothing else is in the store; a call that answers says whether its value
is that one, and changes nothing otherwise; and when the pairs of different names are moved past each
other, the store is an equal one, with the same expansions and the same resolutions, in whatever order
each of the two lists its names. -/
theorem run_keeps_first_values (start : List (Text × Value)) (calls : List Call) :
    let b := ((ofPairs start).run calls).1
    (∀ name, b.get? name = firstValue? (written start calls) name) ∧
    b.size = (valued (written start calls)).dedup.length ∧
    (∀ before name value after, calls = before ++ .bind name value :: after →
      ∃ taken, ((ofPairs start).run calls).2[before.length]? = some (some taken) ∧
        (taken = true ↔ ∀ p ∈ written start before, p.1 = name → p.2 = none) ∧
        (taken = false →
          ((ofPairs start).run (before ++ [.bind name value])).1 = ((ofPairs start).run before).1)) ∧
    ∀ start' calls', SameByName (written start calls) (written start' calls') →
      let b' := ((ofPairs start').run calls').1
      b = b' ∧ (∀ t : Template, t.expand b = t.expand b') ∧
        ∀ (s : LinkSet) (resource : Text) (names names' : List Text), names.Perm b.names →
          names'.Perm b'.names → s.resolveListed resource b names = s.resolveListed resource b' names' := by
  refine ⟨get?_run start calls, size_run start calls, ?_, fun start' calls' hsame => ?_⟩
  · rintro before name value after rfl
    exact answer_bind start before name value after
  · have hequal := run_eq_of_sameByName hsame
    refine ⟨hequal, fun t => by rw [hequal], fun s resource names names' hnames hnames' => ?_⟩
    rw [LinkSet.resolveListed_eq_resolve hnames, LinkSet.resolveListed_eq_resolve hnames', hequal]

/-- A parameter without a value, and a second value that comes too late; then the same pairs through other
calls, with two of them moved past each other. -/
theorem run_keeps_first_values_rebound :
    let calls : List Call :=
      [.params [(['a'], none), (['b'], some (.scalar ['1']))], .bind ['a'] (.scalar ['2']),
        .bind ['a'] (.scalar ['3'])]
    let calls' : List Call := [.params [(['a'], none)], .chain ['a'] (.scalar ['2']),
      .extend [(['b'], .scalar ['1']), (['a'], .scalar ['3'])]]
    let b := ((ofPairs []).run calls).1
    let b' := ((ofPairs []).run calls').1
    let s := LinkSet.ofList [(['r'], ⟨⟨['/', '{', 'c', '}']⟩, true⟩)]
    b.get? ['a'] = some (.scalar ['2']) ∧ b.size = 2 ∧
      ((ofPairs []).run calls).2[1]? = some (some true) ∧ ((ofPairs []).run calls).2[2]? = some (some false) ∧
      b = b' ∧ s.resolveListed ['r'] b [['b'], ['a']] = s.resolveListed ['r'] b' [['a'], ['b']] := by
  intro calls calls' b b' s
  have hsame : SameByName (written [] calls) (written [] calls') :=
    SameByName.swap (p := (['b'], some (.scalar ['1']))) (q := (['a'], some (.scalar ['2'])))
      (by decide) [(['a'], none)] [(['a'], some (.scalar ['3']))]
  obtain ⟨hget, hsize, hanswers, horders⟩ := run_keeps_first_values [] calls
  obtain ⟨taken, hfirst, htaken, -⟩ := hanswers [_] ['a'] (.scalar ['2']) [_] rfl
  obtain ⟨taken', hsecond, htaken', -⟩ := hanswers [_, _] ['a'] (.scalar ['3']) [] rfl
  obtain ⟨hequal, -, hresolve⟩ := horders [] calls' hsame
  have htrue : taken = true := htaken.mpr (by decide)
  have hfalse : taken' = false := Bool.eq_false_iff.mpr fun h => absurd (htaken'.mp h) (by decide)
  refine ⟨hget ['a'], hsize, ?_, ?_, hequal, hresolve s ['r'] _ _ (by decide) (by decide)⟩
  · rw [← htrue]
    exact hfirst
  · rw [← hfalse]
    exact hsecond

end ApiLinks.Bindings
