import Isomdl.Decoding
import Isomdl.Definitions.IssuerSigned
import Isomdl.Lib.Calendar
import Isomdl.Lib.Extremes
import Isomdl.Namespaces.Elements
import Mathlib.Data.List.Infix

/-!
# The nearest age attestation (`presentation/device.rs`)

A request for `age_over_NN` is answered with the nearest `age_over_MM`.  The search takes every
identifier that contains `age_over` and that parses for such an element, and every value but `true`
for `false`.

* `nearestAgeAttestation_eq`           the search, where all identifiers parse;
* `Nearest`, `Nearest.unique`          the element that the standard asks for;
* `nearestAgeAttestation_exact_iff`    when the search finds it;
* `nearestAgeAttestation_unaffected`   then nothing but the attestations decides it;
* `lookalikes`                         three maps in which it does not find it.
-/

set_option linter.unusedSectionVars false

namespace Isomdl

namespace Device

open Cbor Extremes

/-! ## identifiers -/

/-- the kinds of `ParseIntError` that `str::parse::<u8>` has -/
inductive ParseIntError where
  | empty
  | invalidDigit
  | posOverflow
  deriving DecidableEq, Repr

/-- the variants of `Error` for age attestations -/
inductive AgeError where
  | ParsingError (e : ParseIntError)
  | PrefixError
  deriving DecidableEq, Repr

/-- the digits of a `u8`, from the value of those before them -/
def readU8 (n : Nat) : List Char → Except ParseIntError Nat
  | [] => .ok n
  | c :: l =>
    if c.isDigit then
      if 10 * n + (c.toNat - 48) ≤ 255 then readU8 (10 * n + (c.toNat - 48)) l
      else .error .posOverflow
    else .error .invalidDigit

/-- `str::parse::<u8>` -/
def parseU8 (s : String) : Except ParseIntError Nat :=
  match s.toList with
  | [] => .error .empty
  | ['+'] => .error .invalidDigit
  | '+' :: l => readU8 0 l
  | l => readU8 0 l

/-- `parse_age_from_element_identifier`, with `AgeOver::try_from` -/
def parseAgeFromElementIdentifier (elementIdentifier : String) : Except AgeError Nat :=
  match stripPrefix "age_over_" elementIdentifier with
  | some x => (parseU8 x).mapError .ParsingError
  | none => .error .PrefixError

/-- `element.0.contains("age_over")` -/
def ContainsAgeOver (elementIdentifier : String) : Prop :=
  "age_over".toList <:+: elementIdentifier.toList

instance (k : String) : Decidable (ContainsAgeOver k) :=
  inferInstanceAs (Decidable ("age_over".toList <:+: k.toList))

/-! ## the search -/

abbrev IssuerItems := NonEmptyMap String IssuerSignedItemBytes

/-- the value is `true` -/
def IsTrue (item : IssuerSignedItemBytes) : Prop := item.inner.elementValue = .bool true

instance (item : IssuerSignedItemBytes) : Decidable (IsTrue item) :=
  inferInstanceAs (Decidable (item.inner.elementValue = .bool true))

/-- an element with its age -/
def withAge (f : String × IssuerSignedItemBytes) : Except AgeError (Nat × IssuerSignedItemBytes) := do
  let age ← parseAgeFromElementIdentifier f.1
  .ok (age, f.2)

/-- `nearest_age_over`, and where there is none `nearest_age_under` -/
def nearestOf (requestedAge : Nat) (claims : List (Nat × IssuerSignedItemBytes)) :
    Option IssuerSignedItemBytes :=
  let trueAgeOverClaims := claims.filter fun x => IsTrue x.2
  let falseAgeOverClaims := claims.filter fun x => ¬ IsTrue x.2
  let nearestAgeOver := minByKey Prod.fst (trueAgeOverClaims.filter fun f => requestedAge ≤ f.1)
  let nearestAgeUnder := maxByKey Prod.fst (falseAgeOverClaims.filter fun f => f.1 ≤ requestedAge)
  (nearestAgeOver.or nearestAgeUnder).map Prod.snd

/-- `nearest_age_attestation` -/
def nearestAgeAttestation (elementIdentifier : String) (issuerItems : IssuerItems) :
    Except AgeError (Option IssuerSignedItemBytes) := do
  let requestedAge ← parseAgeFromElementIdentifier elementIdentifier
  let ownedAgeOverClaims := issuerItems.toMap.toList.filter fun element => ContainsAgeOver element.1
  let ageOverClaimsNumerical ← ownedAgeOverClaims.mapM withAge
  .ok (nearestOf requestedAge ageOverClaimsNumerical)

/-! ## what the standard asks for -/

/-- the number of two digits -/
def ageNumber (a : Age) : Nat := 10 * (a.first.toNat - 48) + (a.second.toNat - 48)

variable {items : IssuerItems} {nn a : Age} {item : IssuerSignedItemBytes} {k : String}

/-- an element `age_over_MM` with a boolean value -/
def Attests (items : IssuerItems) (b : Bool) (a : Age) (item : IssuerSignedItemBytes) : Prop :=
  items.toMap[AgeOver.name a]? = some item ∧ item.inner.elementValue = .bool b

/-- `true`, and the least `MM` that is at least `NN` -/
def LeastOver (items : IssuerItems) (nn : Age) (item : IssuerSignedItemBytes) : Prop :=
  ∃ a, Attests items true a item ∧ ageNumber nn ≤ ageNumber a ∧
    ∀ a' item', Attests items true a' item' → ageNumber nn ≤ ageNumber a' →
      ageNumber a ≤ ageNumber a'

/-- `false`, and the greatest `MM` that is at most `NN` -/
def GreatestUnder (items : IssuerItems) (nn : Age) (item : IssuerSignedItemBytes) : Prop :=
  ∃ a, Attests items false a item ∧ ageNumber a ≤ ageNumber nn ∧
    ∀ a' item', Attests items false a' item' → ageNumber a' ≤ ageNumber nn →
      ageNumber a' ≤ ageNumber a

def SomeOver (items : IssuerItems) (nn : Age) : Prop :=
  ∃ a item, Attests items true a item ∧ ageNumber nn ≤ ageNumber a

def SomeUnder (items : IssuerItems) (nn : Age) : Prop :=
  ∃ a item, Attests items false a item ∧ ageNumber a ≤ ageNumber nn

/-- the answer to a request for `age_over_NN` -/
inductive Nearest (items : IssuerItems) (nn : Age) : Option IssuerSignedItemBytes → Prop where
  | least (item : IssuerSignedItemBytes) : LeastOver items nn item → Nearest items nn (some item)
  | greatest (item : IssuerSignedItemBytes) : ¬ SomeOver items nn → GreatestUnder items nn item →
      Nearest items nn (some item)
  | none : ¬ SomeOver items nn → ¬ SomeUnder items nn → Nearest items nn none

theorem parseAge_name (a : Age) : parseAgeFromElementIdentifier (AgeOver.name a) = .ok (ageNumber a) := by
  obtain ⟨first, second, hfirst, hsecond⟩ := a
  have h₁ := Calendar.toNat_of_isDigit hfirst
  have h₂ := Calendar.toNat_of_isDigit hsecond
  have hread : readU8 0 [first, second] =
      .ok (10 * (first.toNat - 48) + (second.toNat - 48)) := by
    rw [readU8, if_pos hfirst, if_pos (by omega), readU8, if_pos hsecond, if_pos (by omega), readU8]
    congr 1
    omega
  have hparse : parseU8 (String.ofList [first, second]) = readU8 0 [first, second] := by
    have hplus : first ≠ '+' := by
      rintro rfl
      cases hfirst
    rw [parseU8, String.toList_ofList]
    split
    · next h => cases h
    · next h => cases h
    · next l h =>
      cases h
      exact absurd rfl hplus
    · rfl
  rw [parseAgeFromElementIdentifier, AgeOver.name, stripPrefix_append]
  show (parseU8 (String.ofList [first, second])).mapError AgeError.ParsingError = _
  rw [hparse, hread]
  rfl

theorem containsAgeOver_of_parse {n : Nat} (h : parseAgeFromElementIdentifier k = .ok n) :
    ContainsAgeOver k := by
  rw [parseAgeFromElementIdentifier] at h
  split at h
  · next x hx =>
    rw [ContainsAgeOver, ← stripPrefix_eq_some.mp hx, String.toList_append]
    exact (List.IsPrefix.isInfix (by decide)).trans (List.prefix_append _ _).isInfix
  · cases h

/-! ## candidates -/

/-- the age that an identifier is read with -/
def age (e : String × IssuerSignedItemBytes) : Nat :=
  (parseAgeFromElementIdentifier e.1).toOption.getD 0

def Parses (k : String) : Prop := (parseAgeFromElementIdentifier k).isOk = true

instance (k : String) : Decidable (Parses k) :=
  inferInstanceAs (Decidable ((parseAgeFromElementIdentifier k).isOk = true))

/-- what the search sees as true from `NN` on, in the order of the map -/
def overs (items : IssuerItems) (nn : Age) : List (String × IssuerSignedItemBytes) :=
  items.toMap.toList.filter fun e => Parses e.1 ∧ IsTrue e.2 ∧ ageNumber nn ≤ age e

/-- what the search sees as false up to `NN` -/
def unders (items : IssuerItems) (nn : Age) : List (String × IssuerSignedItemBytes) :=
  items.toMap.toList.filter fun e => Parses e.1 ∧ ¬ IsTrue e.2 ∧ age e ≤ ageNumber nn

theorem parses_iff : Parses k ↔ ∃ n, parseAgeFromElementIdentifier k = .ok n := by
  rw [Parses]
  cases parseAgeFromElementIdentifier k with
  | error e => simp [Except.isOk, Except.toBool]
  | ok n => simp [Except.isOk, Except.toBool]

theorem parses_name (a : Age) : Parses (AgeOver.name a) := parses_iff.mpr ⟨_, parseAge_name a⟩

theorem age_name (a : Age) (item : IssuerSignedItemBytes) : age (AgeOver.name a, item) = ageNumber a := by
  rw [age, parseAge_name]
  rfl

/-- the search counts the element as true from `NN` on -/
def CountsOver (items : IssuerItems) (nn : Age) (e : String × IssuerSignedItemBytes) : Prop :=
  items.toMap[e.1]? = some e.2 ∧ Parses e.1 ∧ IsTrue e.2 ∧ ageNumber nn ≤ age e

/-- the search counts the element as false up to `NN` -/
def CountsUnder (items : IssuerItems) (nn : Age) (e : String × IssuerSignedItemBytes) : Prop :=
  items.toMap[e.1]? = some e.2 ∧ Parses e.1 ∧ ¬ IsTrue e.2 ∧ age e ≤ ageNumber nn

/-- it comes before the other by age and, at one age, by identifier -/
def Before (e e' : String × IssuerSignedItemBytes) : Prop :=
  age e < age e' ∨ age e = age e' ∧ compare e.1 e'.1 = .lt

theorem mem_overs {e : String × IssuerSignedItemBytes} :
    e ∈ overs items nn ↔ CountsOver items nn e := by
  rw [overs, List.mem_filter, decide_eq_true_eq, CountsOver, ← BTreeMap.mem_toList]

theorem mem_unders {e : String × IssuerSignedItemBytes} :
    e ∈ unders items nn ↔ CountsUnder items nn e := by
  rw [unders, List.mem_filter, decide_eq_true_eq, CountsUnder, ← BTreeMap.mem_toList]

theorem overs_ordered : (overs items nn).Pairwise fun e e' => compare e.1 e'.1 = .lt :=
  List.Pairwise.sublist List.filter_sublist Std.ExtTreeMap.ordered_keys_toList

theorem unders_ordered : (unders items nn).Pairwise fun e e' => compare e.1 e'.1 = .lt :=
  List.Pairwise.sublist List.filter_sublist Std.ExtTreeMap.ordered_keys_toList

theorem Before.irrefl (e : String × IssuerSignedItemBytes) : ¬ Before e e := by
  rintro (h | ⟨-, h⟩)
  · exact lt_irrefl _ h
  · rw [Std.compare_self] at h
    cases h

theorem Before.asymm {e e' : String × IssuerSignedItemBytes} (h : Before e e') : ¬ Before e' e := by
  rintro (h' | ⟨heq', hlt'⟩)
  · rcases h with h | ⟨heq, -⟩
    · exact lt_asymm h h'
    · exact absurd heq (ne_of_gt h')
  · rcases h with h | ⟨-, hlt⟩
    · exact absurd heq' (ne_of_gt h)
    · rw [Std.OrientedCmp.gt_of_lt hlt] at hlt'
      cases hlt'

theorem Attests.mem_overs (h : Attests items true a item) (hage : ageNumber nn ≤ ageNumber a) :
    (AgeOver.name a, item) ∈ overs items nn :=
  Device.mem_overs.mpr ⟨h.1, parses_name a, h.2, by rw [age_name]; exact hage⟩

theorem Attests.mem_unders (h : Attests items false a item) (hage : ageNumber a ≤ ageNumber nn) :
    (AgeOver.name a, item) ∈ unders items nn := by
  refine Device.mem_unders.mpr ⟨h.1, parses_name a, ?_, by rw [age_name]; exact hage⟩
  intro htrue
  rw [IsTrue, h.2] at htrue
  cases htrue

/-! ## the search, where all identifiers parse -/

theorem mapM_withAge {l : List (String × IssuerSignedItemBytes)} (h : ∀ e ∈ l, Parses e.1) :
    l.mapM withAge = .ok (l.map fun e => (age e, e.2)) := by
  induction l with
  | nil => rfl
  | cons e l ih =>
    obtain ⟨hhead, htail⟩ := List.forall_mem_cons.mp h
    obtain ⟨n, hn⟩ := parses_iff.mp hhead
    have hage : withAge e = .ok (age e, e.2) := by
      rw [withAge, age, hn]
      rfl
    rw [List.mapM_cons, hage, ok_bind, ih htail]
    rfl

theorem parses_of_mapM {l : List (String × IssuerSignedItemBytes)}
    {claims : List (Nat × IssuerSignedItemBytes)} (h : l.mapM withAge = .ok claims) :
    ∀ e ∈ l, Parses e.1 := by
  induction l generalizing claims with
  | nil => exact fun e he => absurd he List.not_mem_nil
  | cons e l ih =>
    rw [List.mapM_cons] at h
    obtain ⟨claim, hclaim, h⟩ := bind_eq_ok h
    obtain ⟨rest, hrest, -⟩ := bind_eq_ok h
    obtain ⟨n, hn, -⟩ := bind_eq_ok hclaim
    exact List.forall_mem_cons.mpr ⟨parses_iff.mpr ⟨n, hn⟩, ih hrest⟩

/-- every identifier that contains `age_over` parses -/
def AllParse (items : IssuerItems) : Prop := ∀ k ∈ items.toMap, ContainsAgeOver k → Parses k

/-- the search among the elements that parse -/
theorem nearestOf_claims (l : List (String × IssuerSignedItemBytes)) (n : Nat) :
    nearestOf n ((l.filter fun e => Parses e.1).map fun e => (age e, e.2)) =
      ((minByKey age (l.filter fun e => Parses e.1 ∧ IsTrue e.2 ∧ n ≤ age e)).or
        (maxByKey age (l.filter fun e => Parses e.1 ∧ ¬ IsTrue e.2 ∧ age e ≤ n))).map Prod.snd := by
  have hmin (l : List (String × IssuerSignedItemBytes)) :
      minByKey Prod.fst (l.map fun e => (age e, e.2)) =
        (minByKey age l).map fun e => (age e, e.2) := pick_map l
  have hmax (l : List (String × IssuerSignedItemBytes)) :
      maxByKey Prod.fst (l.map fun e => (age e, e.2)) =
        (maxByKey age l).map fun e => (age e, e.2) := pick_map l
  have hfilter (q : IssuerSignedItemBytes → Prop) [DecidablePred q] (r : Nat → Prop)
      [DecidablePred r] : ((((l.filter fun e => Parses e.1).map fun e => (age e, e.2)).filter
        fun x => q x.2).filter fun f => r f.1) =
          (l.filter fun e => Parses e.1 ∧ q e.2 ∧ r (age e)).map fun e => (age e, e.2) := by
    rw [List.filter_map, List.filter_map, List.filter_filter, List.filter_filter]
    congr 1
    refine List.filter_congr fun e _ => ?_
    simp [Bool.and_comm]
  simp only [nearestOf]
  rw [hfilter IsTrue fun m => n ≤ m, hfilter (fun item => ¬ IsTrue item) fun m => m ≤ n, hmin, hmax,
    ← Option.map_or, Option.map_map]
  rfl

/-- **The search, where all identifiers parse.** -/
theorem nearestAgeAttestation_eq (h : AllParse items) :
    nearestAgeAttestation (AgeOver.name nn) items =
      .ok (((minByKey age (overs items nn)).or (maxByKey age (unders items nn))).map Prod.snd) := by
  have howned : ∀ e ∈ items.toMap.toList, ContainsAgeOver e.1 ↔ Parses e.1 := by
    intro e he
    constructor
    · exact h e.1 (BTreeMap.mem_iff_getElem?.mpr ⟨e.2, BTreeMap.mem_toList.mp he⟩)
    · intro hparses
      obtain ⟨n, hn⟩ := parses_iff.mp hparses
      exact containsAgeOver_of_parse hn
  have hfilter : (items.toMap.toList.filter fun e => ContainsAgeOver e.1) =
      items.toMap.toList.filter fun e => Parses e.1 :=
    List.filter_congr fun e he => by rw [decide_eq_decide]; exact howned e he
  have hclaims := mapM_withAge (l := items.toMap.toList.filter fun e => Parses e.1)
    fun e he => by simpa using (List.mem_filter.mp he).2
  rw [nearestAgeAttestation, parseAge_name, ok_bind]
  simp only [hfilter, hclaims, ok_bind]
  rw [nearestOf_claims]
  rfl

/-! ## when the search is exact -/

/-- The identifiers that contain `age_over` parse.  An element that the search counts and that is
no `age_over_MM` with a boolean value is not nearer to `NN` than an element with the item of the
nearest one that is. -/
structure Undisturbed (items : IssuerItems) (nn : Age) : Prop where
  parses : AllParse items
  least : ∀ e, CountsOver items nn e → AgeOver.key e.1 = none →
    ∃ e', CountsOver items nn e' ∧ LeastOver items nn e'.2 ∧ ¬ Before e e'
  greatest : ¬ SomeOver items nn → ∀ e, CountsUnder items nn e →
    AgeOver.key e.1 = none ∨ e.2.inner.elementValue ≠ .bool false →
    ∃ e', CountsUnder items nn e' ∧ GreatestUnder items nn e'.2 ∧ ¬ Before e' e

theorem minByKey_eq_none {l : List (String × IssuerSignedItemBytes)} (h : minByKey age l = none) :
    l = [] := pick_eq_none_iff.mp h

theorem not_someOver (h : overs items nn = []) : ¬ SomeOver items nn := by
  rintro ⟨a, item, hattests, hage⟩
  have hmem := hattests.mem_overs hage
  rw [h] at hmem
  cases hmem

theorem not_someUnder (h : unders items nn = []) : ¬ SomeUnder items nn := by
  rintro ⟨a, item, hattests, hage⟩
  have hmem := hattests.mem_unders hage
  rw [h] at hmem
  cases hmem

theorem leastOver_of_key {e : String × IssuerSignedItemBytes}
    (h : FirstLeast age (overs items nn) e) (hkey : AgeOver.key e.1 = some a) :
    LeastOver items nn e.2 := by
  obtain ⟨k, item⟩ := e
  obtain rfl := AgeOver.key_eq_some.mp hkey
  obtain ⟨hget, -, htrue, hage⟩ := mem_overs.mp h.mem
  rw [age_name] at hage
  refine ⟨a, ⟨hget, htrue⟩, hage, fun a' item' hattests hage' => ?_⟩
  have hle := h.le (hattests.mem_overs hage')
  rw [age_name, age_name] at hle
  exact hle

theorem greatestUnder_of_key {e : String × IssuerSignedItemBytes}
    (h : LastGreatest age (unders items nn) e) (hkey : AgeOver.key e.1 = some a)
    (hfalse : e.2.inner.elementValue = .bool false) : GreatestUnder items nn e.2 := by
  obtain ⟨k, item⟩ := e
  obtain rfl := AgeOver.key_eq_some.mp hkey
  obtain ⟨hget, -, -, hage⟩ := mem_unders.mp h.mem
  rw [age_name] at hage
  refine ⟨a, ⟨hget, hfalse⟩, hage, fun a' item' hattests hage' => ?_⟩
  have hle := h.le (hattests.mem_unders hage')
  rw [age_name, age_name] at hle
  exact hle

/-- an item has one value -/
theorem not_greatestUnder (h : IsTrue item) : ¬ GreatestUnder items nn item := by
  rintro ⟨a, hattests, -⟩
  rw [IsTrue, hattests.2] at h
  cases h

theorem LeastOver.someOver (h : LeastOver items nn item) : SomeOver items nn := by
  obtain ⟨a, hattests, hage, -⟩ := h
  exact ⟨a, item, hattests, hage⟩

section
variable {e p : String × IssuerSignedItemBytes}

theorem eq_of_firstLeast (hp : FirstLeast age (overs items nn) p) (he : CountsOver items nn e)
    (h : ¬ Before p e) : e = p := by
  by_contra hne
  exact h (hp.before overs_ordered (mem_overs.mpr he) hne)

theorem not_before_firstLeast (hp : FirstLeast age (overs items nn) p)
    (he : CountsOver items nn e) : ¬ Before e p := by
  by_cases heq : e = p
  · rw [heq]
    exact Before.irrefl p
  · exact (show Before p e from hp.before overs_ordered (mem_overs.mpr he) heq).asymm

theorem eq_of_lastGreatest (hp : LastGreatest age (unders items nn) p)
    (he : CountsUnder items nn e) (h : ¬ Before e p) : e = p := by
  by_contra hne
  exact h (hp.after unders_ordered (mem_unders.mpr he) hne)

theorem lastGreatest_not_before (hp : LastGreatest age (unders items nn) p)
    (he : CountsUnder items nn e) : ¬ Before p e := by
  by_cases heq : e = p
  · rw [heq]
    exact Before.irrefl p
  · exact (show Before e p from hp.after unders_ordered (mem_unders.mpr he) heq).asymm

theorem exists_firstLeast (he : CountsOver items nn e) :
    ∃ p, minByKey age (overs items nn) = some p := by
  apply Option.ne_none_iff_exists'.mp
  intro hnone
  have hmem := mem_overs.mpr he
  rw [minByKey_eq_none hnone] at hmem
  cases hmem

theorem exists_lastGreatest (he : CountsUnder items nn e) :
    ∃ p, maxByKey age (unders items nn) = some p := by
  apply Option.ne_none_iff_exists'.mp
  intro hnone
  have hmem := mem_unders.mpr he
  rw [pick_eq_none_iff.mp hnone] at hmem
  cases hmem

end

theorem nearest_of_undisturbed (h : Undisturbed items nn) :
    Nearest items nn (((minByKey age (overs items nn)).or
      (maxByKey age (unders items nn))).map Prod.snd) := by
  cases hover : minByKey age (overs items nn) with
  | some p =>
    have hfirst := minByKey_eq_some_iff.mp hover
    refine .least p.2 ?_
    cases hkey : AgeOver.key p.1 with
    | none =>
      obtain ⟨e, he, hleast, hbefore⟩ := h.least p (mem_overs.mp hfirst.mem) hkey
      rw [← eq_of_firstLeast hfirst he hbefore]
      exact hleast
    | some a => exact leastOver_of_key hfirst hkey
  | none =>
    have hnone := not_someOver (minByKey_eq_none hover)
    cases hunder : maxByKey age (unders items nn) with
    | none => exact .none hnone (not_someUnder (pick_eq_none_iff.mp hunder))
    | some p =>
      have hlast := maxByKey_eq_some_iff.mp hunder
      refine .greatest p.2 hnone ?_
      by_cases hstray : AgeOver.key p.1 = none ∨ p.2.inner.elementValue ≠ .bool false
      · obtain ⟨e, he, hgreatest, hbefore⟩ := h.greatest hnone p (mem_unders.mp hlast.mem) hstray
        rw [← eq_of_lastGreatest hlast he hbefore]
        exact hgreatest
      · rw [not_or, not_not] at hstray
        obtain ⟨a, hkey⟩ := Option.ne_none_iff_exists'.mp hstray.1
        exact greatestUnder_of_key hlast hkey hstray.2

/-- an element that the search counts makes it find the least one -/
theorem leastOver_of_nearest {e : String × IssuerSignedItemBytes} (he : CountsOver items nn e)
    (h : Nearest items nn (((minByKey age (overs items nn)).or
      (maxByKey age (unders items nn))).map Prod.snd)) :
    ∃ e', CountsOver items nn e' ∧ LeastOver items nn e'.2 ∧ ¬ Before e e' := by
  obtain ⟨p, hp⟩ := exists_firstLeast he
  rw [hp] at h
  have hfirst := minByKey_eq_some_iff.mp hp
  have hcounts := mem_overs.mp hfirst.mem
  have hleast : LeastOver items nn p.2 := by
    cases h with
    | least _ h => exact h
    | greatest _ _ h => exact absurd h (not_greatestUnder hcounts.2.2.1)
  exact ⟨p, hcounts, hleast, not_before_firstLeast hfirst he⟩

theorem undisturbed_of_nearest (hparses : AllParse items)
    (h : Nearest items nn (((minByKey age (overs items nn)).or
      (maxByKey age (unders items nn))).map Prod.snd)) : Undisturbed items nn := by
  refine ⟨hparses, fun e he _ => leastOver_of_nearest he h, fun hnone e he _ => ?_⟩
  have hover : minByKey age (overs items nn) = none := by
    by_contra hsome
    obtain ⟨p, hp⟩ := Option.ne_none_iff_exists'.mp hsome
    obtain ⟨e', -, hleast, -⟩ :=
      leastOver_of_nearest (mem_overs.mp (minByKey_eq_some_iff.mp hp).mem) h
    exact hnone hleast.someOver
  obtain ⟨p, hp⟩ := exists_lastGreatest he
  rw [hover, hp] at h
  have hlast := maxByKey_eq_some_iff.mp hp
  have hgreatest : GreatestUnder items nn p.2 := by
    cases h with
    | least _ h => exact absurd h.someOver hnone
    | greatest _ _ h => exact h
  exact ⟨p, mem_unders.mp hlast.mem, hgreatest, lastGreatest_not_before hlast he⟩

/-- **The search finds the nearest attestation exactly when nothing disturbs it.** -/
theorem nearestAgeAttestation_exact_iff (nn : Age) (items : IssuerItems) :
    (∃ o, nearestAgeAttestation (AgeOver.name nn) items = .ok o ∧ Nearest items nn o) ↔
      Undisturbed items nn := by
  constructor
  · rintro ⟨o, hsearch, hnearest⟩
    have hparses : AllParse items := by
      intro k hk hcontains
      obtain ⟨item, hget⟩ := BTreeMap.mem_iff_getElem?.mp hk
      rw [nearestAgeAttestation, parseAge_name, ok_bind] at hsearch
      obtain ⟨claims, hclaims, -⟩ := bind_eq_ok hsearch
      refine parses_of_mapM hclaims (k, item) (List.mem_filter.mpr ⟨?_, ?_⟩)
      · exact BTreeMap.mem_toList.mpr hget
      · exact decide_eq_true hcontains
    rw [nearestAgeAttestation_eq hparses] at hsearch
    cases hsearch
    exact undisturbed_of_nearest hparses hnearest
  · intro h
    exact ⟨_, nearestAgeAttestation_eq h.parses, nearest_of_undisturbed h⟩

/-! ## the answer is one, and the attestations alone decide it -/

theorem ageNumber_inj {a b : Age} (h : ageNumber a = ageNumber b) : a = b := by
  obtain ⟨a₁, a₂, ha₁, ha₂⟩ := a
  obtain ⟨b₁, b₂, hb₁, hb₂⟩ := b
  have h₁ := Calendar.toNat_of_isDigit ha₁
  have h₂ := Calendar.toNat_of_isDigit ha₂
  have h₃ := Calendar.toNat_of_isDigit hb₁
  have h₄ := Calendar.toNat_of_isDigit hb₂
  have hsum : 10 * (a₁.toNat - 48) + (a₂.toNat - 48) = 10 * (b₁.toNat - 48) + (b₂.toNat - 48) := h
  have hfirst : a₁ = b₁ := Char.toNat_inj.mp (by omega)
  have hsecond : a₂ = b₂ := Char.toNat_inj.mp (by omega)
  subst hfirst hsecond
  rfl

theorem GreatestUnder.someUnder (h : GreatestUnder items nn item) : SomeUnder items nn := by
  obtain ⟨a, hattests, hage, -⟩ := h
  exact ⟨a, item, hattests, hage⟩

theorem LeastOver.unique {item' : IssuerSignedItemBytes} (h : LeastOver items nn item)
    (h' : LeastOver items nn item') : item = item' := by
  obtain ⟨a, hattests, hage, hleast⟩ := h
  obtain ⟨a', hattests', hage', hleast'⟩ := h'
  have heq : a = a' := ageNumber_inj
    (le_antisymm (hleast a' item' hattests' hage') (hleast' a item hattests hage))
  subst heq
  exact Option.some.inj (hattests.1.symm.trans hattests'.1)

theorem GreatestUnder.unique {item' : IssuerSignedItemBytes} (h : GreatestUnder items nn item)
    (h' : GreatestUnder items nn item') : item = item' := by
  obtain ⟨a, hattests, hage, hgreatest⟩ := h
  obtain ⟨a', hattests', hage', hgreatest'⟩ := h'
  have heq : a = a' := ageNumber_inj
    (le_antisymm (hgreatest' a item hattests hage) (hgreatest a' item' hattests' hage'))
  subst heq
  exact Option.some.inj (hattests.1.symm.trans hattests'.1)

theorem Nearest.unique {o o' : Option IssuerSignedItemBytes} (h : Nearest items nn o)
    (h' : Nearest items nn o') : o = o' := by
  cases h with
  | least item hover =>
    cases h' with
    | least item' hover' => rw [hover.unique hover']
    | greatest _ hnone _ => exact absurd hover.someOver hnone
    | none hnone _ => exact absurd hover.someOver hnone
  | greatest item hnone hunder =>
    cases h' with
    | least _ hover' => exact absurd hover'.someOver hnone
    | greatest item' _ hunder' => rw [hunder.unique hunder']
    | none _ hnone' => exact absurd hunder.someUnder hnone'
  | none hnone hnone' =>
    cases h' with
    | least _ hover' => exact absurd hover'.someOver hnone
    | greatest _ _ hunder' => exact absurd hunder'.someUnder hnone'
    | none _ _ => rfl

theorem Nearest.congr {items' : IssuerItems} {o : Option IssuerSignedItemBytes}
    (hsame : ∀ b a item, Attests items b a item ↔ Attests items' b a item) (h : Nearest items nn o) :
    Nearest items' nn o := by
  have hover : SomeOver items nn ↔ SomeOver items' nn := by simp only [SomeOver, hsame]
  have hunder : SomeUnder items nn ↔ SomeUnder items' nn := by simp only [SomeUnder, hsame]
  cases h with
  | least item h => exact .least item (by simpa only [LeastOver, hsame] using h)
  | greatest item hnone h =>
    exact .greatest item (fun h' => hnone (hover.mpr h')) (by simpa only [GreatestUnder, hsame] using h)
  | none hnone hnone' =>
    exact .none (fun h' => hnone (hover.mpr h')) fun h' => hnone' (hunder.mpr h')

/-- **Maps with the same attestations have the same answer**, where nothing disturbs the search. -/
theorem nearestAgeAttestation_unaffected {items' : IssuerItems} (h : Undisturbed items nn)
    (h' : Undisturbed items' nn)
    (hsame : ∀ b a item, Attests items b a item ↔ Attests items' b a item) :
    nearestAgeAttestation (AgeOver.name nn) items = nearestAgeAttestation (AgeOver.name nn) items' := by
  rw [nearestAgeAttestation_eq h.parses, nearestAgeAttestation_eq h'.parses,
    ((nearest_of_undisturbed h).congr hsame).unique (nearest_of_undisturbed h')]

/-! ### elements that disturb it -/

/-- an item with a value -/
def sampleAge (elementIdentifier : String) (value : Value) : IssuerSignedItemBytes :=
  ⟨⟨⟨1⟩, ⟨[1, 2]⟩, elementIdentifier, value⟩, []⟩

/-- `age_over_18`, which is not so, and another element -/
def withOther (elementIdentifier : String) (value : Value) : IssuerItems :=
  (NonEmptyMap.new "age_over_18" (sampleAge "age_over_18" (.bool false))).insert elementIdentifier
    (sampleAge elementIdentifier value)

theorem isDigit_twentyFive : '2'.isDigit = true ∧ '5'.isDigit = true := by decide

def twentyFive : Age := ⟨'2', '5', isDigit_twentyFive⟩

/-- An identifier that only contains `age_over` and one without a number stop the search, and a
value that is no boolean counts as `false`. -/
theorem lookalikes :
    nearestAgeAttestation (AgeOver.name twentyFive) (withOther "my_age_over_18" (.bool true)) =
        .error .PrefixError ∧
      nearestAgeAttestation (AgeOver.name twentyFive) (withOther "age_over_xx" (.bool true)) =
        .error (.ParsingError .invalidDigit) ∧
      nearestAgeAttestation (AgeOver.name twentyFive) (withOther "age_over_21" (.text "no")) =
        .ok (some (sampleAge "age_over_21" (.text "no"))) ∧
      ∀ items ∈ [withOther "my_age_over_18" (.bool true), withOther "age_over_xx" (.bool true),
          withOther "age_over_21" (.text "no")],
        ¬ ∃ o, nearestAgeAttestation (AgeOver.name twentyFive) items = .ok o ∧
          Nearest items twentyFive o := by
  have hcontains : nearestAgeAttestation (AgeOver.name twentyFive)
      (withOther "my_age_over_18" (.bool true)) = .error .PrefixError := by decide +kernel
  have hparse : nearestAgeAttestation (AgeOver.name twentyFive)
      (withOther "age_over_xx" (.bool true)) = .error (.ParsingError .invalidDigit) := by
    decide +kernel
  have htext : nearestAgeAttestation (AgeOver.name twentyFive)
      (withOther "age_over_21" (.text "no")) =
        .ok (some (sampleAge "age_over_21" (.text "no"))) := by decide +kernel
  refine ⟨hcontains, hparse, htext, ?_⟩
  simp only [List.forall_mem_cons, List.not_mem_nil, false_imp_iff, implies_true, and_true]
  refine ⟨?_, ?_, ?_⟩
  · rintro ⟨o, hsearch, -⟩
    rw [hcontains] at hsearch
    cases hsearch
  · rintro ⟨o, hsearch, -⟩
    rw [hparse] at hsearch
    cases hsearch
  · rintro ⟨o, hsearch, hnearest⟩
    rw [htext] at hsearch
    cases hsearch
    cases hnearest with
    | least _ h =>
      obtain ⟨a, hattests, -⟩ := h
      cases hattests.2
    | greatest _ _ h =>
      obtain ⟨a, hattests, -⟩ := h
      cases hattests.2

end Device

end Isomdl
