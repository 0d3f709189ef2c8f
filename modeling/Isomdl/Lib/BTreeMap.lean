import Mathlib.Data.List.Forall2
import Mathlib.Data.List.Nodup
import Mathlib.Data.List.Perm.Basic
import Std.Data.ExtTreeMap

/-!
# Ordered maps, read through their entries

`BTreeMap K V` is the ordered map of the standard library under the name the Rust code
gives it.  A map is determined by its lookups; the lemmas here connect the lookups with the
list of entries, which is what the loops of a program walk over.

* `toList_keys_nodup`, `mem_toList`   a map as a list with distinct keys;
* `getElem?_ofList`                   a list with distinct keys as a map;
* `ofList_perm`, `ofList_toList`      the order of the entries is not observable;
* `getElem?_ofList_filterMap`         a map filtered entry by entry;
* `insertMany_cons`, `getElem?_insertMany` a loop that fills a map;
* `getElem?_ofList_eq_last?`, `getElem?_ofList_eq_lastBy`
                                      a list whose keys may repeat;
* `eraseMany`                         the map after a loop that takes entries out of it;
* `getElem?_ofList_present`           the map of the entries that are there.
-/

set_option linter.unusedSectionVars false

abbrev BTreeMap (K V : Type) [Ord K] := Std.ExtTreeMap K V

namespace BTreeMap

open Std

variable {K V W : Type} [Ord K] [TransOrd K] [LawfulEqOrd K] [BEq K] [LawfulBEq K]

/-! ## entries of a map -/

theorem mem_toList {m : BTreeMap K V} {k : K} {v : V} :
    (k, v) ∈ m.toList ↔ m[k]? = some v :=
  ExtTreeMap.mem_toList_iff_getElem?_eq_some

theorem mem_iff_getElem? {m : BTreeMap K V} {k : K} : k ∈ m ↔ ∃ v, m[k]? = some v := by
  rw [ExtTreeMap.mem_iff_isSome_getElem?, Option.isSome_iff_exists]

theorem getElem?_eq_none_iff {m : BTreeMap K V} {k : K} : m[k]? = none ↔ k ∉ m := by
  rw [mem_iff_getElem?, Option.eq_none_iff_forall_ne_some]
  simp

theorem toList_keys_nodup (m : BTreeMap K V) : (m.toList.map Prod.fst).Nodup := by
  rw [List.Nodup, List.pairwise_map]
  exact ExtTreeMap.distinct_keys_toList.imp fun h heq => h (by rw [heq, compare_self])

theorem mem_toList_keys {m : BTreeMap K V} {k : K} : k ∈ m.toList.map Prod.fst ↔ k ∈ m := by
  rw [mem_iff_getElem?, List.mem_map]
  constructor
  · rintro ⟨⟨k, v⟩, hmem, rfl⟩
    exact ⟨v, mem_toList.mp hmem⟩
  · rintro ⟨v, hv⟩
    exact ⟨(k, v), mem_toList.mpr hv, rfl⟩

theorem toList_ne_nil {m : BTreeMap K V} : m.toList ≠ [] ↔ m ≠ ∅ := by
  rw [Ne, ExtTreeMap.toList_eq_nil_iff]

/-! ## the map of a list of entries -/

theorem mem_ofList {l : List (K × V)} {k : K} :
    k ∈ ExtTreeMap.ofList l compare ↔ k ∈ l.map Prod.fst := by
  rw [ExtTreeMap.mem_ofList, List.contains_iff_mem]

theorem getElem?_ofList_of_mem {l : List (K × V)} (hl : (l.map Prod.fst).Nodup) {k : K} {v : V}
    (hmem : (k, v) ∈ l) : (ExtTreeMap.ofList l compare)[k]? = some v := by
  refine ExtTreeMap.getElem?_ofList_of_mem (k := k) (compare_self) ?_ hmem
  rw [List.Nodup, List.pairwise_map] at hl
  exact hl.imp fun hne heq => hne (LawfulEqOrd.eq_of_compare heq)

theorem getElem?_ofList {l : List (K × V)} (hl : (l.map Prod.fst).Nodup) {k : K} {v : V} :
    (ExtTreeMap.ofList l compare)[k]? = some v ↔ (k, v) ∈ l := by
  constructor
  · intro h
    have hk : k ∈ l.map Prod.fst := mem_ofList.mp (mem_iff_getElem?.mpr ⟨v, h⟩)
    obtain ⟨⟨k, w⟩, hmem, rfl⟩ := List.mem_map.mp hk
    have hw := getElem?_ofList_of_mem hl hmem
    rw [h] at hw
    cases hw
    exact hmem
  · exact getElem?_ofList_of_mem hl

/-- **The order in which distinct entries are inserted is not observable.** -/
theorem ofList_perm {l₁ l₂ : List (K × V)} (hl : (l₁.map Prod.fst).Nodup) (hp : l₁.Perm l₂) :
    ExtTreeMap.ofList l₁ compare = ExtTreeMap.ofList l₂ compare := by
  have hl₂ : (l₂.map Prod.fst).Nodup := (hp.map Prod.fst).nodup_iff.mp hl
  apply ExtTreeMap.ext_getElem?
  intro k
  ext v
  rw [getElem?_ofList hl, getElem?_ofList hl₂, hp.mem_iff]

theorem ofList_toList (m : BTreeMap K V) : ExtTreeMap.ofList m.toList compare = m := by
  apply ExtTreeMap.ext_getElem?
  intro k
  ext v
  rw [getElem?_ofList (toList_keys_nodup m), mem_toList]

/-- the entries of a map that `g` keeps, with the values it gives them -/
theorem filterMap_keys_nodup (m : BTreeMap K V) (g : K → V → Option W) :
    ((m.toList.filterMap fun e => (g e.1 e.2).map fun w => (e.1, w)).map Prod.fst).Nodup := by
  refine (toList_keys_nodup m).sublist ?_
  induction m.toList with
  | nil => exact List.Sublist.slnil
  | cons e l ih =>
    rw [List.filterMap_cons, List.map_cons]
    cases g e.1 e.2 with
    | none => exact ih.cons e.1
    | some w => exact ih.cons_cons e.1

/-- **A map that is filtered entry by entry is filtered lookup by lookup.** -/
theorem getElem?_ofList_filterMap (m : BTreeMap K V) (g : K → V → Option W) (k : K) :
    (ExtTreeMap.ofList (m.toList.filterMap fun e => (g e.1 e.2).map fun w => (e.1, w)) compare)[k]? =
      (m[k]?).bind (g k) := by
  ext w
  rw [getElem?_ofList (filterMap_keys_nodup m g), List.mem_filterMap, Option.bind_eq_some_iff]
  constructor
  · intro h
    obtain ⟨⟨k', v⟩, hmem, hw⟩ := h
    obtain ⟨w', hg, heq⟩ := Option.map_eq_some_iff.mp hw
    cases heq
    exact ⟨v, mem_toList.mp hmem, hg⟩
  · intro h
    obtain ⟨v, hv, hg⟩ := h
    refine ⟨(k, v), mem_toList.mpr hv, ?_⟩
    rw [hg]
    rfl

theorem toList_ofList_perm {l : List (K × V)} (hl : (l.map Prod.fst).Nodup) :
    (ExtTreeMap.ofList l compare).toList.Perm l := by
  have hnd := (toList_keys_nodup (ExtTreeMap.ofList l compare)).of_map
  refine (List.perm_ext_iff_of_nodup hnd hl.of_map).mpr ?_
  rintro ⟨k, v⟩
  rw [mem_toList, getElem?_ofList hl]

/-- entries under the keys of a map, in its order, stay in that order -/
theorem toList_ofList_of_keys {m : BTreeMap K V} {l : List (K × W)}
    (h : l.map Prod.fst = m.toList.map Prod.fst) : (ExtTreeMap.ofList l compare).toList = l := by
  have hnd : (l.map Prod.fst).Nodup := h ▸ toList_keys_nodup m
  have hordered : l.Pairwise fun a b => compare a.1 b.1 = .lt := by
    have hkeys : (l.map Prod.fst).Pairwise fun a b => compare a b = .lt := by
      rw [h]
      exact List.pairwise_map.mpr ExtTreeMap.ordered_keys_toList
    exact List.pairwise_map.mp hkeys
  refine (toList_ofList_perm hnd).eq_of_pairwise ?_ ExtTreeMap.ordered_keys_toList hordered
  intro a b _ _ hab hba
  rw [OrientedCmp.gt_of_lt hab] at hba
  cases hba

/-- **Two maps with the same entries, up to `f` and `g`, have the same values up to them.** -/
theorem toList_map_eq_iff {X : Type} {m : BTreeMap K V} {m' : BTreeMap K W} {f : V → X} {g : W → X} :
    m.toList.map (fun e => (e.1, f e.2)) = m'.toList.map (fun e => (e.1, g e.2)) ↔
      ∀ k : K, (m[k]?).map f = (m'[k]?).map g := by
  have hf : (m.map fun _ v => f v).toList = m.toList.map fun e => (e.1, f e.2) :=
    ExtTreeMap.toList_map
  have hg : (m'.map fun _ v => g v).toList = m'.toList.map fun e => (e.1, g e.2) :=
    ExtTreeMap.toList_map
  rw [← hf, ← hg]
  constructor
  · intro h k
    have heq : (m.map fun _ v => f v) = m'.map fun _ v => g v := by
      rw [← ofList_toList (m.map fun _ v => f v), h, ofList_toList]
    rw [← ExtTreeMap.getElem?_map (f := fun _ v => f v), heq, ExtTreeMap.getElem?_map]
  · intro h
    have heq : (m.map fun _ v => f v) = m'.map fun _ v => g v := by
      apply ExtTreeMap.ext_getElem?
      intro k
      rw [ExtTreeMap.getElem?_map, ExtTreeMap.getElem?_map]
      exact h k
    rw [heq]

/-- a list in the order of the keys, with the entries of a map, is its list of entries -/
theorem eq_toList_of_mem_iff {m : BTreeMap K V} {l : List (K × V)}
    (hordered : l.Pairwise fun a b => compare a.1 b.1 = .lt) (h : ∀ e, e ∈ l ↔ e ∈ m.toList) :
    l = m.toList := by
  have hasymm : ∀ a b : K × V, compare a.1 b.1 = .lt → compare b.1 a.1 = .lt → a = b := by
    intro a b hab hba
    rw [OrientedCmp.gt_of_lt hab] at hba
    cases hba
  have hnd : l.Nodup := hordered.imp fun {a b} hab heq => by
    rw [heq, compare_self] at hab
    cases hab
  exact ((List.perm_ext_iff_of_nodup hnd (toList_keys_nodup m).of_map).mpr h).eq_of_pairwise
    (fun a b _ _ => hasymm a b) hordered ExtTreeMap.ordered_keys_toList

theorem ofList_eq_empty {l : List (K × V)} : ExtTreeMap.ofList l compare = ∅ ↔ l = [] :=
  ExtTreeMap.ofList_eq_empty_iff

/-! ## filling a map in a loop -/

theorem insertMany_nil (m : BTreeMap K V) : m.insertMany ([] : List (K × V)) = m :=
  ExtTreeMap.insertMany_nil

theorem insertMany_cons (m : BTreeMap K V) (k : K) (v : V) (l : List (K × V)) :
    m.insertMany ((k, v) :: l) = (m.insert k v).insertMany l :=
  ExtTreeMap.insertMany_cons

theorem insertMany_empty (l : List (K × V)) :
    (∅ : BTreeMap K V).insertMany l = ExtTreeMap.ofList l compare :=
  ExtTreeMap.ofList_eq_insertMany_empty.symm

theorem mem_insert {m : BTreeMap K V} {k a : K} {v : V} : a ∈ m.insert k v ↔ a = k ∨ a ∈ m := by
  rw [ExtTreeMap.mem_insert, LawfulEqOrd.compare_eq_iff_eq, eq_comm]

theorem getElem?_insert {m : BTreeMap K V} {k a : K} {v : V} [Decidable (a = k)] :
    (m.insert k v)[a]? = if a = k then some v else m[a]? := by
  rw [ExtTreeMap.getElem?_insert]
  by_cases h : a = k
  · rw [if_pos h, if_pos (by rw [h, compare_self])]
  · rw [if_neg h, if_neg fun heq => h (LawfulEqOrd.eq_of_compare heq).symm]

theorem getElem?_erase {m : BTreeMap K V} {k a : K} [Decidable (a = k)] :
    (m.erase k)[a]? = if a = k then none else m[a]? := by
  rw [ExtTreeMap.getElem?_erase]
  by_cases h : a = k
  · rw [if_pos h, if_pos (by rw [h, compare_self])]
  · rw [if_neg h, if_neg fun heq => h (LawfulEqOrd.eq_of_compare heq).symm]

theorem getElem?_insertMany {m : BTreeMap K V} {l : List (K × V)} {k : K} {v : V}
    (h : (m.insertMany l)[k]? = some v) : (k, v) ∈ l ∨ m[k]? = some v := by
  induction l generalizing m with
  | nil =>
    rw [insertMany_nil] at h
    exact .inr h
  | cons e l ih =>
    obtain ⟨a, b⟩ := e
    rw [insertMany_cons] at h
    cases ih h with
    | inl hmem => exact .inl (List.mem_cons_of_mem _ hmem)
    | inr hinsert =>
      classical
      rw [getElem?_insert] at hinsert
      split at hinsert
      · next heq =>
        cases hinsert
        rw [heq]
        exact .inl List.mem_cons_self
      · exact .inr hinsert

/-- whatever a map holds came from its list, also when keys repeat -/
theorem mem_of_getElem?_ofList {l : List (K × V)} {k : K} {v : V}
    (h : (ExtTreeMap.ofList l compare : BTreeMap K V)[k]? = some v) : (k, v) ∈ l := by
  rw [← insertMany_empty] at h
  cases getElem?_insertMany h with
  | inl hmem => exact hmem
  | inr hempty =>
    rw [ExtTreeMap.getElem?_empty] at hempty
    cases hempty

/-- the last entry counts when a key repeats -/
def last? [DecidableEq K] (l : List (K × V)) (k : K) : Option V :=
  (l.reverse.find? fun e => e.1 = k).map Prod.snd

theorem last?_cons [DecidableEq K] (e : K × V) (l : List (K × V)) (k : K) :
    last? (e :: l) k = (last? l k).or (if e.1 = k then some e.2 else none) := by
  rw [last?, last?, List.reverse_cons, List.find?_append]
  cases l.reverse.find? fun e => decide (e.1 = k) with
  | some e' => rfl
  | none => by_cases h : e.1 = k <;> simp [h]

theorem getElem?_insertMany_eq_last? [DecidableEq K] (m : BTreeMap K V) (l : List (K × V)) (k : K) :
    (m.insertMany l)[k]? = (last? l k).or m[k]? := by
  induction l generalizing m with
  | nil =>
    rw [insertMany_nil]
    rfl
  | cons e l ih =>
    obtain ⟨a, b⟩ := e
    rw [insertMany_cons, ih, getElem?_insert, last?_cons, Option.or_assoc]
    by_cases h : k = a
    · simp [h]
    · simp [h, Ne.symm h]

theorem getElem?_ofList_eq_last? [DecidableEq K] (l : List (K × V)) (k : K) :
    (ExtTreeMap.ofList l compare : BTreeMap K V)[k]? = last? l k := by
  rw [← insertMany_empty, getElem?_insertMany_eq_last?, ExtTreeMap.getElem?_empty, Option.or_none]

/-- the last entry whose key reads as `k` -/
def lastBy {A : Type} [DecidableEq K] (key : A → Option K) (l : List (A × V)) (k : K) : Option V :=
  (l.reverse.find? fun e => key e.1 = some k).map Prod.snd

theorem lastBy_cons {A : Type} [DecidableEq K] (key : A → Option K) (e : A × V) (l : List (A × V))
    (k : K) :
    lastBy key (e :: l) k = (lastBy key l k).or (if key e.1 = some k then some e.2 else none) := by
  rw [lastBy, lastBy, List.reverse_cons, List.find?_append]
  cases l.reverse.find? fun e => decide (key e.1 = some k) with
  | some e' => rfl
  | none => by_cases h : key e.1 = some k <;> simp [h]

/-- the map of the keys and values that were read -/
theorem rel_lastBy_ofList {A : Type} [DecidableEq K] {key : A → Option K} {R : W → V → Prop}
    {l : List (A × W)} {out : List (K × V)}
    (h : List.Forall₂ (fun e o => key e.1 = some o.1 ∧ R e.2 o.2) l out) (k : K) :
    Option.Rel R (lastBy key l k) (ExtTreeMap.ofList out compare : BTreeMap K V)[k]? := by
  rw [getElem?_ofList_eq_last?]
  induction h with
  | nil => exact .none
  | @cons e o l out hread _ ih =>
    rw [last?_cons, lastBy_cons, hread.1]
    simp only [Option.some.injEq]
    generalize lastBy key l k = before at ih ⊢
    generalize last? out k = after at ih ⊢
    cases ih with
    | some hrel => exact .some hrel
    | none =>
      rw [Option.none_or, Option.none_or]
      by_cases hk : o.1 = k
      · rw [if_pos hk, if_pos hk]
        exact .some hread.2
      · rw [if_neg hk, if_neg hk]
        exact .none

/-- the map of the keys that were read -/
theorem getElem?_ofList_eq_lastBy {A : Type} [DecidableEq K] {key : A → Option K}
    {l : List (A × V)} {out : List (K × V)}
    (h : List.Forall₂ (fun e o => key e.1 = some o.1 ∧ e.2 = o.2) l out) (k : K) :
    (ExtTreeMap.ofList out compare : BTreeMap K V)[k]? = lastBy key l k := by
  have hrel := rel_lastBy_ofList h k
  generalize lastBy key l k = before at hrel ⊢
  generalize (ExtTreeMap.ofList out compare : BTreeMap K V)[k]? = after at hrel ⊢
  cases hrel with
  | none => rfl
  | some hv => rw [hv]

/-! ## emptying a map in a loop -/

/-- the map without the keys of a list -/
def eraseMany (m : BTreeMap K V) (ks : List K) : BTreeMap K V := ks.foldl (fun m k => m.erase k) m

theorem eraseMany_nil (m : BTreeMap K V) : eraseMany m [] = m := rfl
theorem eraseMany_cons (m : BTreeMap K V) (k : K) (ks : List K) :
    eraseMany m (k :: ks) = eraseMany (m.erase k) ks := rfl
theorem eraseMany_append (m : BTreeMap K V) (ks ls : List K) :
    eraseMany m (ks ++ ls) = eraseMany (eraseMany m ks) ls := List.foldl_append

theorem getElem?_eraseMany [DecidableEq K] {m : BTreeMap K V} {ks : List K} {a : K} :
    (eraseMany m ks)[a]? = if a ∈ ks then none else m[a]? := by
  induction ks generalizing m with
  | nil => simp [eraseMany_nil]
  | cons k ks ih =>
    rw [eraseMany_cons, ih, getElem?_erase]
    by_cases hk : a = k <;> by_cases hks : a ∈ ks <;> simp [hk, hks]

theorem mem_eraseMany {m : BTreeMap K V} {ks : List K} {a : K} :
    a ∈ eraseMany m ks ↔ a ∈ m ∧ a ∉ ks := by
  classical
  rw [mem_iff_getElem?, mem_iff_getElem?, getElem?_eraseMany]
  by_cases h : a ∈ ks <;> simp [h]

theorem eq_empty_iff {m : BTreeMap K V} : m = ∅ ↔ ∀ a, a ∉ m := by
  constructor
  · rintro rfl a
    exact ExtTreeMap.not_mem_empty
  · intro h
    apply ExtTreeMap.ext_getElem?
    intro a
    rw [getElem?_eq_none_iff.mpr (h a), getElem?_eq_none_iff.mpr ExtTreeMap.not_mem_empty]

theorem eraseMany_eq_empty {m : BTreeMap K V} {ks : List K} :
    eraseMany m ks = ∅ ↔ ∀ a ∈ m, a ∈ ks := by
  rw [eq_empty_iff]
  refine forall_congr' fun a => ?_
  rw [mem_eraseMany, not_and, not_not]

/-! ## entries that may be absent -/

/-- the entries that are there -/
def present {K V : Type} : List (K × Option V) → List (K × V)
  | [] => []
  | (_, none) :: l => present l
  | (k, some v) :: l => (k, v) :: present l

theorem mem_present {K V : Type} {l : List (K × Option V)} {k : K} {v : V} :
    (k, v) ∈ present l ↔ (k, some v) ∈ l := by
  induction l with
  | nil => simp [present]
  | cons e l ih =>
    obtain ⟨k', o⟩ := e
    cases o <;> simp [present, ih]

theorem present_keys_sublist {K V : Type} (l : List (K × Option V)) :
    ((present l).map Prod.fst).Sublist (l.map Prod.fst) := by
  induction l with
  | nil => exact List.Sublist.slnil
  | cons e l ih =>
    obtain ⟨k, o⟩ := e
    cases o with
    | none => exact ih.cons k
    | some v => exact ih.cons_cons k

/-- entries with the keys under `f` -/
theorem present_map {K L V : Type} (f : K → L) (l : List (K × Option V)) :
    (present l).map (fun e => (f e.1, e.2)) = present (l.map fun e => (f e.1, e.2)) := by
  induction l with
  | nil => rfl
  | cons e l ih =>
    obtain ⟨k, o⟩ := e
    cases o with
    | none => exact ih
    | some v => exact congrArg ((f k, v) :: ·) ih

theorem getElem?_ofList_present_eq_none {l : List (K × Option V)} {k : K}
    (h : k ∉ l.map Prod.fst) : (ExtTreeMap.ofList (present l) compare)[k]? = none := by
  rw [getElem?_eq_none_iff, mem_ofList]
  exact fun hmem => h ((present_keys_sublist l).subset hmem)

/-- **The map of the entries that are there returns what is listed.** -/
theorem getElem?_ofList_present {l : List (K × Option V)} (hl : (l.map Prod.fst).Nodup) {k : K}
    {o : Option V} (h : (k, o) ∈ l) : (ExtTreeMap.ofList (present l) compare)[k]? = o := by
  have hnd : ((present l).map Prod.fst).Nodup := hl.sublist (present_keys_sublist l)
  ext v
  rw [getElem?_ofList hnd, mem_present]
  constructor
  · intro hv
    have hval : o = some v := by
      have hpair := List.inj_on_of_nodup_map hl h hv rfl
      exact congrArg Prod.snd hpair
    rw [hval]
  · intro hv
    rw [← hv]
    exact h

end BTreeMap
