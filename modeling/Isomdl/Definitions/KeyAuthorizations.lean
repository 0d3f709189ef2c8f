import Isomdl.Definitions.DeviceKey

/-!
# What a device key may sign (`definitions/device_key/mod.rs`)

Key authorizations name whole namespaces and single data elements; together they say what the
key may sign (`Authorizes`).  `permitted` looks at the data elements only where no namespace is
named.

* `validate_eq_ok_iff`         which authorizations are accepted;
* `permitted_iff_of_none`, `permitted_iff_of_some`   what `permitted` answers;
* `permitted_exact_iff`        it answers for the union exactly when one of the two is absent.
-/

namespace Isomdl

namespace KeyAuthorizations

/-- `KeyAuthorizations::permitted` -/
def permitted (a : KeyAuthorizations) (ns elementIdentifier : String) : Bool :=
  match a.namespaces with
  | some namespaces => namespaces.toList.contains ns
  | none =>
    match a.dataElements with
    | some namespaces =>
      match namespaces.toMap[ns]? with
      | some dataElements => dataElements.toList.contains elementIdentifier
      | none => false
    | none => false

/-- the namespace is authorized whole -/
def ListsNamespace (a : KeyAuthorizations) (ns : String) : Prop :=
  ∃ namespaces, a.namespaces = some namespaces ∧ ns ∈ namespaces.toList

/-- the element is authorized on its own -/
def ListsElement (a : KeyAuthorizations) (ns elementIdentifier : String) : Prop :=
  ∃ namespaces dataElements, a.dataElements = some namespaces ∧
    namespaces.toMap[ns]? = some dataElements ∧ elementIdentifier ∈ dataElements.toList

/-- what the key may sign: the union of the two -/
def Authorizes (a : KeyAuthorizations) (ns elementIdentifier : String) : Prop :=
  a.ListsNamespace ns ∨ a.ListsElement ns elementIdentifier

variable {a : KeyAuthorizations}

/-! ## validation -/

/-- no namespace is authorized whole and by element -/
def Disjoint (a : KeyAuthorizations) : Prop :=
  ∀ namespaces dataElements, a.namespaces = some namespaces → a.dataElements = some dataElements →
    ∀ ns ∈ namespaces.toList, ns ∉ dataElements.toMap

theorem forM_eq_ok_iff {α ε : Type} {f : α → Except ε Unit} {l : List α} :
    l.forM f = .ok () ↔ ∀ x ∈ l, f x = .ok () := by
  induction l with
  | nil => simp [List.forM, pure, Except.pure]
  | cons x l ih =>
    rw [List.forall_mem_cons, ← ih]
    show (f x >>= fun _ => l.forM f) = .ok () ↔ _
    cases hx : f x with
    | error e => simp [bind, Except.bind]
    | ok u => simp [bind, Except.bind]

/-- **The authorizations that are accepted are the disjoint ones.** -/
theorem validate_eq_ok_iff : a.validate = .ok () ↔ a.Disjoint := by
  obtain ⟨namespaces, dataElements⟩ := a
  cases dataElements with
  | none => simp [validate, Disjoint]
  | some dataElements =>
    cases namespaces with
    | none => simp [validate, Disjoint]
    | some namespaces =>
      rw [validate, forM_eq_ok_iff]
      constructor
      · intro h _ _ hn hd ns hns
        cases hn
        cases hd
        intro hmem
        have hok := h ns hns
        rw [if_pos hmem] at hok
        cases hok
      · intro h ns hns
        rw [if_neg (h namespaces dataElements rfl rfl ns hns)]

/-! ## permission -/

theorem permitted_iff_of_none (hn : a.namespaces = none) (ns elementIdentifier : String) :
    a.permitted ns elementIdentifier = true ↔ a.ListsElement ns elementIdentifier := by
  rw [permitted, hn, ListsElement]
  cases a.dataElements with
  | none => simp
  | some namespaces =>
    cases hl : namespaces.toMap[ns]? with
    | none => simp [hl]
    | some dataElements => simp [hl]

/-- where a namespace is named, the data elements are not looked at -/
theorem permitted_iff_of_some {namespaces : NonEmptyVec String}
    (hn : a.namespaces = some namespaces) (ns elementIdentifier : String) :
    a.permitted ns elementIdentifier = true ↔ a.ListsNamespace ns := by
  rw [permitted, hn, ListsNamespace]
  simp [hn]

/-- an authorized element, where there are data elements at all -/
theorem exists_listsElement {dataElements : NonEmptyMap String (NonEmptyVec String)}
    (hd : a.dataElements = some dataElements) :
    ∃ ns elementIdentifier, ns ∈ dataElements.toMap ∧ a.ListsElement ns elementIdentifier := by
  have hne := BTreeMap.toList_ne_nil.mpr dataElements.nonempty
  obtain ⟨⟨ns, elements⟩, hmem⟩ := List.exists_mem_of_ne_nil _ hne
  have hlook := BTreeMap.mem_toList.mp hmem
  obtain ⟨e, he⟩ := List.exists_mem_of_ne_nil _ elements.nonempty
  exact ⟨ns, e, BTreeMap.mem_iff_getElem?.mpr ⟨_, hlook⟩, dataElements, elements, hd, hlook, he⟩

/-- **The accepted authorizations for which `permitted` answers for the union of both grants are
those that do not have both.** -/
theorem permitted_exact_iff (h : a.validate = .ok ()) :
    (∀ ns elementIdentifier,
      a.permitted ns elementIdentifier = true ↔ a.Authorizes ns elementIdentifier) ↔
      a.namespaces = none ∨ a.dataElements = none := by
  constructor
  · intro hexact
    by_contra hboth
    obtain ⟨hn, hd⟩ := not_or.mp hboth
    obtain ⟨namespaces, hn⟩ := Option.ne_none_iff_exists'.mp hn
    obtain ⟨dataElements, hd⟩ := Option.ne_none_iff_exists'.mp hd
    obtain ⟨ns, e, hns, hlists⟩ := exists_listsElement hd
    have hpermitted := (hexact ns e).mpr (.inr hlists)
    obtain ⟨namespaces', hn', hwhole⟩ := (permitted_iff_of_some hn ns e).mp hpermitted
    exact validate_eq_ok_iff.mp h namespaces' dataElements hn' hd ns hwhole hns
  · intro hone ns e
    cases hn : a.namespaces with
    | none =>
      rw [permitted_iff_of_none hn, Authorizes]
      constructor
      · exact .inr
      · rintro (⟨_, hsome, -⟩ | hlists)
        · rw [hn] at hsome
          cases hsome
        · exact hlists
    | some namespaces =>
      have hd : a.dataElements = none := by
        rcases hone with hnone | hd
        · rw [hn] at hnone
          cases hnone
        · exact hd
      rw [permitted_iff_of_some hn, Authorizes]
      constructor
      · exact .inl
      · rintro (hlists | ⟨_, _, hsome, -⟩)
        · exact hlists
        · rw [hd] at hsome
          cases hsome

namespace Sample

/-- the documents of one namespace, and one element of another -/
def both : KeyAuthorizations where
  namespaces := some (.new "org.iso.18013.5.1")
  dataElements := some (.new "org.iso.18013.5.1.aamva" (.new "domestic_driving_privileges"))

def whole : KeyAuthorizations := { both with dataElements := none }

end Sample

theorem permitted_exact_iff_whole :
    Sample.whole.validate = .ok () ∧
    ∀ ns elementIdentifier, Sample.whole.permitted ns elementIdentifier = true ↔
      Sample.whole.Authorizes ns elementIdentifier := by
  have hvalid : Sample.whole.validate = .ok () := rfl
  exact ⟨hvalid, (permitted_exact_iff hvalid).mpr (.inr rfl)⟩

/-- Authorizations of both kinds are accepted, and the authorized element is not permitted. -/
theorem both_not_permitted :
    Sample.both.validate = .ok () ∧
    Sample.both.Authorizes "org.iso.18013.5.1.aamva" "domestic_driving_privileges" ∧
    Sample.both.permitted "org.iso.18013.5.1.aamva" "domestic_driving_privileges" = false := by
  refine ⟨validate_eq_ok_iff.mpr ?_,
    .inr ⟨_, .new "domestic_driving_privileges", rfl, ?_, List.mem_singleton.mpr rfl⟩, ?_⟩
  · intro namespaces dataElements hn hd ns hns
    cases hn
    cases hd
    rw [NonEmptyVec.new, List.mem_singleton] at hns
    rw [hns]
    decide +kernel
  · exact Std.ExtTreeMap.getElem?_insert_self
  · decide +kernel

end KeyAuthorizations

end Isomdl
