import Isomdl.Presentation.Disclosure

/-!
# Several requests for one document type (`presentation/device.rs`)

A request may name a document type more than once.  `filter_permitted` reads, for each permitted
document type, the first request for it and no other.

* `survives_iff`               what is kept, in terms of the first request;
* `filterPermitted_exact_iff`  when that is all that was permitted and requested;
* `survives_iff_of_distinct`   it is, where no document type is named twice.
-/

set_option linter.unusedSectionVars false

namespace Isomdl

namespace Device

open FirstMatch

/-- the first request for the document type asks for the element -/
def FirstRequests (requests : RequestedItems) (docType ns element : String) : Prop :=
  ∃ before request after, requests = before ++ request :: after ∧
    (∀ r ∈ before, r.docType ≠ docType) ∧ request.docType = docType ∧ Asks request ns element

variable {requests : RequestedItems} {permitted : PermittedItems} {docType ns element : String}

theorem firstRequests_iff_picks :
    FirstRequests requests docType ns element ↔
      Picks (fun item => decide (item.docType = docType)) (Asks · ns element) requests := by
  rw [picks_iff_split]
  simp only [decide_eq_true_eq]
  rfl

theorem requests_iff :
    Requests requests docType ns element ↔
      ∃ request ∈ requests, decide (request.docType = docType) = true ∧ Asks request ns element := by
  simp only [decide_eq_true_eq]
  rfl

theorem requests_of_first (h : FirstRequests requests docType ns element) :
    Requests requests docType ns element :=
  requests_iff.mpr (firstRequests_iff_picks.mp h).exists_mem

/-- **What `filter_permitted` keeps: what is permitted, and what the first request for its document
type asks for.** -/
theorem survives_iff :
    Survives requests permitted docType ns element ↔
      Permits permitted docType ns element ∧ FirstRequests requests docType ns element := by
  rw [firstRequests_iff_picks, survives_iff_picks]

/-- **`filter_permitted` keeps all that is permitted and requested exactly when the first request
for a document type asks for whatever a later one does, of what is permitted.** -/
theorem filterPermitted_exact_iff (requests : RequestedItems) (permitted : PermittedItems) :
    (∀ docType ns element, Survives requests permitted docType ns element ↔
      Permits permitted docType ns element ∧ Requests requests docType ns element) ↔
    ∀ docType ns element, Permits permitted docType ns element →
      Requests requests docType ns element → FirstRequests requests docType ns element := by
  simp only [survives_iff]
  constructor
  · intro hexact docType ns element hpermits hrequests
    exact ((hexact docType ns element).mpr ⟨hpermits, hrequests⟩).2
  · intro hfirst docType ns element
    constructor
    · exact fun h => ⟨h.1, requests_of_first h.2⟩
    · exact fun h => ⟨h.1, hfirst docType ns element h.1 h.2⟩

/-- **Where no document type is named twice, all that is permitted and requested is kept.** -/
theorem survives_iff_of_distinct (h : (requests.map (·.docType)).Nodup) :
    Survives requests permitted docType ns element ↔
      Permits permitted docType ns element ∧ Requests requests docType ns element := by
  rw [survives_iff, firstRequests_iff_picks, requests_iff, picks_of_agree]
  intro a ha b hb hpa hpb
  have hdoc : a.docType = b.docType :=
    (of_decide_eq_true hpa).trans (of_decide_eq_true hpb).symm
  rw [List.inj_on_of_nodup_map h ha hb hdoc]

namespace Sample

/-- a request for one element of the core namespace -/
def requestFor (element : String) : ItemsRequest where
  docType := "org.iso.18013.5.1.mDL"
  namespaces := .new "org.iso.18013.5.1" (.new element false)
  requestInfo := none

def twoRequests : RequestedItems := [requestFor "family_name", requestFor "given_name"]

def permittedBoth : PermittedItems :=
  (∅ : PermittedItems).insert "org.iso.18013.5.1.mDL"
    ((∅ : BTreeMap String (List String)).insert "org.iso.18013.5.1" ["family_name", "given_name"])

end Sample

/-- The element that the second request asks for is lost. -/
theorem second_request_lost :
    Permits Sample.permittedBoth "org.iso.18013.5.1.mDL" "org.iso.18013.5.1" "given_name" ∧
    Requests Sample.twoRequests "org.iso.18013.5.1.mDL" "org.iso.18013.5.1" "given_name" ∧
    ¬ Survives Sample.twoRequests Sample.permittedBoth "org.iso.18013.5.1.mDL"
      "org.iso.18013.5.1" "given_name" := by
  refine ⟨⟨_, ["family_name", "given_name"], Std.ExtTreeMap.getElem?_insert_self,
    Std.ExtTreeMap.getElem?_insert_self, by simp⟩, ⟨Sample.requestFor "given_name", by
      simp [Sample.twoRequests], rfl, .new "given_name" false, Std.ExtTreeMap.getElem?_insert_self,
      Std.ExtTreeMap.mem_insert_self⟩, ?_⟩
  rw [survives_iff_picks]
  rintro ⟨-, request, hfind, reqElems, hreq, hmem⟩
  have hrequest : request = Sample.requestFor "family_name" := (Option.some.inj hfind).symm
  rw [hrequest] at hreq
  have helems : reqElems = .new "family_name" false :=
    (Option.some.inj (Std.ExtTreeMap.getElem?_insert_self.symm.trans hreq)).symm
  rw [helems] at hmem
  have hname := BTreeMap.mem_insert.mp hmem
  simp at hname

end Device

end Isomdl
