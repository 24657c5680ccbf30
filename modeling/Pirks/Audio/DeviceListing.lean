import Pirks.Audio.AudioSources

set_option autoImplicit false

namespace Pirks.Audio

def Endpoint.listed (endpoint : Endpoint) : Option StdString :=
  if FAILED endpoint.item.1 ∨ endpoint.item.2 = false then none
  else if FAILED endpoint.openPropertyStore.1 ∨ endpoint.openPropertyStore.2 = false then none
  else endpoint.friendlyName

def Endpoint.ListedAs (endpoint : Endpoint) (name : StdString) : Prop :=
  ∃ wname, endpoint.Readable wname ∧ narrow wname = name

theorem Endpoint.listed_iff (endpoint : Endpoint) (name : StdString) :
    endpoint.listed = some name ↔ endpoint.ListedAs name := by
  obtain ⟨⟨itemStatus, device⟩, ⟨openStatus, store⟩, valueStatus, value⟩ := endpoint
  constructor
  next =>
    intro listed
    simp only [Endpoint.listed] at listed
    split at listed
    · cases listed
    · next opened =>
      split at listed
      · cases listed
      · next stored =>
        simp only [not_or, Bool.not_eq_true, Bool.not_eq_false] at opened stored
        simp only [Endpoint.friendlyName] at listed
        split at listed
        · next wname valued =>
          injection valued with sameStatus sameValue
          subst sameStatus sameValue
          split at listed
          next succeeded =>
            injection listed with same
            exact ⟨wname, ⟨opened.1, opened.2, stored.1, stored.2, succeeded, rfl⟩, same⟩
          next => cases listed
        · cases listed
  next =>
    rintro ⟨wname, readable, same⟩
    rw [Endpoint.listed, if_neg, if_neg, DeviceEnumeratorPtr.friendlyName_readable readable, same]
    next =>
      have store := readable.propertyStore
      simp_all [readable.openPropertyStore]
    next =>
      have device := readable.device
      simp_all [readable.item]

inductive Listing : List Endpoint → List StdString → Prop where
  | nil : Listing [] []
  | readable {endpoint : Endpoint} {rest : List Endpoint} {names : List StdString} {wname : WideString}
      (first : endpoint.Readable wname) (others : Listing rest names) :
      Listing (endpoint :: rest) (narrow wname :: names)
  | unreadable {endpoint : Endpoint} {rest : List Endpoint} {names : List StdString}
      (first : ∀ wname, ¬endpoint.Readable wname) (others : Listing rest names) :
      Listing (endpoint :: rest) names

theorem listing_filterMap (endpoints : List Endpoint) :
    Listing endpoints (endpoints.filterMap Endpoint.listed) := by
  induction endpoints with
  | nil => exact .nil
  | cons endpoint rest ih =>
    cases listed : endpoint.listed with
    | none =>
      rw [List.filterMap_cons_none listed]
      apply Listing.unreadable _ ih
      intro wname readable
      have named := (endpoint.listed_iff (narrow wname)).mpr ⟨wname, readable, rfl⟩
      rw [listed] at named
      cases named
    | some name =>
      rw [List.filterMap_cons_some listed]
      obtain ⟨wname, readable, rfl⟩ := (endpoint.listed_iff name).mp listed
      exact .readable readable ih

namespace DeviceEnumeratorPtr

def enumerated (enumAudioEndpoints : EDataFlow → Collection) : List Endpoint :=
  match enumAudioEndpoints .eCapture with
  | (status, some endpoints) => if FAILED status then [] else endpoints
  | (_, none) => []

def FirstNamed (endpoints : List Endpoint) (name : StdString) (position : Nat) : Prop :=
  (∃ endpoint, endpoints[position]? = some endpoint ∧ endpoint.ListedAs name) ∧
    ∀ earlier endpoint, earlier < position → endpoints[earlier]? = some endpoint → ¬endpoint.ListedAs name

theorem listNames_eq (i : Nat) (endpoints : List Endpoint) :
    (listNames i endpoints).1 = endpoints.filterMap Endpoint.listed := by
  induction endpoints generalizing i with
  | nil => rfl
  | cons endpoint rest ih =>
    have later := ih (i + 1)
    by_cases opened : FAILED endpoint.item.1 ∨ endpoint.item.2 = false
    next => simp [listNames, Endpoint.listed, opened, later]
    next =>
      by_cases stored : FAILED endpoint.openPropertyStore.1 ∨ endpoint.openPropertyStore.2 = false
      next => simp [listNames, Endpoint.listed, opened, stored, later]
      next =>
        cases named : endpoint.friendlyName <;>
          simp [listNames, Endpoint.listed, opened, stored, named, later]

theorem findByName_eq (name : StdString) (i : Nat) (endpoints : List Endpoint) :
    (findByName name i endpoints).1 =
      (endpoints.findIdx? fun endpoint => endpoint.listed = some name).map (· + i) := by
  induction endpoints generalizing i with
  | nil => rfl
  | cons endpoint rest ih =>
    have later := ih (i + 1)
    have shifted (found : Option Nat) :
        found.map (· + (i + 1)) = (found.map (· + 1)).map (· + i) := by
      rw [Option.map_map]
      congr 1
      funext position
      simp only [Function.comp_apply]
      omega
    rw [shifted] at later
    rw [findByName, List.findIdx?_cons]
    by_cases opened : FAILED endpoint.item.1 ∨ endpoint.item.2 = false
    next =>
      have unlisted : endpoint.listed = none := by rw [Endpoint.listed, if_pos opened]
      simp only [if_pos opened, unlisted, later, reduceCtorEq, decide_false, Bool.false_eq_true, if_false]
    next =>
      by_cases stored : FAILED endpoint.openPropertyStore.1 ∨ endpoint.openPropertyStore.2 = false
      next =>
        have unlisted : endpoint.listed = none := by rw [Endpoint.listed, if_neg opened, if_pos stored]
        simp only [if_neg opened, if_pos stored, unlisted, later, reduceCtorEq, decide_false,
          Bool.false_eq_true, if_false]
      next =>
        have listed : endpoint.listed = endpoint.friendlyName := by
          rw [Endpoint.listed, if_neg opened, if_neg stored]
        by_cases same : endpoint.friendlyName = some name
        next => simp only [if_neg opened, if_neg stored, listed, same, decide_true, if_true, Option.map_some,
          Nat.zero_add]
        next => simp only [if_neg opened, if_neg stored, listed, same, later, decide_false,
          Bool.false_eq_true, if_false]

theorem getDeviceNames_eq (enumAudioEndpoints : EDataFlow → Collection) :
    (getDeviceNames enumAudioEndpoints).1 = (enumerated enumAudioEndpoints).filterMap Endpoint.listed := by
  unfold getDeviceNames enumerated
  rcases enumAudioEndpoints .eCapture with ⟨status, _ | endpoints⟩
  · rfl
  · cases failed : FAILED status with
    | true => simp [failed]
    | false => simpa [failed] using listNames_eq 0 endpoints

theorem getDeviceByName_eq (enumAudioEndpoints : EDataFlow → Collection) (name : StdString) :
    (getDeviceByName enumAudioEndpoints name).1 =
      (enumerated enumAudioEndpoints).findIdx? fun endpoint => endpoint.listed = some name := by
  unfold getDeviceByName enumerated
  rcases enumAudioEndpoints .eCapture with ⟨status, _ | endpoints⟩
  · rfl
  · cases failed : FAILED status with
    | true => simp [failed]
    | false => simpa [failed] using findByName_eq name 0 endpoints

theorem findIdx?_firstNamed (endpoints : List Endpoint) (name : StdString) (position : Nat) :
    (endpoints.findIdx? fun endpoint => endpoint.listed = some name) = some position ↔
      FirstNamed endpoints name position := by
  simp only [FirstNamed, ← Endpoint.listed_iff]
  rw [List.findIdx?_eq_some_iff_getElem]
  constructor
  next =>
    rintro ⟨bound, named, before⟩
    constructor
    · exact ⟨endpoints[position], List.getElem?_eq_getElem bound, by simpa using named⟩
    · intro earlier endpoint below found
      obtain ⟨_, rfl⟩ := List.getElem?_eq_some_iff.mp found
      simpa using before earlier below
  next =>
    rintro ⟨⟨endpoint, found, named⟩, before⟩
    obtain ⟨bound, rfl⟩ := List.getElem?_eq_some_iff.mp found
    refine ⟨bound, by simpa using named, fun earlier below => ?_⟩
    simpa using before earlier _ below (List.getElem?_eq_getElem (by omega))

theorem listing_lookup_agree (enumAudioEndpoints : EDataFlow → Collection) (name : StdString) :
    let names := (getDeviceNames enumAudioEndpoints).1
    let device := (getDeviceByName enumAudioEndpoints name).1
    (device.isSome ↔ name ∈ names) ∧
      (∀ position, device = some position ↔
        FirstNamed (enumerated enumAudioEndpoints) name position) ∧
      Listing (enumerated enumAudioEndpoints) names := by
  intro names device
  have listed : names = _ := getDeviceNames_eq enumAudioEndpoints
  have found : device = _ := getDeviceByName_eq enumAudioEndpoints name
  refine ⟨?_, ?_, ?_⟩
  · rw [found, listed, List.findIdx?_isSome, List.mem_filterMap, List.any_eq_true]
    simp only [decide_eq_true_eq]
  · intro position
    rw [found, findIdx?_firstNamed]
  · rw [listed]
    exact listing_filterMap _

end DeviceEnumeratorPtr

end Pirks.Audio
