import Mathlib.Data.List.Basic
import Pirks.Audio.DeviceListing

set_option autoImplicit false

namespace Pirks.Audio

inductive Resource where
  | object (object : ComObject)
  | friendlyName (index : Nat)
  deriving DecidableEq

def ComCall.about : ComCall → Resource
  | .obtained item | .release item => .object item
  | .propVariantInit index | .propVariantClear index => .friendlyName index

def Resource.acquire : Resource → ComCall
  | .object item => .obtained item
  | .friendlyName index => .propVariantInit index

def Resource.dispose : Resource → ComCall
  | .object item => .release item
  | .friendlyName index => .propVariantClear index

def Resource.index : Resource → Option Nat
  | .object .collection => none
  | .object (.device index) | .object (.propertyStore index) | .friendlyName index => some index

def history (resource : Resource) (calls : List ComCall) : List ComCall :=
  calls.filter fun call => call.about = resource

def Settled (resource : Resource) (calls : List ComCall) : Prop :=
  history resource calls = [] ∨ history resource calls = [resource.acquire, resource.dispose]

/-- The resource that is kept was taken once and not handed back; any other one is settled. -/
def Accounted (kept : Option Resource) (calls : List ComCall) (resource : Resource) : Prop :=
  if kept = some resource then history resource calls = [resource.acquire] else Settled resource calls

variable {kept : Option Resource} {calls block : List ComCall} {resource : Resource} {i : Nat}

@[simp] theorem history_append (resource : Resource) (first second : List ComCall) :
    history resource (first ++ second) = history resource first ++ history resource second := by
  simp [history]

@[simp] theorem history_cons (resource : Resource) (call : ComCall) (rest : List ComCall) :
    history resource (call :: rest) =
      if call.about = resource then call :: history resource rest else history resource rest := by
  by_cases same : call.about = resource <;> simp [history, same]

@[simp] theorem history_nil (resource : Resource) : history resource [] = [] := rfl

theorem history_elsewhere (own : ∀ call ∈ block, call.about.index = some i)
    (other : resource.index ≠ some i) : history resource block = [] := by
  rw [history, List.filter_eq_nil_iff]
  intro call member
  have here := own call member
  intro same
  exact other (by rw [← of_decide_eq_true same, here])

def Endpoint.Yields (endpoint : Endpoint) : Resource → Prop
  | .object .collection => False
  | .object (.device _) => ¬(FAILED endpoint.item.1 ∨ endpoint.item.2 = false)
  | .object (.propertyStore _) | .friendlyName _ =>
      ¬(FAILED endpoint.item.1 ∨ endpoint.item.2 = false) ∧
        ¬(FAILED endpoint.openPropertyStore.1 ∨ endpoint.openPropertyStore.2 = false)

namespace DeviceEnumeratorPtr

/-- What is left of a run from an item on: the collection is released, and nothing concerns the items
already seen. -/
structure Remaining (i : Nat) (kept : Option Resource) (calls : List ComCall) : Prop where
  collection : history (.object .collection) calls = [.release .collection]
  earlier : ∀ resource index, resource.index = some index → index < i →
    history resource calls = [] ∧ kept ≠ some resource
  items : ∀ resource index, resource.index = some index → Accounted kept calls resource

theorem Remaining.empty (i : Nat) : Remaining i none [.release .collection] where
  collection := by simp [ComCall.about]
  earlier := by
    intro resource index own below
    have other : resource ≠ .object .collection := by
      rintro rfl
      cases own
    simp [ComCall.about, other.symm]
  items := by
    intro resource index own
    have other : resource ≠ .object .collection := by
      rintro rfl
      cases own
    simp [Accounted, Settled, ComCall.about, other.symm]

theorem Remaining.visit (remaining : Remaining (i + 1) kept calls)
    (own : ∀ call ∈ block, call.about.index = some i)
    (settled : ∀ resource, resource.index = some i → Settled resource block) :
    Remaining i kept (block ++ calls) where
  collection := by
    have none_ : history (.object .collection) block = [] := history_elsewhere own (by simp [Resource.index])
    rw [history_append, none_, remaining.collection, List.nil_append]
  earlier := by
    intro resource index about below
    have none_ : history resource block = [] := history_elsewhere own (by rw [about]; simp; omega)
    have later := remaining.earlier resource index about (by omega)
    rw [history_append, none_, later.1]
    exact ⟨rfl, later.2⟩
  items := by
    intro resource index about
    by_cases here : index = i
    next =>
      subst here
      have later := remaining.earlier resource index about (by omega)
      have mine := settled resource about
      rw [Accounted, if_neg later.2, Settled, history_append, later.1, List.append_nil]
      exact mine
    next =>
      have none_ : history resource block = [] := history_elsewhere own (by rw [about]; simp [here])
      have later := remaining.items resource index about
      rw [Accounted, Settled, history_append, none_, List.nil_append]
      exact later

theorem Remaining.found (i : Nat) : Remaining i (some (.object (.device i)))
    [.obtained (.device i), .obtained (.propertyStore i), .propVariantInit i, .propVariantClear i,
      .release (.propertyStore i), .release .collection] where
  collection := by simp [ComCall.about]
  earlier := by
    intro resource index about below
    rcases resource with ⟨_ | device | store⟩ | variant <;>
      simp_all [Resource.index, ComCall.about, Nat.ne_of_gt]
  items := by
    intro resource index about
    rcases resource with ⟨_ | device | store⟩ | variant
    next => cases about
    next =>
      by_cases same : i = device <;> simp [Accounted, Settled, ComCall.about, Resource.acquire, same]
    next =>
      by_cases same : i = store <;>
        simp [Accounted, Settled, ComCall.about, Resource.acquire, Resource.dispose, same]
    next =>
      by_cases same : i = variant <;>
        simp [Accounted, Settled, ComCall.about, Resource.acquire, Resource.dispose, same]

theorem Remaining.unstored (remaining : Remaining (i + 1) kept calls) :
    Remaining i kept ([.obtained (.device i), .release (.device i)] ++ calls) := by
  apply remaining.visit
  next => simp [ComCall.about, Resource.index]
  next =>
    intro resource about
    rcases resource with ⟨_ | device | store⟩ | variant <;>
      simp_all [Resource.index, ComCall.about, Settled, Resource.acquire, Resource.dispose]

theorem Remaining.examined (remaining : Remaining (i + 1) kept calls) :
    Remaining i kept ([.obtained (.device i), .obtained (.propertyStore i), .propVariantInit i,
      .propVariantClear i, .release (.propertyStore i), .release (.device i)] ++ calls) := by
  apply remaining.visit
  next => simp [ComCall.about, Resource.index]
  next =>
    intro resource about
    rcases resource with ⟨_ | device | store⟩ | variant <;>
      simp_all [Resource.index, ComCall.about, Settled, Resource.acquire, Resource.dispose]

theorem Remaining.skipped (remaining : Remaining (i + 1) kept calls) : Remaining i kept calls where
  collection := remaining.collection
  earlier := fun resource index about below => remaining.earlier resource index about (by omega)
  items := remaining.items

theorem listNames_remaining (i : Nat) (endpoints : List Endpoint) :
    Remaining i none (listNames i endpoints).2 := by
  induction endpoints generalizing i with
  | nil => exact Remaining.empty i
  | cons endpoint rest ih =>
    have later := ih (i + 1)
    by_cases opened : FAILED endpoint.item.1 ∨ endpoint.item.2 = false
    next =>
      simp only [listNames, if_pos opened]
      exact later.skipped
    next =>
      by_cases stored : FAILED endpoint.openPropertyStore.1 ∨ endpoint.openPropertyStore.2 = false
      next =>
        simp only [listNames, if_neg opened, if_pos stored]
        exact later.unstored
      next =>
        simp only [listNames, if_neg opened, if_neg stored]
        exact later.examined

def keptDevice (found : Option Nat) : Option Resource := found.map fun i => .object (.device i)

theorem findByName_remaining (name : StdString) (i : Nat) (endpoints : List Endpoint) :
    Remaining i (keptDevice (findByName name i endpoints).1) (findByName name i endpoints).2 := by
  induction endpoints generalizing i with
  | nil => exact Remaining.empty i
  | cons endpoint rest ih =>
    have later := ih (i + 1)
    by_cases opened : FAILED endpoint.item.1 ∨ endpoint.item.2 = false
    next =>
      simp only [findByName, if_pos opened]
      exact later.skipped
    next =>
      by_cases stored : FAILED endpoint.openPropertyStore.1 ∨ endpoint.openPropertyStore.2 = false
      next =>
        simp only [findByName, if_neg opened, if_pos stored]
        exact later.unstored
      next =>
        by_cases same : endpoint.friendlyName = some name
        next =>
          simp only [findByName, if_neg opened, if_neg stored, if_pos same]
          exact Remaining.found i
        next =>
          simp only [findByName, if_neg opened, if_neg stored, if_neg same]
          exact later.examined

theorem Remaining.accounted (remaining : Remaining 0 kept calls) (kind : kept ≠ some (.object .collection))
    (resource : Resource) : Accounted kept (.obtained .collection :: calls) resource := by
  cases about : resource.index with
  | none =>
    have same : resource = .object .collection := by
      rcases resource with ⟨_ | device | store⟩ | variant <;> simp_all [Resource.index]
    subst same
    have first : (ComCall.obtained .collection).about = .object .collection := rfl
    rw [Accounted, if_neg kind, Settled, history_cons, if_pos first, remaining.collection]
    exact .inr rfl
  | some index =>
    have other : (ComCall.obtained .collection).about ≠ resource := by
      rintro rfl
      cases about
    have items := remaining.items resource index about
    rw [Accounted, Settled, history_cons, if_neg other]
    exact items

theorem unreached_accounted (resource : Resource) : Accounted none [] resource := .inl rfl

theorem references_balanced (enumAudioEndpoints : EDataFlow → Collection) (name : StdString)
    (resource : Resource) :
    Accounted none (getDeviceNames enumAudioEndpoints).2 resource ∧
      Accounted (keptDevice (getDeviceByName enumAudioEndpoints name).1)
        (getDeviceByName enumAudioEndpoints name).2 resource := by
  unfold getDeviceNames getDeviceByName
  rcases enumAudioEndpoints .eCapture with ⟨status, _ | endpoints⟩
  next => exact ⟨unreached_accounted resource, unreached_accounted resource⟩
  next =>
    cases failed : FAILED status with
    | true =>
      simp only [failed, if_true]
      exact ⟨unreached_accounted resource, unreached_accounted resource⟩
    | false =>
      simp only [failed, Bool.false_eq_true, if_false]
      constructor
      next => exact (listNames_remaining 0 endpoints).accounted (by simp) resource
      next =>
        apply (findByName_remaining name 0 endpoints).accounted
        cases (findByName name 0 endpoints).1 <;> simp [keptDevice]

section Obtained

/-- The loop gets to the item of the resource, past no item that stops it, and the call succeeds there. -/
def Obtains (Stops : Endpoint → Prop) (i : Nat) (endpoints : List Endpoint) (resource : Resource) : Prop :=
  ∃ offset endpoint, endpoints[offset]? = some endpoint ∧
    (∀ earlier other, earlier < offset → endpoints[earlier]? = some other → ¬Stops other) ∧
    resource.index = some (i + offset) ∧ endpoint.Yields resource

variable {Stops : Endpoint → Prop} {endpoint : Endpoint} {rest : List Endpoint} {name : StdString}

theorem obtains_nil : ¬Obtains Stops i [] resource := by
  rintro ⟨offset, endpoint, found, -⟩
  cases found

theorem obtains_cons :
    Obtains Stops i (endpoint :: rest) resource ↔
      resource.index = some i ∧ endpoint.Yields resource ∨ ¬Stops endpoint ∧ Obtains Stops (i + 1) rest resource := by
  constructor
  next =>
    rintro ⟨offset, found, there, before, own, yields⟩
    cases offset with
    | zero =>
      cases there
      exact .inl ⟨own, yields⟩
    | succ offset =>
      refine .inr ⟨before 0 endpoint (by omega) rfl, offset, found, there, ?_, ?_, yields⟩
      next => exact fun earlier other below at_ => before (earlier + 1) other (by omega) at_
      next => rw [own, Nat.add_right_comm, Nat.add_assoc]
  next =>
    rintro (⟨own, yields⟩ | ⟨goes, offset, found, there, before, own, yields⟩)
    next => exact ⟨0, endpoint, rfl, by simp, own, yields⟩
    next =>
      refine ⟨offset + 1, found, there, fun earlier other below at_ => ?_, ?_, yields⟩
      next =>
        cases earlier with
        | zero =>
          cases at_
          exact goes
        | succ earlier => exact before earlier other (by omega) at_
      next => rw [own, Nat.add_right_comm, Nat.add_assoc]

theorem acquire_skipped (resource : Resource) (opened : FAILED endpoint.item.1 ∨ endpoint.item.2 = false) :
    ¬endpoint.Yields resource := by
  rcases resource with ⟨_ | _ | _⟩ | _ <;> simp [Endpoint.Yields, opened]

theorem acquire_unstored (opened : ¬(FAILED endpoint.item.1 ∨ endpoint.item.2 = false))
    (stored : FAILED endpoint.openPropertyStore.1 ∨ endpoint.openPropertyStore.2 = false) :
    resource.acquire ∈ [ComCall.obtained (.device i), .release (.device i)] ↔
      resource.index = some i ∧ endpoint.Yields resource := by
  rcases resource with ⟨_ | device | store⟩ | variant <;>
    simp [Resource.acquire, Resource.index, Endpoint.Yields, opened, stored]

theorem acquire_examined (opened : ¬(FAILED endpoint.item.1 ∨ endpoint.item.2 = false))
    (stored : ¬(FAILED endpoint.openPropertyStore.1 ∨ endpoint.openPropertyStore.2 = false)) (last : ComCall)
    (released : ∀ resource : Resource, resource.acquire ≠ last) :
    resource.acquire ∈ [ComCall.obtained (.device i), .obtained (.propertyStore i), .propVariantInit i,
        .propVariantClear i, .release (.propertyStore i), last] ↔
      resource.index = some i ∧ endpoint.Yields resource := by
  have other := released resource
  rcases resource with ⟨_ | device | store⟩ | variant <;>
    simp_all [Resource.acquire, Resource.index, Endpoint.Yields]

theorem acquire_not_release (object : ComObject) (resource : Resource) : resource.acquire ≠ .release object := by
  cases resource <;> simp [Resource.acquire]

theorem listNames_obtains (i : Nat) (endpoints : List Endpoint) :
    resource.acquire ∈ (listNames i endpoints).2 ↔ Obtains (fun _ => False) i endpoints resource := by
  induction endpoints generalizing i with
  | nil => simpa [listNames, acquire_not_release] using obtains_nil
  | cons endpoint rest ih =>
    rw [obtains_cons, ← ih (i + 1)]
    by_cases opened : FAILED endpoint.item.1 ∨ endpoint.item.2 = false
    next => simp only [listNames, if_pos opened, acquire_skipped resource opened, and_false, false_or, not_false_eq_true,
      true_and]
    next =>
      by_cases stored : FAILED endpoint.openPropertyStore.1 ∨ endpoint.openPropertyStore.2 = false
      next =>
        simp only [listNames, if_neg opened, if_pos stored, List.mem_append, acquire_unstored opened stored,
          not_false_eq_true, true_and]
      next =>
        simp only [listNames, if_neg opened, if_neg stored, List.mem_append,
          acquire_examined opened stored _ (acquire_not_release _), not_false_eq_true, true_and]

theorem findByName_obtains (name : StdString) (i : Nat) (endpoints : List Endpoint) :
    resource.acquire ∈ (findByName name i endpoints).2 ↔
      Obtains (fun endpoint => endpoint.ListedAs name) i endpoints resource := by
  induction endpoints generalizing i with
  | nil => simpa [findByName, acquire_not_release] using obtains_nil
  | cons endpoint rest ih =>
    rw [obtains_cons, ← ih (i + 1), ← Endpoint.listed_iff]
    by_cases opened : FAILED endpoint.item.1 ∨ endpoint.item.2 = false
    next =>
      simp only [findByName, Endpoint.listed, if_pos opened, acquire_skipped resource opened, and_false, false_or,
        reduceCtorEq, not_false_eq_true, true_and]
    next =>
      by_cases stored : FAILED endpoint.openPropertyStore.1 ∨ endpoint.openPropertyStore.2 = false
      next =>
        simp only [findByName, Endpoint.listed, if_neg opened, if_pos stored, List.mem_append,
          acquire_unstored opened stored, reduceCtorEq, not_false_eq_true, true_and]
      next =>
        by_cases same : endpoint.friendlyName = some name
        next =>
          simp only [findByName, Endpoint.listed, if_neg opened, if_neg stored, same, if_true,
            acquire_examined opened stored _ (acquire_not_release _), not_true_eq_false, false_and, or_false]
        next =>
          simp only [findByName, Endpoint.listed, if_neg opened, if_neg stored, same, if_false, List.mem_append,
            acquire_examined opened stored _ (acquire_not_release _), not_false_eq_true, true_and]

def Enumerates (enumAudioEndpoints : EDataFlow → Collection) : Prop :=
  FAILED (enumAudioEndpoints .eCapture).1 = false ∧ (enumAudioEndpoints .eCapture).2.isSome

theorem acquire_eq_collection : resource.acquire = .obtained .collection ↔ resource = .object .collection := by
  rcases resource with ⟨_ | _ | _⟩ | _ <;> simp [Resource.acquire]

theorem getDeviceNames_obtains (enumAudioEndpoints : EDataFlow → Collection) (resource : Resource) :
    resource.acquire ∈ (getDeviceNames enumAudioEndpoints).2 ↔
      (resource = .object .collection ∧ Enumerates enumAudioEndpoints) ∨
        Obtains (fun _ => False) 0 (enumerated enumAudioEndpoints) resource := by
  unfold getDeviceNames Enumerates enumerated
  rcases enumAudioEndpoints .eCapture with ⟨status, _ | endpoints⟩
  next => simp [obtains_nil]
  next =>
    cases failed : FAILED status with
    | true => simp [failed, obtains_nil]
    | false => simp [failed, listNames_obtains, acquire_eq_collection]

theorem getDeviceByName_obtains (enumAudioEndpoints : EDataFlow → Collection) (name : StdString)
    (resource : Resource) :
    resource.acquire ∈ (getDeviceByName enumAudioEndpoints name).2 ↔
      (resource = .object .collection ∧ Enumerates enumAudioEndpoints) ∨
        Obtains (fun endpoint => endpoint.ListedAs name) 0 (enumerated enumAudioEndpoints) resource := by
  unfold getDeviceByName Enumerates enumerated
  rcases enumAudioEndpoints .eCapture with ⟨status, _ | endpoints⟩
  next => simp [obtains_nil]
  next =>
    cases failed : FAILED status with
    | true => simp [failed, obtains_nil]
    | false => simp [failed, findByName_obtains, acquire_eq_collection]

example : history (.object (.device 0)) (getDeviceNames fun _ => (S_OK, some [named [0x41]])).2 =
    [.obtained (.device 0), .release (.device 0)] := by decide

end Obtained

end DeviceEnumeratorPtr

end Pirks.Audio
