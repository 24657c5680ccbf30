import Mathlib.Data.List.Pairwise
import Pirks.Audio.WasapiConstruction

set_option autoImplicit false

namespace Pirks.Audio

open Execution WasapiObject

-- WinAudioInputFactory::getAudioSources; the constructor of the enumerator throws.
def getAudioSources (os : Os) : Except Exception (List StdString) :=
  if FAILED os.coCreateInstance then
    .error ⟨literal "Couldn't create Device Enumerator. HRESULT = 0x", some os.coCreateInstance.toInt⟩
  else .ok (literal "Default" :: (DeviceEnumeratorPtr.getDeviceNames os.enumAudioEndpoints).1)

/-- Every call on the endpoint succeeds, and `wname` is its friendly name. -/
structure Endpoint.Readable (endpoint : Endpoint) (wname : WideString) : Prop where
  item : FAILED endpoint.item.1 = false
  device : endpoint.item.2 = true
  openPropertyStore : FAILED endpoint.openPropertyStore.1 = false
  propertyStore : endpoint.openPropertyStore.2 = true
  getValue : SUCCEEDED endpoint.getValue.1 = true
  value : endpoint.getValue.2 = .lpwstr (some wname)

def Lists (os : Os) (names : List WideString) : Prop :=
  ∃ status endpoints, os.enumAudioEndpoints .eCapture = (status, some endpoints) ∧
    FAILED status = false ∧ List.Forall₂ Endpoint.Readable endpoints names

/-- The names differ in nothing but the high bytes of their code units. -/
def Confusable (first second : WideString) : Prop :=
  List.Forall₂ (fun unit other => unit % 256 = other % 256) first second

def wideDefault : WideString := (literal "Default").map fun byte => byte.toUInt16

def Reserved (wname : WideString) : Prop := wname = [] ∨ Confusable wname wideDefault

def OpensAt (os : Os) (formats : List AudioFormat) (channels : Int32) (frameSize : UInt32)
    (audioSource : StdString) (position : Nat) : Prop :=
  (perform (chosenConstructor os formats audioSource frameSize)
      (initial channels.toUInt32.toUInt8)).2.device = some position ∧
    ∀ object, create os formats audioSource channels frameSize = some object →
      object.device = some position

theorem toUInt8_eq_iff (unit other : UInt16) : unit.toUInt8 = other.toUInt8 ↔ unit % 256 = other % 256 := by
  rw [← UInt8.toNat_inj, ← UInt16.toNat_inj]
  simp

theorem narrow_eq_iff (first second : WideString) : narrow first = narrow second ↔ Confusable first second := by
  unfold narrow Confusable
  rw [← List.forall₂_eq_eq_eq, List.forall₂_map_left_iff, List.forall₂_map_right_iff]
  simp only [toUInt8_eq_iff]

theorem narrow_reserved_iff (wname : WideString) :
    ((narrow wname).isEmpty || narrow wname = literal "Default") = true ↔ Reserved wname := by
  have default : narrow wideDefault = literal "Default" := by decide
  rw [Bool.or_eq_true, decide_eq_true_iff, Reserved, ← default, narrow_eq_iff, List.isEmpty_iff, narrow,
    List.map_eq_nil_iff]

namespace DeviceEnumeratorPtr

variable {endpoints : List Endpoint} {names : List WideString}

theorem friendlyName_readable {endpoint : Endpoint} {wname : WideString} (readable : endpoint.Readable wname) :
    endpoint.friendlyName = some (narrow wname) := by
  obtain ⟨_, _, status, value⟩ := endpoint
  have valued : value = .lpwstr (some wname) := readable.value
  have succeeded : SUCCEEDED status = true := readable.getValue
  simp [Endpoint.friendlyName, valued, succeeded]

theorem listNames_readable (readable : List.Forall₂ Endpoint.Readable endpoints names) (i : Nat) :
    (listNames i endpoints).1 = names.map narrow := by
  induction readable generalizing i with
  | nil => rfl
  | cons first _ ih =>
    simp [listNames, first.item, first.device, first.openPropertyStore, first.propertyStore,
      friendlyName_readable first, ih]

theorem findByName_readable (readable : List.Forall₂ Endpoint.Readable endpoints names) (name : StdString)
    (i : Nat) : (findByName name i endpoints).1 = ((names.map narrow).idxOf? name).map (· + i) := by
  induction readable generalizing i with
  | nil => rfl
  | @cons endpoint wname _ rest first _ ih =>
    have next := ih (i + 1)
    by_cases same : narrow wname = name
    · simp [findByName, first.item, first.device, first.openPropertyStore, first.propertyStore,
        friendlyName_readable first, same, List.idxOf?_cons]
    · simp [findByName, first.item, first.device, first.openPropertyStore, first.propertyStore,
        friendlyName_readable first, same, List.idxOf?_cons, next, Function.comp_def, Nat.add_comm,
        Nat.add_left_comm]

end DeviceEnumeratorPtr

section Selection

variable {os : Os} {names : List WideString}

theorem getAudioSources_listed (created : FAILED os.coCreateInstance = false) (lists : Lists os names) :
    getAudioSources os = .ok (literal "Default" :: names.map narrow) := by
  obtain ⟨status, endpoints, enumerated, succeeded, readable⟩ := lists
  simp [getAudioSources, created, DeviceEnumeratorPtr.getDeviceNames, enumerated, succeeded,
    DeviceEnumeratorPtr.listNames_readable readable]

theorem getDeviceByName_listed (lists : Lists os names) (name : StdString) :
    (DeviceEnumeratorPtr.getDeviceByName os.enumAudioEndpoints name).1 = (names.map narrow).idxOf? name := by
  obtain ⟨status, endpoints, enumerated, succeeded, readable⟩ := lists
  simp [DeviceEnumeratorPtr.getDeviceByName, enumerated, succeeded,
    DeviceEnumeratorPtr.findByName_readable readable]

theorem chosenConstructor_selects (os : Os) (formats : List AudioFormat) (audioSource : StdString)
    (frameSize : UInt32) :
    ∃ missing, chosenConstructor os formats audioSource frameSize =
      constructFor os formats frameSize (selectDeviceByName os audioSource) missing := by
  unfold chosenConstructor construct constructNamed
  split
  next reserved => exact ⟨_, by rw [selectDeviceByName, if_pos reserved]⟩
  next => exact ⟨_, rfl⟩

theorem opensAt_iff (registers : Registers os) (formats : List AudioFormat) (channels : Int32)
    (frameSize : UInt32) (audioSource : StdString) (position : Nat) :
    OpensAt os formats channels frameSize audioSource position ↔
      selectDeviceByName os audioSource = some position := by
  obtain ⟨missing, chosen⟩ := chosenConstructor_selects os formats audioSource frameSize
  have device := constructFor_device os formats channels.toUInt32.toUInt8 frameSize
    (selectDeviceByName os audioSource) missing registers.2
  rw [← chosen] at device
  unfold OpensAt
  rw [device]
  constructor
  · exact fun opens => opens.1
  · intro selected
    refine ⟨selected, fun object made => ?_⟩
    rw [create_eq_completes, completes_iff] at made
    rw [made.2] at device
    exact device.trans selected

theorem selectDeviceByName_iff (lists : Lists os names) {wname : WideString} {position : Nat}
    (listed : names[position]? = some wname) :
    selectDeviceByName os (narrow wname) = some position ↔
      (Reserved wname →
        DeviceEnumeratorPtr.getDefaultDevice os.getDefaultAudioEndpoint = some position) ∧
      (¬Reserved wname → ∀ earlier other, earlier < position → names[earlier]? = some other →
        ¬Confusable other wname) := by
  have known : (names.map narrow)[position]? = some (narrow wname) := by simp [listed]
  by_cases reserved : Reserved wname
  · rw [selectDeviceByName, if_pos ((narrow_reserved_iff wname).mpr reserved)]
    simp [reserved]
  · rw [selectDeviceByName, if_neg fun taken => reserved ((narrow_reserved_iff wname).mp taken),
      getDeviceByName_listed lists, List.idxOf?_eq_some_iff]
    obtain ⟨inside, same⟩ := List.getElem?_eq_some_iff.mp known
    constructor
    · intro ⟨_, _, first⟩
      refine ⟨fun taken => absurd taken reserved, fun _ earlier other before found confusable => ?_⟩
      obtain ⟨within, rfl⟩ := List.getElem?_eq_some_iff.mp found
      apply first earlier before
      simpa using (narrow_eq_iff _ _).mpr confusable
    · intro ⟨_, first⟩
      refine ⟨inside, same, fun earlier before equal => ?_⟩
      have within : earlier < names.length := by
        simp only [List.length_map] at inside
        omega
      apply first reserved earlier names[earlier] before (List.getElem?_eq_getElem within)
      exact (narrow_eq_iff _ _).mp (by simpa using equal)

def SelectOwn (os : Os) (formats : List AudioFormat) (channels : Int32) (frameSize : UInt32)
    (names : List WideString) : Prop :=
  ∀ position, position < names.length → ∃ sources listed, getAudioSources os = .ok sources ∧
    sources[position + 1]? = some listed ∧ OpensAt os formats channels frameSize listed position

theorem selectOwn_iff (registers : Registers os) (lists : Lists os names) (formats : List AudioFormat)
    (channels : Int32) (frameSize : UInt32) :
    SelectOwn os formats channels frameSize names ↔
      ∀ position wname, names[position]? = some wname →
        selectDeviceByName os (narrow wname) = some position := by
  have sources := getAudioSources_listed registers.1 lists
  constructor
  · intro own position wname found
    obtain ⟨inside, rfl⟩ := List.getElem?_eq_some_iff.mp found
    obtain ⟨_, listed, same, entry, opens⟩ := own position inside
    rw [sources] at same
    cases same
    obtain rfl : narrow names[position] = listed := by simpa [inside] using entry
    exact (opensAt_iff registers formats channels frameSize _ position).mp opens
  · intro selects position inside
    refine ⟨_, narrow names[position], sources, by simp [inside], ?_⟩
    apply (opensAt_iff registers formats channels frameSize _ position).mpr
    exact selects position names[position] (List.getElem?_eq_getElem inside)

theorem pairwise_confusable_iff (names : List WideString) :
    (names.Pairwise fun first second => ¬Confusable first second) ↔
      ∀ (position : Nat) (wname : WideString), names[position]? = some wname →
        ∀ (earlier : Nat) (other : WideString), earlier < position → names[earlier]? = some other →
          ¬Confusable other wname := by
  rw [List.pairwise_iff_getElem]
  constructor
  · intro apart position wname found earlier other before listed
    obtain ⟨inside, rfl⟩ := List.getElem?_eq_some_iff.mp found
    obtain ⟨within, rfl⟩ := List.getElem?_eq_some_iff.mp listed
    exact apart earlier position within inside before
  · intro apart earlier position within inside before
    exact apart position _ (List.getElem?_eq_getElem inside) earlier _ before
      (List.getElem?_eq_getElem within)

theorem narrow_injective_of_apart (apart : names.Pairwise fun first second => ¬Confusable first second)
    {first second : WideString} (listed : first ∈ names) (other : second ∈ names)
    (same : narrow first = narrow second) : first = second := by
  have symmetric : Std.Symm fun first second : WideString => ¬Confusable first second :=
    ⟨fun first second free confusable =>
      free ((narrow_eq_iff first second).mp ((narrow_eq_iff second first).mpr confusable).symm)⟩
  by_contra different
  exact apart.forall listed other different ((narrow_eq_iff first second).mp same)

theorem listed_sources_open_iff (os : Os) (formats : List AudioFormat) (channels : Int32)
    (frameSize : UInt32) (names : List WideString) (registers : Registers os) (lists : Lists os names) :
    (SelectOwn os formats channels frameSize names ↔
      ∀ position wname, names[position]? = some wname →
        (Reserved wname →
          DeviceEnumeratorPtr.getDefaultDevice os.getDefaultAudioEndpoint = some position) ∧
        (¬Reserved wname → ∀ earlier other, earlier < position → names[earlier]? = some other →
          ¬Confusable other wname)) ∧
    ((SelectOwn os formats channels frameSize names ∧
        (∀ first ∈ names, ∀ second ∈ names, narrow first = narrow second → first = second) ∧
        ∀ wname ∈ names, narrow wname ≠ [] ∧ narrow wname ≠ literal "Default") ↔
      (names.Pairwise fun first second => ¬Confusable first second) ∧
        ∀ wname ∈ names, ¬Reserved wname) := by
  have own_iff := selectOwn_iff registers lists formats channels frameSize
  have each : SelectOwn os formats channels frameSize names ↔ _ := own_iff.trans
    (forall₃_congr fun _ _ found => selectDeviceByName_iff lists found)
  have unreserved_iff (wname : WideString) :
      (narrow wname ≠ [] ∧ narrow wname ≠ literal "Default") ↔ ¬Reserved wname := by
    rw [← narrow_reserved_iff wname]
    simp
  refine ⟨each, ?_⟩
  simp only [unreserved_iff]
  constructor
  · intro ⟨own, _, unreserved⟩
    refine ⟨(pairwise_confusable_iff names).mpr fun position wname found => ?_, unreserved⟩
    exact (each.mp own position wname found).2 (unreserved wname (List.mem_of_getElem? found))
  · intro ⟨apart, unreserved⟩
    refine ⟨each.mpr fun position wname found => ?_, fun first listed second other =>
      narrow_injective_of_apart apart listed other, unreserved⟩
    have free := unreserved wname (List.mem_of_getElem? found)
    exact ⟨fun reserved => absurd reserved free,
      fun _ => (pairwise_confusable_iff names).mp apart position wname found⟩

end Selection

def named (wname : WideString) : Endpoint where
  item := (S_OK, true)
  openPropertyStore := (S_OK, true)
  getValue := (S_OK, .lpwstr (some wname))

def withMicrophones (names : List WideString) : Os :=
  { withDevice with enumAudioEndpoints := fun _ => (S_OK, some (names.map named)) }

theorem withMicrophones_lists (names : List WideString) : Lists (withMicrophones names) names := by
  refine ⟨S_OK, names.map named, rfl, rfl, ?_⟩
  rw [List.forall₂_map_left_iff, List.forall₂_same]
  exact fun wname _ => ⟨rfl, rfl, rfl, rfl, rfl, rfl⟩

theorem withMicrophones_registers (names : List WideString) : Registers (withMicrophones names) :=
  ⟨rfl, (by decide : withoutDevice.createEvent ≠ PlatformWindows.INVALID_HANDLE_VALUE), rfl⟩

def microphones : List WideString := [[0x4D, 0x69, 0x63], [0x4D, 0x69, 0x10D]]

theorem listed_sources_open_iff_microphones :
    (SelectOwn (withMicrophones microphones) [⟨2, "Stereo"⟩] 2 480 microphones ∧
        (∀ first ∈ microphones, ∀ second ∈ microphones, narrow first = narrow second → first = second) ∧
        ∀ wname ∈ microphones, narrow wname ≠ [] ∧ narrow wname ≠ literal "Default") ↔
      (microphones.Pairwise fun first second => ¬Confusable first second) ∧
        ∀ wname ∈ microphones, ¬Reserved wname :=
  (listed_sources_open_iff (withMicrophones microphones) [⟨2, "Stereo"⟩] 2 480 microphones
    (withMicrophones_registers microphones) (withMicrophones_lists microphones)).2

-- A and Ł: both are listed as A.
def letters : List WideString := [[0x41], [0x141]]

theorem listed_source_opens_another :
    ¬∀ (os : Os) (formats : List AudioFormat) (channels : Int32) (frameSize : UInt32)
        (names : List WideString), Registers os → Lists os names → names.Nodup →
      SelectOwn os formats channels frameSize names ∧
        (∀ first ∈ names, ∀ second ∈ names, narrow first = narrow second → first = second) ∧
        ∀ wname ∈ names, narrow wname ≠ [] ∧ narrow wname ≠ literal "Default" := by
  intro always
  have own := (always (withMicrophones letters) [⟨2, "Stereo"⟩] 2 480 letters
    (withMicrophones_registers letters) (withMicrophones_lists letters) (by decide)).1
  obtain ⟨sources, listed, same, entry, opens, _⟩ := own 1 (by decide)
  have names : getAudioSources (withMicrophones letters) = .ok [literal "Default", [0x41], [0x41]] := rfl
  rw [names] at same
  cases same
  cases entry
  have first : (perform (chosenConstructor (withMicrophones letters) [⟨2, "Stereo"⟩] [0x41] 480)
      (initial 2)).2.device = some 0 := rfl
  have neither : (some 0 : Option Nat) = some 1 := first.symm.trans opens
  exact absurd neither (by decide)

end Pirks.Audio
