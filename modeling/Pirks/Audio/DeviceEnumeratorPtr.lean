import Pirks.Audio.CoreAudio

set_option autoImplicit false

namespace Pirks.Audio

-- std::string holds bytes, a friendly name UTF-16 code units.
abbrev StdString := List UInt8

abbrev WideString := List UInt16

def literal (text : String) : StdString := text.toList.map fun character => character.toUInt8

-- std::string name(wname.begin(), wname.end()) converts every code unit to char.
def narrow (wname : WideString) : StdString := wname.map fun unit => unit.toUInt8

inductive PropVariant where
  -- VT_LPWSTR; none is a null pwszVal
  | lpwstr (value : Option WideString)
  | other

-- What the system replies about one item of the collection; false is a null pointer.
structure Endpoint where
  item : HRESULT × Bool
  openPropertyStore : HRESULT × Bool
  getValue : HRESULT × PropVariant

inductive ComObject where
  | collection
  | device (index : Nat)
  | propertyStore (index : Nat)
  deriving DecidableEq

inductive ComCall where
  | obtained (object : ComObject)
  | release (object : ComObject)
  | propVariantInit (index : Nat)
  | propVariantClear (index : Nat)
  deriving DecidableEq

def Endpoint.friendlyName (endpoint : Endpoint) : Option StdString :=
  match endpoint.getValue with
  | (status, .lpwstr (some wname)) => if SUCCEEDED status then some (narrow wname) else none
  | _ => none

namespace DeviceEnumeratorPtr

-- The reply to EnumAudioEndpoints: the active endpoints of a data flow.
abbrev Collection := HRESULT × Option (List Endpoint)

def getDefaultDevice (getDefaultAudioEndpoint : EDataFlow → ERole → HRESULT × Option Nat) : Option Nat :=
  let (status, device) := getDefaultAudioEndpoint .eCapture .eMultimedia
  if FAILED status then none else device

def listNames : Nat → List Endpoint → List StdString × List ComCall
  | _, [] => ([], [.release .collection])
  | i, endpoint :: rest =>
      let (names, calls) := listNames (i + 1) rest
      if FAILED endpoint.item.1 ∨ endpoint.item.2 = false then (names, calls)
      else if FAILED endpoint.openPropertyStore.1 ∨ endpoint.openPropertyStore.2 = false then
        (names, [.obtained (.device i), .release (.device i)] ++ calls)
      else
        (endpoint.friendlyName.toList ++ names,
          [.obtained (.device i), .obtained (.propertyStore i), .propVariantInit i, .propVariantClear i,
            .release (.propertyStore i), .release (.device i)] ++ calls)

def getDeviceNames (enumAudioEndpoints : EDataFlow → Collection) : List StdString × List ComCall :=
  match enumAudioEndpoints .eCapture with
  | (status, some endpoints) =>
      if FAILED status then ([], [])
      else
        let (names, calls) := listNames 0 endpoints
        (names, .obtained .collection :: calls)
  | (_, none) => ([], [])

-- The device that is found keeps its reference for the caller.
def findByName (name : StdString) : Nat → List Endpoint → Option Nat × List ComCall
  | _, [] => (none, [.release .collection])
  | i, endpoint :: rest =>
      let (found, calls) := findByName name (i + 1) rest
      if FAILED endpoint.item.1 ∨ endpoint.item.2 = false then (found, calls)
      else if FAILED endpoint.openPropertyStore.1 ∨ endpoint.openPropertyStore.2 = false then
        (found, [.obtained (.device i), .release (.device i)] ++ calls)
      else if endpoint.friendlyName = some name then
        (some i, [.obtained (.device i), .obtained (.propertyStore i), .propVariantInit i,
          .propVariantClear i, .release (.propertyStore i), .release .collection])
      else
        (found, [.obtained (.device i), .obtained (.propertyStore i), .propVariantInit i,
          .propVariantClear i, .release (.propertyStore i), .release (.device i)] ++ calls)

def getDeviceByName (enumAudioEndpoints : EDataFlow → Collection) (name : StdString) :
    Option Nat × List ComCall :=
  match enumAudioEndpoints .eCapture with
  | (status, some endpoints) =>
      if FAILED status then (none, [])
      else
        let (found, calls) := findByName name 0 endpoints
        (found, .obtained .collection :: calls)
  | (_, none) => (none, [])

end DeviceEnumeratorPtr

end Pirks.Audio
