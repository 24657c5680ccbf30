import Pirks.Audio.DeviceEnumeratorPtr
import Pirks.Audio.WasapiCapture
import Pirks.Foundation.Execution
import Pirks.Windows.WinHandle

set_option autoImplicit false

namespace Pirks.Audio

open Execution PlatformWindows

-- A std::exception: its text, and the code printed after it in hexadecimal.
structure Exception where
  what : StdString
  code : Option Int
  deriving DecidableEq

structure AudioFormat where
  channelCount : UInt8
  name : String

-- The replies of the system to the calls that construction makes. The replies about a format go by
-- its position in the table.
structure Os where
  coCreateInstance : HRESULT
  createEvent : HANDLE
  registerEndpointNotificationCallback : HRESULT
  getDefaultAudioEndpoint : EDataFlow → ERole → HRESULT × Option Nat
  enumAudioEndpoints : EDataFlow → DeviceEnumeratorPtr.Collection
  activate : Nat → HRESULT
  getMixFormat : Nat → HRESULT
  initialize_ : Nat → HRESULT
  -- The value is indeterminate when the call fails.
  getDevicePeriod : HRESULT × Int64
  getBufferSize : HRESULT × UInt32
  -- std::vector::resize throws std::bad_alloc otherwise
  allocates : UInt32 → Bool
  getService : HRESULT
  setEventHandle : HRESULT
  avSetMmThreadCharacteristics : HANDLE
  getLastError : DWORD
  start : HRESULT

inductive HandleMember where
  | audioEvent
  | mmcssTaskHandle
  deriving DecidableEq

inductive Effect where
  | registered
  | unregistered
  | taskStarted (handle : HANDLE)
  | taskReverted (handle : HANDLE)
  | closeHandle (member : HandleMember) (handle : HANDLE)
  deriving DecidableEq

structure WasapiObject where
  audioEvent : UniqueHandle HANDLE
  device : Option Nat
  audioClient : Option AudioFormat
  defaultLatency : Option DWORD
  bufferSize : Option UInt32
  channels : UInt8
  mmcssTaskHandle : UniqueHandle HANDLE
  effects : List Effect

abbrev Construct := Procedure Exception WasapiObject

def ensure (holds : Bool) (error : Exception) : Construct Unit :=
  if holds then return () else throw error

-- if (FAILED(status)) throw
def ensureSucceeded (status : HRESULT) (what : String) : Construct Unit :=
  ensure (!FAILED status) ⟨literal what, some status.toInt⟩

def emit (effects : List Effect) : Construct Unit :=
  modify fun object => { object with effects := object.effects ++ effects }

namespace WasapiObject

def initial (channels : UInt8) : WasapiObject where
  audioEvent := .default WinHandle
  device := none
  audioClient := none
  defaultLatency := none
  bufferSize := none
  channels := channels
  mmcssTaskHandle := .default WinHandle
  effects := []

-- audioEvent_ = handle, a move assignment from a temporary
def assignAudioEvent (handle : HANDLE) : Construct Unit := do
  let (calls, self, _) := (← get).audioEvent.moveAssign WinHandle ⟨handle⟩
  modify fun object => { object with audioEvent := self }
  emit (calls.map (.closeHandle .audioEvent))

def assignMmcssTaskHandle (handle : HANDLE) : Construct Unit := do
  let (calls, self, _) := (← get).mmcssTaskHandle.moveAssign WinHandle ⟨handle⟩
  modify fun object => { object with mmcssTaskHandle := self }
  emit (calls.map (.closeHandle .mmcssTaskHandle))

def registerNotifications (os : Os) : Construct Unit := do
  assignAudioEvent os.createEvent
  ensure ((← get).audioEvent.valid WinHandle) ⟨literal "Unable to create Event handle", none⟩
  ensureSucceeded (AudioNotificationImpl.queryInterface .IMMNotificationClient)
    "Unable to query IMMNotificationClient interface . HRESULT = 0x"
  ensureSucceeded os.registerEndpointNotificationCallback
    "Couldn't register endpoint notification. HRESULT = 0x"
  emit [.registered]

def audioClientPtr (os : Os) (position : Nat) (format : AudioFormat) : Except Exception Unit :=
  let status := os.activate position
  if FAILED status then throw ⟨literal "Couldn't create Audio Client. HRESULT = 0x", some status.toInt⟩
  else
    let status := os.getMixFormat position
    if FAILED status then
      throw ⟨literal "Couldn't get mix format for audio device. HRESULT = 0x", some status.toInt⟩
    else
      let status := os.initialize_ position
      -- if (status): success codes other than S_OK throw as well
      if status ≠ S_OK then
        throw ⟨literal "Couldn't initialize audio client for " ++ literal format.name ++
          literal ". HRESULT = 0x", some status.toInt⟩
      else return ()

-- The loop over s_AudioFormats: an exception moves on to the next format.
def tryFormats (os : Os) : Nat → List AudioFormat → Construct Unit
  | _, [] => return ()
  | position, format :: rest => do
      if format.channelCount ≠ (← get).channels then tryFormats os (position + 1) rest
      else
        match audioClientPtr os position format with
        | .ok () => modify fun object => { object with audioClient := some format }
        | .error _ => tryFormats os (position + 1) rest

def openClient (os : Os) (formats : List AudioFormat) (device : Option Nat) (missing : StdString) :
    Construct Unit := do
  modify fun object => { object with device }
  ensure device.isSome ⟨missing, none⟩
  tryFormats os 0 formats
  ensure (← get).audioClient.isSome ⟨literal "Couldn't find supported format for audio", none⟩

def prepareBuffer (os : Os) (frameSize : UInt32) : Construct Unit := do
  let (_, defaultLatency) := os.getDevicePeriod
  modify fun object => { object with defaultLatency := some (defaultLatency / 1000).toUInt64.toUInt32 }
  let (status, frames) := os.getBufferSize
  ensureSucceeded status "Couldn't acquire the number of audio frames. HRESULT = 0x"
  let bufferSize := WasapiAudioInput.bufferSize frames frameSize (← get).channels
  ensure (os.allocates bufferSize) ⟨literal "std::bad_alloc", none⟩
  modify fun object => { object with bufferSize := some bufferSize }

-- AvSetMmThreadCharacteristics returns NULL when it fails.
def started (handle : HANDLE) : List Effect := if handle = nullptr then [] else [.taskStarted handle]

def startCapture (os : Os) : Construct Unit := do
  ensureSucceeded os.getService "Couldn't initialize audio capture client. HRESULT = 0x"
  ensureSucceeded os.setEventHandle "Couldn't set event handle. HRESULT = 0x"
  let handle := os.avSetMmThreadCharacteristics
  emit (started handle)
  assignMmcssTaskHandle handle
  ensure ((← get).mmcssTaskHandle.valid WinHandle)
    ⟨literal "Couldn't associate audio capture thread with Pro Audio MMCSS task. GetLastError = 0x",
      some os.getLastError.toNat⟩
  ensureSucceeded os.start "Couldn't start recording. HRESULT = 0x"

def constructFor (os : Os) (formats : List AudioFormat) (frameSize : UInt32) (device : Option Nat)
    (missing : StdString) : Construct Unit := do
  registerNotifications os
  openClient os formats device missing
  prepareBuffer os frameSize
  startCapture os

def construct (os : Os) (formats : List AudioFormat) (frameSize : UInt32) : Construct Unit :=
  constructFor os formats frameSize (DeviceEnumeratorPtr.getDefaultDevice os.getDefaultAudioEndpoint)
    (literal "Can't find default device")

def selectDeviceByName (os : Os) (audioSource : StdString) : Option Nat :=
  if audioSource.isEmpty || audioSource = literal "Default" then
    DeviceEnumeratorPtr.getDefaultDevice os.getDefaultAudioEndpoint
  else (DeviceEnumeratorPtr.getDeviceByName os.enumAudioEndpoints audioSource).1

def constructNamed (os : Os) (formats : List AudioFormat) (frameSize : UInt32) (audioSource : StdString) :
    Construct Unit :=
  constructFor os formats frameSize (selectDeviceByName os audioSource)
    (literal "Can't find audio device: " ++ audioSource)

-- The body of ~WasapiAudioInput; none is std::terminate. The enumerator is not null here, because its
-- constructor throws otherwise.
def destructor (self : WasapiObject) : Option (List Effect) :=
  let status := AudioNotificationImpl.queryInterface .IMMNotificationClient
  if FAILED status then none
  else
    some (.unregistered ::
      if self.mmcssTaskHandle.valid WinHandle then [.taskReverted self.mmcssTaskHandle.handle] else [])

-- The destructors of the members, in reverse order of declaration.
def destroyMembers (self : WasapiObject) : List Effect :=
  (self.mmcssTaskHandle.destroy WinHandle).map (.closeHandle .mmcssTaskHandle) ++
    (self.audioEvent.destroy WinHandle).map (.closeHandle .audioEvent)

-- The effects of an object from its construction to its end. When the enumerator cannot be created
-- the body never runs; when the body throws, the members are destroyed but ~WasapiAudioInput is not run.
def lifetime (os : Os) (channels : UInt8) (body : Construct Unit) : List Effect :=
  if FAILED os.coCreateInstance then []
  else
    match perform body (initial channels) with
    | (.ok _, self) =>
        match self.destructor with
        | some effects => self.effects ++ effects ++ self.destroyMembers
        | none => self.effects
    | (.error _, self) => self.effects ++ self.destroyMembers

end WasapiObject

-- WinAudioInputFactory::create chooses the constructor, and turns an exception into nullptr.
def chosenConstructor (os : Os) (formats : List AudioFormat) (audioSource : StdString) (frameSize : UInt32) :
    Construct Unit :=
  if audioSource.isEmpty || audioSource = literal "Default" then WasapiObject.construct os formats frameSize
  else WasapiObject.constructNamed os formats frameSize audioSource

def create (os : Os) (formats : List AudioFormat) (audioSource : StdString) (channels : Int32)
    (frameSize : UInt32) : Option WasapiObject :=
  if FAILED os.coCreateInstance then none
  else
    match perform (chosenConstructor os formats audioSource frameSize)
        (.initial channels.toUInt32.toUInt8) with
    | (.ok _, self) => some self
    | (.error _, _) => none

end Pirks.Audio
