set_option autoImplicit false

namespace Pirks.Audio

abbrev HRESULT := Int32

def SUCCEEDED (status : HRESULT) : Bool := decide (0 ≤ status)

def FAILED (status : HRESULT) : Bool := decide (status < 0)

def S_OK : HRESULT := 0

def AUDCLNT_E_DEVICE_INVALIDATED : HRESULT := (0x88890004 : UInt32).toInt32

abbrev DWORD := UInt32

def WAIT_OBJECT_0 : DWORD := 0

def WAIT_TIMEOUT : DWORD := 0x102

inductive EDataFlow where
  | eRender
  | eCapture
  | eAll
  deriving DecidableEq

inductive ERole where
  | eConsole
  | eMultimedia
  | eCommunications
  deriving DecidableEq

inductive CaptureResult where
  | OK
  | Reinit
  | Timeout
  | Interrupted
  | Error
  deriving DecidableEq

inductive IID where
  | IUnknown
  | IMMNotificationClient
  | other
  deriving DecidableEq

def E_NOINTERFACE : HRESULT := (0x80004002 : UInt32).toInt32

structure AudioNotificationImpl where
  defaultDeviceChanged : Bool

namespace AudioNotificationImpl

-- A default constructed std::atomic_bool holds false.
def construct : AudioNotificationImpl := ⟨false⟩

def onDefaultDeviceChanged (self : AudioNotificationImpl) (flow : EDataFlow) (_role : ERole)
    (_deviceId : String) : AudioNotificationImpl :=
  if flow = .eRender then ⟨true⟩ else self

def queryInterface (riid : IID) : HRESULT :=
  if riid = .IUnknown then S_OK
  else if riid = .IMMNotificationClient then S_OK
  else E_NOINTERFACE

-- exchange(false)
def checkDefaultDeviceChanged (self : AudioNotificationImpl) : Bool × AudioNotificationImpl :=
  (self.defaultDeviceChanged, ⟨false⟩)

theorem onDefaultDeviceChanged_latch (self : AudioNotificationImpl) (flow : EDataFlow) (role : ERole)
    (deviceId : String) :
    (self.onDefaultDeviceChanged flow role deviceId).defaultDeviceChanged =
      (self.defaultDeviceChanged || decide (flow = .eRender)) := by
  by_cases render : flow = .eRender <;> simp [onDefaultDeviceChanged, render]

end AudioNotificationImpl

end Pirks.Audio
