import Pirks.Foundation.BoundedFifo
import Pirks.Foundation.CStrings
import Pirks.Foundation.CircularCells
import Pirks.Foundation.ClockedMonitor
import Pirks.Foundation.Custody
import Pirks.Foundation.Execution
import Pirks.Foundation.Filling
import Pirks.Foundation.InputStream
import Pirks.Foundation.Interleaving
import Pirks.Foundation.Linearization
import Pirks.Foundation.Machine
import Pirks.Foundation.Monitor
import Pirks.Foundation.MonitorCalls
import Pirks.Foundation.MonitorSchedule
import Pirks.Foundation.OutputStream
import Pirks.Foundation.Schedule
import Pirks.Foundation.SharedHeap
import Pirks.Foundation.Slots
import Pirks.Common.CircularBuffer
import Pirks.Common.CircularBufferContents
import Pirks.Common.CircularBufferSections
import Pirks.Common.CircularBufferThreads
import Pirks.Common.CircularBufferFifo
import Pirks.Common.CircularBufferHistory
import Pirks.Common.CircularBufferSafety
import Pirks.Common.CircularBufferWakeups
import Pirks.Common.CircularBufferConservation
import Pirks.Common.CircularBufferFullness
import Pirks.Common.CircularBufferPeek
import Pirks.Common.CircularBufferStopped
import Pirks.Common.CircularBufferProgress
import Pirks.Common.CircularBufferTimed
import Pirks.Common.CircularBufferLinearization
import Pirks.Common.CircularBufferBatchPop
import Pirks.Common.CircularBufferBatches
import Pirks.Common.CircularBufferToStr
import Pirks.Common.CircularBufferReadBack
import Pirks.Common.CircularBufferInterrupted
import Pirks.Common.CircularBufferBudget
import Pirks.Common.MemoryUtils
import Pirks.Common.MemoryUtilsRows
import Pirks.Common.MemoryUtilsLog
import Pirks.Windows.Interface
import Pirks.Windows.WinHandle
import Pirks.Audio.CoreAudio
import Pirks.Audio.WasapiCapture
import Pirks.Audio.WasapiStream
import Pirks.Audio.WasapiProgress
import Pirks.Audio.WasapiClient
import Pirks.Audio.DefaultDevice
import Pirks.Audio.DeviceEnumeratorPtr
import Pirks.Audio.DeviceReferences
import Pirks.Audio.WasapiLifetime
import Pirks.Windows.ComInitializer
import Pirks.Audio.WasapiRegistration
import Pirks.Audio.WasapiConstruction
import Pirks.Audio.WasapiInitialised
import Pirks.Audio.WasapiCapacity
import Pirks.Audio.WasapiAlignment
import Pirks.Audio.AudioFormats
import Pirks.Audio.AudioClientPtr
import Pirks.Audio.AudioSources
import Pirks.Audio.DeviceListing
import Pirks.Audio.CaptureDevice
import Pirks.Audio.MacAudioInput
import Pirks.Audio.MacAudioProgress
import Pirks.Audio.MacAudioStream
import Pirks.Audio.MacAudioInputFactory
import Pirks.Server.Server
import Pirks.Server.Main
