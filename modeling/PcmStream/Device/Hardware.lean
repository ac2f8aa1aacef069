/-
  Hardware parameters: the configuration space of a device that is being configured.

  A configuration is narrowed down by requests, one parameter each, and takes effect when it is
  installed.  The `near` requests answer with the supported value closest to the one asked for; all
  others just succeed or fail.

  Requests are data, and `Hardware` is anything that answers them out of a state of its own.
  Nothing is assumed about how it does so: an answer may depend on every earlier request, and a
  failing request may change the state too.
-/
import PcmStream.Sample.Format
import PcmStream.Device.Status

namespace PcmStream

/-- How samples of different channels are laid out in device memory. -/
inductive Access
  /-- All channels of a frame are stored next to each other. -/
  | interleaved
  /-- Each channel is stored in a buffer of its own. -/
  | planar
  deriving DecidableEq, Repr

/-- The name of an access mode. -/
def Access.name : Access → String
  | interleaved => "interleaved"
  | planar => "noninterleaved"

/-- The parameters in the order in which they are settled. -/
inductive Step
  /-- The access mode. -/
  | access
  /-- The sample format. -/
  | format
  /-- The number of channels. -/
  | channels
  /-- Whether the driver resamples. -/
  | resample
  /-- The sample rate. -/
  | rate
  /-- The buffer size. -/
  | bufferSize
  /-- The period size. -/
  | periodSize
  /-- The installation of all of them. -/
  | install
  deriving DecidableEq, Repr

namespace Step

/-- Every step in the order in which they are taken. -/
def all : List Step :=
  [access, format, channels, resample, rate, bufferSize, periodSize, install]

/-- The name of the step. -/
def name : Step → String
  | access => "set_access"
  | format => "set_format"
  | channels => "set_channels"
  | resample => "set_rate_resample"
  | rate => "set_rate_near"
  | bufferSize => "set_buffer_size_near"
  | periodSize => "set_period_size_near"
  | install => "install"

end Step

/-- A request to the hardware. -/
inductive Request
  /-- Use an access mode. -/
  | setAccess (access : Access)
  /-- Use a sample format. -/
  | setFormat (format : SampleFormat)
  /-- Use a number of channels. -/
  | setChannels (channels : Nat)
  /-- Enable or disable resampling by the driver. -/
  | setResample (resample : Bool)
  /-- Use the supported rate nearest to the given one. -/
  | setRateNear (rate : Nat)
  /-- Use the supported buffer size nearest to the given one. -/
  | setBufferSizeNear (frames : Nat)
  /-- Use the supported period size nearest to the given one. -/
  | setPeriodSizeNear (frames : Nat)
  /-- Let the configuration take effect. -/
  | install
  deriving DecidableEq, Repr

namespace Request

/-- The step that a request takes. -/
def step : Request → Step
  | setAccess _ => .access
  | setFormat _ => .format
  | setChannels _ => .channels
  | setResample _ => .resample
  | setRateNear _ => .rate
  | setBufferSizeNear _ => .bufferSize
  | setPeriodSizeNear _ => .periodSize
  | install => .install

/-- What a granted request is answered with: the value picked for a `near` request, and nothing
otherwise. -/
abbrev Answer : Request → Type
  | setRateNear _ => Nat
  | setBufferSizeNear _ => Nat
  | setPeriodSizeNear _ => Nat
  | _ => Unit

/-- The text of a request. -/
def text : Request → String
  | setAccess access => "set_access(" ++ access.name ++ ")"
  | setFormat format => "set_format(" ++ format.name ++ ")"
  | setChannels channels => "set_channels(" ++ toString channels ++ ")"
  | setResample resample => "set_rate_resample(" ++ (if resample then "true" else "false") ++ ")"
  | setRateNear rate => "set_rate_near(" ++ toString rate ++ ")"
  | setBufferSizeNear frames => "set_buffer_size_near(" ++ toString frames ++ ")"
  | setPeriodSizeNear frames => "set_period_size_near(" ++ toString frames ++ ")"
  | install => "install()"

end Request

/-- Hardware whose parameters can be settled. -/
class Hardware (σ : Type) where
  /-- Answer a request. -/
  request : (r : Request) → σ → Except Status r.Answer × σ
  /-- Whether the installed configuration can pause without dropping buffered frames. -/
  canPause : σ → Bool := fun _ => false

end PcmStream
