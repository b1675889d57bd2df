import Switchboard.Settings.Variables
import Switchboard.Time.Span
/-!
Limits of calls and of dispatchers.

* `CallSettings` are what every plug starts from.
* `DispatchSettings` are the limits on the bodies of requests that a dispatcher reads.
-/

namespace Switchboard.Settings

/-- Which headers of a request go with it when a redirect is followed. -/
inductive RedirectPolicy where
  /-- All of them, to any place. -/
  | all
  /-- All of them to a place of the same origin; elsewhere, none that tell who is calling. -/
  | sameOrigin
  deriving DecidableEq, Repr, Inhabited

/-- What every plug starts from. -/
structure CallSettings where
  timeout : Span
  connectTimeout : Span
  /-- How many redirects are followed. -/
  maxRedirects : Nat
  /-- How many bytes of a streamed response are read into memory. -/
  maxBytes : Nat
  userAgent : String
  redirectPolicy : RedirectPolicy
  deriving DecidableEq, Repr, Inhabited

namespace CallSettings

/-- The settings that nobody changed. -/
def standard : CallSettings :=
  { timeout := Span.ofSeconds 60, connectTimeout := Span.ofSeconds 10, maxRedirects := 10
    maxBytes := 16 * 1024 * 1024, userAgent := "conduit-plug/0.1.0"
    redirectPolicy := .sameOrigin }

/-- The settings that variables say something about. -/
def ofVariables (given : Variables) : CallSettings :=
  { standard with
    timeout := ((given.number? "CONDUIT_PLUG_TIMEOUT_MS" Number.maxWord).map
      Span.ofMillis).getD standard.timeout
    maxRedirects := (given.number? "CONDUIT_PLUG_MAX_REDIRECTS" 65535).getD
      standard.maxRedirects
    maxBytes := (given.number? "CONDUIT_PLUG_MAX_MEMORIZE_BYTES" Number.maxWord).getD
      standard.maxBytes }

end CallSettings

/-- The limits on the bodies of requests. -/
structure DispatchSettings where
  maxBytes : Nat
  /-- How long a body may take to arrive. -/
  bodyTimeout : Span
  deriving DecidableEq, Repr, Inhabited

namespace DispatchSettings

/-- The limits that nobody changed. -/
def standard : DispatchSettings :=
  { maxBytes := 10 * 1024 * 1024, bodyTimeout := Span.ofSeconds 30 }

/-- The limits that variables say something about. -/
def ofVariables (given : Variables) : DispatchSettings :=
  { maxBytes := (given.number? "CONDUIT_DISPATCH_MAX_BODY_BYTES" Number.maxWord).getD
      standard.maxBytes
    bodyTimeout := ((given.number? "CONDUIT_DISPATCH_BODY_TIMEOUT_MS" Number.maxWord).map
      Span.ofMillis).getD standard.bodyTimeout }

end DispatchSettings

end Switchboard.Settings
