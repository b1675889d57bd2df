import Switchboard.Endpoint.Local
import Switchboard.Exchange
import Switchboard.Json.Reader
import Switchboard.Script.Endpoint
import Switchboard.Settings.Logging
import Switchboard.Proofs.Activity.Log
import Switchboard.Proofs.Feature.StageRuns
import Switchboard.Proofs.Message.Flow
import Switchboard.Proofs.Message.Memorize
import Switchboard.Proofs.Cookie.Covering
import Switchboard.Proofs.Cookie.LastWrites
import Switchboard.Proofs.Cookie.History
import Switchboard.Proofs.Cookie.Received
import Switchboard.Proofs.Activity.Clock
import Switchboard.Proofs.Dispatcher.StageRuns
import Switchboard.Proofs.Dispatcher.BodyCeiling
import Switchboard.Proofs.Feature.Rank
import Switchboard.Proofs.Dispatcher.Selection
import Switchboard.Proofs.Exchange.Visits
import Switchboard.Proofs.Exchange.Steps
import Switchboard.Proofs.Exchange.Trace
import Switchboard.Proofs.Exchange.Endless
import Switchboard.Proofs.Exchange.Obtained
import Switchboard.Proofs.Activity.Returns
import Switchboard.Proofs.Exchange.Course
import Switchboard.Proofs.Exchange.Replay
import Switchboard.Proofs.Exchange.RedirectChain
import Switchboard.Proofs.Exchange.Outcome
import Switchboard.Proofs.Exchange.LocalAccess
import Switchboard.Proofs.Exchange.Deadline
import Switchboard.Proofs.Activity.Alike
import Switchboard.Proofs.Exchange.Origins
import Switchboard.Proofs.Activity.Frame
import Switchboard.Proofs.Feature.Hits
import Switchboard.Proofs.Dispatcher.Ruling
import Switchboard.Proofs.Dispatcher.History
import Switchboard.Proofs.Exchange.Jars
import Switchboard.Proofs.Feature.Extraction
import Switchboard.Proofs.Feature.Binding
import Switchboard.Proofs.Feature.Performance
import Switchboard.Proofs.Message.Content
import Switchboard.Proofs.Message.Lifecycle
import Switchboard.Proofs.Text.Cuts
import Switchboard.Proofs.Signature.Grammar
import Switchboard.Proofs.Signature.Matching
import Switchboard.Proofs.Signature.Captures
import Switchboard.Proofs.Text.Escapes
import Switchboard.Proofs.Uri.Segments
import Switchboard.Proofs.Uri.Made
import Switchboard.Proofs.Uri.Direct
import Switchboard.Proofs.Endpoint.Alias
import Switchboard.Proofs.Number.Decimal
import Switchboard.Proofs.Activity.Pairs
import Switchboard.Proofs.Message.Forms
import Switchboard.Proofs.Feature.Forms
import Switchboard.Proofs.Dispatcher.Forms
import Switchboard.Proofs.Feature.Building
import Switchboard.Proofs.Dispatcher.Store
import Switchboard.Proofs.Uri.Schemes
import Switchboard.Proofs.Endpoint.Resolution
import Switchboard.Proofs.Endpoint.Delegation
import Switchboard.Proofs.Text.Utf8
import Switchboard.Proofs.Uri.Encoded
import Switchboard.Proofs.Uri.Places
import Switchboard.Proofs.Uri.Appended
import Switchboard.Proofs.Signature.Remainder
import Switchboard.Proofs.Text.Lowercase
import Switchboard.Proofs.Signature.Pattern
import Switchboard.Proofs.Plug.Below
import Switchboard.Proofs.Uri.Contained
import Switchboard.Proofs.Message.Draining
import Switchboard.Proofs.Cookie.Rebased
import Switchboard.Proofs.Plug.Dressing
import Switchboard.Proofs.Headers.Entries
import Switchboard.Proofs.Endpoint.CookieLine
import Switchboard.Proofs.Cookie.RoundTrip
import Switchboard.Proofs.Cookie.DefaultScope
import Switchboard.Proofs.Text.Pairs
import Switchboard.Proofs.Text.Form
import Switchboard.Proofs.Uri.Written
import Switchboard.Proofs.Uri.Rooted
import Switchboard.Proofs.Uri.Recast
import Switchboard.Proofs.Uri.OnlyScheme
import Switchboard.Proofs.Uri.Hosted
import Switchboard.Proofs.Uri.Alone
import Switchboard.Proofs.Uri.Unrooted
import Switchboard.Proofs.Uri.SchemeChange
import Switchboard.Proofs.Endpoint.SchemeSwap
import Switchboard.Proofs.Uri.Query
import Switchboard.Proofs.Plug.Query
