import PulsarNode.Machine.Run
import PulsarNode.Prog.Wp
import PulsarNode.Native.Calls
import PulsarNode.Napi.Query
import PulsarNode.Napi.Tsfn
import PulsarNode.Deferred.Basic
import PulsarNode.Config.Consumer
import PulsarNode.Config.Reader
import PulsarNode.Config.Producer
import PulsarNode.Config.Message
import PulsarNode.Config.Client
import PulsarNode.Async.Settlement
import PulsarNode.Async.Ownership
import PulsarNode.Create.Deferral
import PulsarNode.Create.NewInstance
import PulsarNode.Create.Escape
import PulsarNode.Listener.Consumer
import PulsarNode.Listener.Handover
import PulsarNode.Listener.Answer
import PulsarNode.Listener.Lifetime
import PulsarNode.Log.Count
import PulsarNode.Client.References
import PulsarNode.Client.Lifetime
import PulsarNode.Async.Handles
import PulsarNode.Napi.View
import PulsarNode.Napi.Frame
import PulsarNode.Config.Encryption
import PulsarNode.Napi.Object
import PulsarNode.Config.Sections
import PulsarNode.Config.Shared
import PulsarNode.Message.Native
import PulsarNode.Message.RoundTrip
import PulsarNode.Config.SchemaObject
import PulsarNode.Listener.Close
import PulsarNode.Machine.Shared
import PulsarNode.Message.Handles
import PulsarNode.Listener.Bridge
import PulsarNode.Listener.Holding
import PulsarNode.Config.Checks
import PulsarNode.Config.Callable
import PulsarNode.Create.Subscribe
import PulsarNode.Message.Wrappers
import PulsarNode.Auth.TokenSupplier
import PulsarNode.Napi.Number
import PulsarNode.Routing.Router
import PulsarNode.Routing.Borrowed
import PulsarNode.Config.ClientLog
import PulsarNode.Config.Numbers
import PulsarNode.Config.BatchPolicy
import PulsarNode.Crypto.KeyReader
import PulsarNode.Config.Provider
import PulsarNode.Tree.Named
import PulsarNode.Tree.Search
import PulsarNode.Schema.ProtobufNative
import PulsarNode.Schema.CallOrder
import PulsarNode.Crypto.EncryptionContext
import PulsarNode.Create.StickyRanges
import PulsarNode.Napi.Acts
import PulsarNode.Translation.Schema
import PulsarNode.Translation.Producer
import PulsarNode.Create.Outcome
import PulsarNode.Translation.Reader
import PulsarNode.Translation.NewInstance
import PulsarNode.Translation.Client
import PulsarNode.Translation.Message
import PulsarNode.Create.NewClient
import PulsarNode.Log.Delivery
import PulsarNode.Machine.Blocks
import PulsarNode.Message.StringArray
import PulsarNode.Message.Building
import PulsarNode.Async.Sending
import PulsarNode.Auth.Authentication
