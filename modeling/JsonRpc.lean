import JsonRpc.Json.Value
import JsonRpc.Types
import JsonRpc.Protocol
import JsonRpc.Converter
import JsonRpc.Data.StdMap
import JsonRpc.Registry.Registry
import JsonRpc.Registry.Batch
import JsonRpc.Registry.Wrapper
import JsonRpc.Server.Session
import JsonRpc.Server.Lifecycle
import JsonRpc.Server.Resize
import JsonRpc.Client.Async
import JsonRpc.Client.Client
