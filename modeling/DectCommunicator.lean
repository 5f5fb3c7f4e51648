import DectCommunicator.Lib.LittleEndian
import DectCommunicator.Lib.Chunks
import DectCommunicator.Lib.Runs
import DectCommunicator.Lib.StopAndWait
import DectCommunicator.Lib.AckedTransfer
import DectCommunicator.Lib.Readers
import DectCommunicator.Lib.Utf8
import DectCommunicator.Lib.SinglyLinked
import DectCommunicator.Utils.Errno
import DectCommunicator.Utils.TransportBuffer
import DectCommunicator.Utils.TransportBufferSpec
import DectCommunicator.Utils.PoolInvariant
import DectCommunicator.Utils.PoolKeys
import DectCommunicator.Utils.Assembly
import DectCommunicator.Utils.InOrder
import DectCommunicator.Utils.WriteErrors
import DectCommunicator.Dect.LinkLayer
import DectCommunicator.Dect.LinkLayerRx
import DectCommunicator.Dect.PhyOperations
import DectCommunicator.Dect.TransportLayer
import DectCommunicator.Dect.TransportSpec
import DectCommunicator.Dect.TransportRuns
import DectCommunicator.Dect.Acknowledged
import DectCommunicator.Dect.TxQueue
import DectCommunicator.Dect.Network
import DectCommunicator.Dect.NetworkSpec
import DectCommunicator.Dect.NetworkInv
import DectCommunicator.Dect.Integrity
import DectCommunicator.Dect.AtMostOnce
import DectCommunicator.Dect.Delivery
import DectCommunicator.Dect.Receiver
import DectCommunicator.Dect.RoundTrip
import DectCommunicator.Dect.LossyTransfer
import DectCommunicator.Dect.BoundedLoss
import DectCommunicator.Dect.ReceiveTimeout
import DectCommunicator.Dect.StartUp
import DectCommunicator.Ble.AlfieService
import DectCommunicator.Ble.AlfieServiceSpec
import DectCommunicator.Utils.BufferBound
import DectCommunicator.Utils.PoolGet
import DectCommunicator.Utils.FragmentCount
import DectCommunicator.Alfie.Router
import DectCommunicator.Alfie.Registration
import DectCommunicator.Alfie.Holders
import DectCommunicator.Alfie.Messaging
import DectCommunicator.Alfie.MessageReads
import DectCommunicator.BleClient.Protocol
import DectCommunicator.BleClient.TextMessage
import DectCommunicator.BleClient.Client
import DectCommunicator.BleClient.ClientSpec
import DectCommunicator.BleClient.Agreement
import DectCommunicator.Ble.Downstream
import DectCommunicator.Ble.Upstream
import DectCommunicator.Ble.Connection
import DectCommunicator.Ble.Outgoing
import DectCommunicator.Ble.Ends
import DectCommunicator.Ble.OneWay
import DectCommunicator.Ble.Success
import DectCommunicator.Ble.LongConnection
import DectCommunicator.Ble.Provenance
import DectCommunicator.Ble.Reconnection
import DectCommunicator.Ble.Lane
import DectCommunicator.Ble.Repetition
import DectCommunicator.Ble.Core
import DectCommunicator.Alfie.Interleaving
import DectCommunicator.Alfie.Ownership
import DectCommunicator.Lib.PrefixCode
import DectCommunicator.BleBridge.HciUart
import DectCommunicator.BleBridge.HciReceive
import DectCommunicator.BleBridge.HciBuffers
import DectCommunicator.BleBridge.HciTransmit
import DectCommunicator.Lib.BoundedFifo
import DectCommunicator.BleBridge.UartBridge
import DectCommunicator.BleBridge.BridgeStreams
import DectCommunicator.Lib.Cost
import DectCommunicator.Lib.Repeats
import DectCommunicator.Alfie.System
import DectCommunicator.Alfie.ThreadCost
import DectCommunicator.Alfie.EndToEnd
import DectCommunicator.Alfie.Copies
import DectCommunicator.Alfie.StartUp
