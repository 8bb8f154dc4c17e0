import EspFirmware.ServerSteps
import EspFirmware.FragmentedSend
import EspFirmware.SendCompletion
import EspFirmware.EventCapacity
import EspFirmware.SendRecovery
import EspFirmware.Flash
import EspFirmware.DeviceConfig
import EspFirmware.StoredConfig
import EspFirmware.ConfigRecord
import EspFirmware.ConfigStore
import EspFirmware.PowerCut
import EspFirmware.FailedChange
import EspFirmware.DeviceInfo
import EspFirmware.Parser
import EspFirmware.Station
import EspFirmware.ConnectCommand
import EspFirmware.Library.ShiftRegister
import EspFirmware.LineCoding
import EspFirmware.CameraExchange
import EspFirmware.ExchangeCleanup
import EspFirmware.Camera
import EspFirmware.CameraSteps
import EspFirmware.ContentRequest
import EspFirmware.CameraLock
import EspFirmware.LockRelease
import EspFirmware.BufferLifetime
import EspFirmware.PictureTransfer
import EspFirmware.Library.EventLog
import EspFirmware.Wifi
import EspFirmware.WifiSession
import EspFirmware.Commands
import EspFirmware.Device
import EspFirmware.DeviceSteps
import EspFirmware.HeaterControl
import EspFirmware.PictureRequester
import EspFirmware.Library.Answers
import EspFirmware.Replies
import EspFirmware.ClosedConnection
import EspFirmware.Library.BitPacking
import EspFirmware.Library.Runs
import EspFirmware.Temperature
import EspFirmware.PulseDecoding
import EspFirmware.SensorFrame
import EspFirmware.Library.Custody
import EspFirmware.ServerLog
import EspFirmware.BlockOwnership
import EspFirmware.SendBuffers
import EspFirmware.ReceiveBuffers
import EspFirmware.ConfigHeap
import EspFirmware.ConnectRecovery
import EspFirmware.Library.CriticalSection
import EspFirmware.LockDiscipline
import EspFirmware.Library.TailQueue
import EspFirmware.QueueNodes
import EspFirmware.QueueFifo
import EspFirmware.Library.MemoryProgram
import EspFirmware.StringScans
import EspFirmware.Datagrams
import EspFirmware.Locator
import EspFirmware.LocatorSafety
import EspFirmware.CommandTokens
import EspFirmware.NumericParameters
import EspFirmware.SensorMemory
import EspFirmware.TemperatureReply
import EspFirmware.SampleTiming
import EspFirmware.CameraSpeed
import EspFirmware.AccessPoint
import EspFirmware.StationTeardown
import EspFirmware.Library.CyclicArray
import EspFirmware.Library.ByteStuffing
import EspFirmware.RingBuffer
import EspFirmware.Library.FifoHistory
import EspFirmware.Library.Base128
import EspFirmware.Proto
import EspFirmware.MqttQueue
import EspFirmware.MqttPackets
import EspFirmware.MqttMessages
import EspFirmware.MqttBuilding
import EspFirmware.MqttConnectMessage
import EspFirmware.MqttParsing
import EspFirmware.MqttPublishMessage
import EspFirmware.MqttIds
import EspFirmware.StrToIp
import EspFirmware.MqttClient
import EspFirmware.MqttReceive
import EspFirmware.MqttDelivery
import EspFirmware.MqttRecvLoop
import EspFirmware.MqttControl
import EspFirmware.MqttSession
import EspFirmware.MqttConnections
import EspFirmware.MqttOutbound
import EspFirmware.MqttOrder
import EspFirmware.MqttPace
import EspFirmware.MqttTimers
import EspFirmware.MqttRecovery
import EspFirmware.SysConfig
