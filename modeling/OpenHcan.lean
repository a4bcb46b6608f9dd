import OpenHcan.Lib.Machine
import OpenHcan.Lib.Tiling
import OpenHcan.Lib.SlotPool
import OpenHcan.Lib.BoundedWalk
import OpenHcan.Canix.Frame
import OpenHcan.Canix.Eeprom
import OpenHcan.Canix.Eds
import OpenHcan.Canix.EdsLayout
import OpenHcan.Canix.EdsHeap
import OpenHcan.Canix.RxQueue
import OpenHcan.Host.EdsConnection
import OpenHcan.HcanData.FileFormatV1
import OpenHcan.HcanData.DataQuery
import OpenHcan.HcanData.QueryLanguage
import OpenHcan.Devices.Rolladen
import OpenHcan.Devices.RolladenRelays
import OpenHcan.Devices.RolladenInterlock
import OpenHcan.Devices.RolladenDirection
import OpenHcan.Flash.Bootloader
import OpenHcan.Flash.Ihexfile
import OpenHcan.Flash.Transfer
import OpenHcan.Flash.FillAck
import OpenHcan.Flash.CmdFlash
import OpenHcan.Flash.Bootable
import OpenHcan.Flash.Incremental
import OpenHcan.Flash.BlockTransfer
import OpenHcan.HcanData.QueryReference
import OpenHcan.HcanData.QueryHistory
import OpenHcan.HcanData.DataFile
import OpenHcan.HcanData.DataFileRuns
import OpenHcan.Daemon.Hcand
import OpenHcan.Daemon.HcandPeers
import OpenHcan.Daemon.HcandForward
import OpenHcan.Lib.CString
import OpenHcan.Mqtt.CatHesTopic
import OpenHcan.Mqtt.CanNoninterference
import OpenHcan.Mqtt.PrepareMsg
import OpenHcan.Mqtt.TopicMatch
import OpenHcan.Mqtt.MqttNoninterference
import OpenHcan.Mqtt.TopicDecoding
import OpenHcan.Daemon.AddressPool
import OpenHcan.Canix.Syslog
import OpenHcan.Host.Syslog
import OpenHcan.Lib.Demux
import OpenHcan.Host.SyslogReassembly
import OpenHcan.Canix.Mcp2515
import OpenHcan.Canix.RxBounds
import OpenHcan.Daemon.Hcansocketd
import OpenHcan.Daemon.WireFormat
import OpenHcan.Devices.Timeservice
import OpenHcan.Lib.RingBuffer
import OpenHcan.Mqtt.MainLoop
import OpenHcan.Host.EdsView
import OpenHcan.Canix.EdsFind
import OpenHcan.Devices.LoadConfig
import OpenHcan.Devices.WriteBack
import OpenHcan.Devices.ConfigReload
import OpenHcan.Canix.EdsPlacement
import OpenHcan.Host.ConfRoundTrip
import OpenHcan.Canix.EdsDefragment
import OpenHcan.Canix.EdsForeach
import OpenHcan.Canix.Rtc
import OpenHcan.Canix.TimeSync
import OpenHcan.Host.EdsFieldRoundTrip
import OpenHcan.Daemon.SocketRings
import OpenHcan.Flash.FillBounds
import OpenHcan.Devices.NestedReload
import OpenHcan.Host.EdsPairing
import OpenHcan.Canix.TxAccounting
import OpenHcan.Devices.RolladenPosition
import OpenHcan.Flash.CrcAgree
import OpenHcan.Flash.HexLoad
import OpenHcan.HcanData.DataBlockSync
import OpenHcan.HcanData.QueryFile
import OpenHcan.Devices.RolladenCalibration
import OpenHcan.Devices.RolladenPercent
import OpenHcan.Devices.RolladenRange
import OpenHcan.Devices.PowerportRuns
import OpenHcan.Devices.PowerportAutoAus
import OpenHcan.Devices.PowerportTimer
import OpenHcan.Devices.Lichtzone
import OpenHcan.Devices.LichtzoneAus
import OpenHcan.Devices.LichtzoneKlick
import OpenHcan.Devices.Heizung
import OpenHcan.Devices.HeizungMode
import OpenHcan.Devices.HeizungBedarf
import OpenHcan.Devices.HeizungPflege
import OpenHcan.Lib.WordSearch
import OpenHcan.OneWire.Discover
import OpenHcan.Usv.StateMachine
import OpenHcan.Usv.Switching
import OpenHcan.Devices.Multitaster
import OpenHcan.Devices.MultitasterPosition
import OpenHcan.Devices.RolladenAutomat
import OpenHcan.Devices.Schalter
import OpenHcan.Devices.Ws2812b
import OpenHcan.Devices.Zeitschaltuhr
import OpenHcan.Devices.Dcf77Minute
import OpenHcan.Devices.RolladenSchlitzpos
import OpenHcan.Devices.Zentralheizungspumpe
import OpenHcan.Devices.Ports
import OpenHcan.Devices.Tempsensor
import OpenHcan.HcanData.QueryParser
import OpenHcan.Host.OapAccess
import OpenHcan.Userpanel.HeizDetails
import OpenHcan.Userpanel.WeckPage
import OpenHcan.Lib.Paused
import OpenHcan.Userpanel.Monitore
import OpenHcan.Userpanel.MonitoreRuns
import OpenHcan.Userpanel.LeaveComePage
import OpenHcan.Userpanel.PowerportPage
import OpenHcan.Userpanel.HeizPage
import OpenHcan.Userpanel.HeizPageRuns
import OpenHcan.Devices.PowerportPuls
import OpenHcan.Lib.SiblingTree
import OpenHcan.Mqtt.ParseXml
import OpenHcan.HcanData.QueryAccess
import OpenHcan.Lib.Binary32
import OpenHcan.Lib.LinePattern
import OpenHcan.Telican.HeizungCommand
import OpenHcan.Telican.HeizungExact
import OpenHcan.Lib.Base128
import OpenHcan.Lib.Framing
import OpenHcan.Lib.Writer
import OpenHcan.Mqtt.MqttClient
import OpenHcan.Mqtt.MqttDelivery
import OpenHcan.Devices.Dunstabzugport
import OpenHcan.Devices.Dunstfenster
import OpenHcan.Devices.Heizfenster
import OpenHcan.HcanData.Archive
import OpenHcan.Lib.TreeLinks
import OpenHcan.Userpanel.Lcdstatemachine
import OpenHcan.Userpanel.Menue
import OpenHcan.Userpanel.MenueRuns
import OpenHcan.Lib.Debounce
import OpenHcan.Userpanel.Keys
import OpenHcan.Userpanel.KeysPanel
import OpenHcan.Devices.Helligkeitssensor
import OpenHcan.Devices.PowerportAutomat
import OpenHcan.Devices.Poti
