import ComputerSystems.Data.Chain
import ComputerSystems.System.DoubleLink
import ComputerSystems.Verified.OrderedList
import ComputerSystems.System.Os
import ComputerSystems.Data.Memory
import ComputerSystems.System.Malloc
import ComputerSystems.Verified.TaskList
import ComputerSystems.System.Timers
import ComputerSystems.Verified.MallocSeparation
import ComputerSystems.Verified.TimerList
import ComputerSystems.Verified.TimerReentry
import ComputerSystems.Data.Run
import ComputerSystems.Data.Ring
import ComputerSystems.Data.Program
import ComputerSystems.System.Xmodem
import ComputerSystems.Verified.XmodemBounds
import ComputerSystems.Verified.XmodemDelivery
import ComputerSystems.Network.Tftp
import ComputerSystems.Verified.TftpDownload
import ComputerSystems.Usb.MassStorage
import ComputerSystems.Usb.Driver
import ComputerSystems.Verified.BulkTransport
import ComputerSystems.Verified.StorageAnswers
import ComputerSystems.Verified.StorageOverlap
import ComputerSystems.Data.Loop
import ComputerSystems.Usb.Configuration
import ComputerSystems.Verified.DescriptorParser
import ComputerSystems.Verified.DescriptorSearch
import ComputerSystems.Fat.SdCard
import ComputerSystems.Verified.BlockOperations
import ComputerSystems.Usb.Request
import ComputerSystems.Usb.Transfer
import ComputerSystems.Usb.HostController
import ComputerSystems.Verified.ChannelPools
import ComputerSystems.Verified.RequestFrames
import ComputerSystems.Verified.RequestSlots
import ComputerSystems.Verified.StageWaits
import ComputerSystems.Verified.RequestAnswers
import ComputerSystems.Verified.ControlTransfers
import ComputerSystems.Usb.Hub
import ComputerSystems.Usb.Wiring
import ComputerSystems.Verified.RequestOwners
import ComputerSystems.Verified.BlockAddressing
import ComputerSystems.Verified.BlockDelivery
import ComputerSystems.Verified.StorageResults
import ComputerSystems.Usb.StorageConfiguration
import ComputerSystems.Verified.StorageBringUp
import ComputerSystems.Verified.MallocFailure
import ComputerSystems.Verified.HeapAccounting
import ComputerSystems.Verified.TaskSlots
import ComputerSystems.Verified.SecondHub
import ComputerSystems.Verified.HubStages
import ComputerSystems.Verified.HubEnumeration
import ComputerSystems.VirtualWorld.Grid
import ComputerSystems.VirtualWorld.World
import ComputerSystems.VirtualWorld.Round
import ComputerSystems.VirtualWorld.Commands
import ComputerSystems.Verified.GridBoard
import ComputerSystems.Verified.GridMoves
import ComputerSystems.Verified.GridRounds
import ComputerSystems.Verified.GridCreation
import ComputerSystems.Verified.GridCommands
import ComputerSystems.Verified.GridLists
import ComputerSystems.Board.Rpi
import ComputerSystems.Verified.SoftwareDivision
import ComputerSystems.Verified.ClockReads
import ComputerSystems.System.Strings
import ComputerSystems.Verified.MemoryCopy
import ComputerSystems.Verified.PacketCounts
import ComputerSystems.Network.TftpGet
import ComputerSystems.Verified.TftpAcceptance
import ComputerSystems.Verified.TftpPolls
import ComputerSystems.Verified.XmodemSessions
import ComputerSystems.Verified.XmodemLength
import ComputerSystems.Usb.StageMachine
import ComputerSystems.Verified.StageRuns
import ComputerSystems.Verified.TransferAccounting
import ComputerSystems.Verified.SplitSchedule
import ComputerSystems.Usb.DeviceInitialize
import ComputerSystems.Verified.DeviceRetry
import ComputerSystems.Verified.DescriptorTrust
import ComputerSystems.Verified.HubSlots
import ComputerSystems.Usb.Keyboard
import ComputerSystems.Verified.KeyEvents
import ComputerSystems.Network.Lan
import ComputerSystems.Verified.LanReceive
import ComputerSystems.Verified.LanTransmit
import ComputerSystems.System.Shell
import ComputerSystems.Verified.ShellBuffer
import ComputerSystems.Verified.ShellLine
import ComputerSystems.System.CString
import ComputerSystems.Verified.StringOrder
import ComputerSystems.Fat.WorkingDirectory
import ComputerSystems.Verified.DirectoryPath
import ComputerSystems.Data.XorLinear
import ComputerSystems.System.Rand
import ComputerSystems.Verified.RandPeriod
import ComputerSystems.System.Screen
import ComputerSystems.Verified.ConsoleCursor
import ComputerSystems.Data.Rows
import ComputerSystems.Verified.ConsoleScroll
import ComputerSystems.Data.Footprint
import ComputerSystems.Data.Faultless
import ComputerSystems.Verified.GridItems
import ComputerSystems.Verified.GridTouches
import ComputerSystems.Verified.GridPlaces
import ComputerSystems.Verified.RoundTimer
import ComputerSystems.Verified.GridReturns
import ComputerSystems.Verified.CreatureDeaths
import ComputerSystems.Data.Ignores
import ComputerSystems.Verified.ClosedLists
import ComputerSystems.Verified.CreatureIndices
import ComputerSystems.Verified.CreatureRounds
import ComputerSystems.VirtualWorld.Pixels
import ComputerSystems.Verified.EffectPaths
import ComputerSystems.Data.Search
import ComputerSystems.Verified.NearestSprite
import ComputerSystems.Verified.Inventory
import ComputerSystems.Verified.GridFaults
import ComputerSystems.Data.ProgramLoop
import ComputerSystems.Data.Draws
import ComputerSystems.Data.Threads
import ComputerSystems.Data.WriteBack
import ComputerSystems.Fat.Afatfs
import ComputerSystems.Fat.FatTable
import ComputerSystems.Fat.FileEvents
import ComputerSystems.Verified.CacheRules
import ComputerSystems.Verified.ClusterAllocation
import ComputerSystems.Verified.ClusterRelease
import ComputerSystems.Verified.DirectoryEntries
import ComputerSystems.Verified.FileContents
import ComputerSystems.Verified.ClosedFiles
import ComputerSystems.Verified.FileReturns
