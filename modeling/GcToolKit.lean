import GcToolKit.Lib.ByteBuf
import GcToolKit.Lib.LittleEndian
import GcToolKit.Lib.Cbc
import GcToolKit.Lib.Run
import GcToolKit.Lib.DoWhile
import GcToolKit.Lib.CString
import GcToolKit.Crypto.Aes
import GcToolKit.Crypto.Modes
import GcToolKit.Cmd56.Packet
import GcToolKit.Cmd56.Sm
import GcToolKit.Cmd56.Gc
import GcToolKit.Cmd56.Vita
import GcToolKit.Cmd56.Answers
import GcToolKit.Cmd56.Steps
import GcToolKit.Cmd56.Completeness
import GcToolKit.Cmd56.Soundness
import GcToolKit.Cmd56.CartRuns
import GcToolKit.Cmd56.Policy
import GcToolKit.Kern.AuthEmu
import GcToolKit.Kern.Io
import GcToolKit.Net.Packet
import GcToolKit.Lib.ByteFile
import GcToolKit.Net.Receiver
import GcToolKit.Net.Segmentation
import GcToolKit.Crypto.Sha256
import GcToolKit.App.Formats
import GcToolKit.App.World
import GcToolKit.App.Net
import GcToolKit.App.CopyLoop
import GcToolKit.App.Dump
import GcToolKit.App.Backup
import GcToolKit.Kern.Privilege
import GcToolKit.App.WriteLoop
import GcToolKit.App.Restore
import GcToolKit.App.NetworkDump
import GcToolKit.App.KeyDump
import GcToolKit.App.DumpMenu
import GcToolKit.App.DumpFrame
import GcToolKit.App.SetOutput
import GcToolKit.App.SelectFile
import GcToolKit.Cmd56.Listener
import GcToolKit.Cmd56.StaleReads
import GcToolKit.Net.Threads
import GcToolKit.App.PatchRace
import GcToolKit.App.LostPatch
import GcToolKit.Net.FileNames
import GcToolKit.Net.PacketReads
import GcToolKit.Net.ReceiveLoop
import GcToolKit.Cmd56.P18Requests
import GcToolKit.Cmd56.RequestBuffer
import GcToolKit.Cmd56.Layout
import GcToolKit.Cmd56.InPlace
import GcToolKit.Cmd56.ResponseStores
import GcToolKit.App.TrimmedSize
import GcToolKit.App.CopyLog
import GcToolKit.App.HashedCopy
import GcToolKit.App.TransferLength
import GcToolKit.App.KeyFile
import GcToolKit.Lib.Fresh
import GcToolKit.App.FreshName
import GcToolKit.App.Menus
import GcToolKit.App.Scrolling
import GcToolKit.Lib.CMemory
import GcToolKit.App.FolderFiles
import GcToolKit.App.SelectRestore
import GcToolKit.Lib.BitFields
import GcToolKit.Lib.Utf16
import GcToolKit.App.Ime
import GcToolKit.App.Sfo
import GcToolKit.App.SfoLookup
import GcToolKit.App.SfoReads
import GcToolKit.App.SfoResult
import GcToolKit.Lib.Largest
import GcToolKit.App.PartitionEnds
import GcToolKit.App.ImeBounds
import GcToolKit.Lib.BigEndian
import GcToolKit.Lib.BlockHash
import GcToolKit.Crypto.Sha256Standard
import GcToolKit.Crypto.CmacStandard
import GcToolKit.Crypto.AesStandard
import GcToolKit.Cmd56.SmStandard
import GcToolKit.Lib.SharedCell
import GcToolKit.Net.SharedBuffer
import GcToolKit.Net.AcceptLoop
import GcToolKit.Kern.SharedName
import GcToolKit.App.GcAuth
import GcToolKit.App.CartBackup
import GcToolKit.Lib.PathTree
import GcToolKit.App.Directories
import GcToolKit.Lib.KeptValue
import GcToolKit.App.Config
import GcToolKit.App.CopyTo
import GcToolKit.App.Wire
import GcToolKit.App.NetworkBackup
import GcToolKit.App.RoundTrip
import GcToolKit.App.ConfigKept
import GcToolKit.App.PowerLock
