import GlusterBlock.Lib.Weave
import GlusterBlock.Lib.Ledger
import GlusterBlock.Lib.CText
import GlusterBlock.Status
import GlusterBlock.Metafile
import GlusterBlock.MetaReader
import GlusterBlock.JournalReplay
import GlusterBlock.Capabilities
import GlusterBlock.Trace
import GlusterBlock.Workers
import GlusterBlock.BlockDelete
import GlusterBlock.BlockCreate
import GlusterBlock.BlockModify
import GlusterBlock.BlockReplace
import GlusterBlock.ReplaceReport
import GlusterBlock.HostStatus
import GlusterBlock.CleanUp
import GlusterBlock.CreateReport
import GlusterBlock.Lib.Trail
import GlusterBlock.Runs
import GlusterBlock.Traces
import GlusterBlock.DeleteRetry
import GlusterBlock.Orphans
import GlusterBlock.Recorded
import GlusterBlock.HaBound
import GlusterBlock.HostInvariant
import GlusterBlock.AuthTruth
import GlusterBlock.ResizeTruth
import GlusterBlock.CreateWire
import GlusterBlock.AuthRollback
import GlusterBlock.Lib.Links
import GlusterBlock.VolumeFiles
import GlusterBlock.CreateAtomic
import GlusterBlock.StorageShare
import GlusterBlock.GenConfig
import GlusterBlock.PrioCounters
import GlusterBlock.TargetConfig
import GlusterBlock.Regenerate
import GlusterBlock.Lib.Json
import GlusterBlock.Lib.Masking
import GlusterBlock.Passwords
import GlusterBlock.CommandLog
import GlusterBlock.LogSecrecy
import GlusterBlock.CommandSecrecy
import GlusterBlock.CleanUpDecision
import GlusterBlock.HostLists
import GlusterBlock.ResizeEntry
import GlusterBlock.Lib.Linked
import GlusterBlock.Lib.Recency
import GlusterBlock.Lru
import GlusterBlock.LruCapacity
import GlusterBlock.LruOrder
import GlusterBlock.HostReaders
import GlusterBlock.Lib.Grep
import GlusterBlock.PortalReplace
import GlusterBlock.CommandExit
import GlusterBlock.DynConfig
import GlusterBlock.ConfigFile
import GlusterBlock.ConfigReload
import GlusterBlock.ExecLog
import GlusterBlock.ExecMask
import GlusterBlock.ExecCommand
import GlusterBlock.ExecSecrecy
import GlusterBlock.Lib.Extents
import GlusterBlock.VolumeLists
import GlusterBlock.ZeroFill
import GlusterBlock.ResizeFile
import GlusterBlock.CreateNumbers
import GlusterBlock.Lib.Strtod
import GlusterBlock.OptionOrder
import GlusterBlock.ParseSize
import GlusterBlock.ModifySvc
import GlusterBlock.PrioBalance
import GlusterBlock.TargetLines
import GlusterBlock.CreateScript
import GlusterBlock.ScriptTarget
import GlusterBlock.CurrentSize
import GlusterBlock.DependencyVersion
import GlusterBlock.LoadedStatus
import GlusterBlock.CapabilityTable
import GlusterBlock.CreateReply
import GlusterBlock.GenConfigRelease
import GlusterBlock.ConfigBuffer
import GlusterBlock.Logrotate
import GlusterBlock.BackedSizes
import GlusterBlock.BlocksApart
import GlusterBlock.Coordinators
import GlusterBlock.BlockRecord
import GlusterBlock.PathsKept
import GlusterBlock.FormatSize
import GlusterBlock.ReplaceAgain
import GlusterBlock.BlockReload
import GlusterBlock.InfoShown
import GlusterBlock.BlockList
import GlusterBlock.FilesKept
import GlusterBlock.GenConfigAgree
import GlusterBlock.PortalTags
import GlusterBlock.NodeReplies
