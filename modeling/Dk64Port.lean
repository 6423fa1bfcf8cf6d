import Dk64Port.Lib.ByteLayout
import Dk64Port.Lib.Run
import Dk64Port.Lib.LossyChannel
import Dk64Port.Lib.ImplicationClosure
import Dk64Port.Coop.ItemIds
import Dk64Port.Coop.ItemsPolicy
import Dk64Port.Coop.ItemsGame
import Dk64Port.Coop.Items
import Dk64Port.Coop.ItemPaging
import Dk64Port.Coop.ItemNet
import Dk64Port.Coop.ItemChannel
import Dk64Port.Coop.ItemSession
import Dk64Port.Lib.IndexedLoop
import Dk64Port.Lib.VersionedRegister
import Dk64Port.Lib.BasedRequests
import Dk64Port.Coop.World
import Dk64Port.Coop.WorldToggle
import Dk64Port.Coop.WorldNet
import Dk64Port.Coop.WorldRequests
import Dk64Port.Coop.WorldWire
import Dk64Port.Lib.Float32
import Dk64Port.Coop.Transition
import Dk64Port.Coop.TransitionFollow
import Dk64Port.Coop.Player
import Dk64Port.Coop.Combat
import Dk64Port.Coop.CombatSync
import Dk64Port.Coop.Defeat
import Dk64Port.Coop.Progress
import Dk64Port.Coop.Transient
import Dk64Port.Coop.TransientDelivery
import Dk64Port.Lib.RotatingPages
import Dk64Port.Coop.LiveWorld
import Dk64Port.Coop.LiveRefresh
import Dk64Port.Coop.TransientObjects
import Dk64Port.Coop.TransientCapture
import Dk64Port.Coop.TransientSources
import Dk64Port.Coop.TransientPages
import Dk64Port.Lib.BitFields
import Dk64Port.Coop.CombatWire
import Dk64Port.Coop.CombatPages
import Dk64Port.Coop.Protocol
import Dk64Port.Coop.PacketLayout
import Dk64Port.Coop.RoundTrip
import Dk64Port.Coop.Canonical
import Dk64Port.Coop.Session
import Dk64Port.Coop.SessionActs
import Dk64Port.Coop.Ownership
import Dk64Port.Coop.Authority
import Dk64Port.Coop.AuthorityRoom
import Dk64Port.Lib.ByteStream
import Dk64Port.Lib.AtomicFile
import Dk64Port.Coop.RecoveryJournal
import Dk64Port.Coop.RecoveryDurable
import Dk64Port.Coop.RecoveryPromotion
import Dk64Port.Lib.Streak
import Dk64Port.Coop.RecoveryPolicy
import Dk64Port.Lib.BinarySearch
import Dk64Port.Archipelago.Catalog
import Dk64Port.Archipelago.Inventory
import Dk64Port.Archipelago.NativeInventory
import Dk64Port.Archipelago.Reducers
import Dk64Port.Archipelago.CampaignSave
import Dk64Port.Archipelago.Checks
import Dk64Port.Archipelago.ShopLabels
import Dk64Port.Archipelago.Shops
import Dk64Port.Archipelago.Publications
import Dk64Port.Archipelago.Stage
import Dk64Port.Archipelago.CampaignJournal
import Dk64Port.Archipelago.StageNative
import Dk64Port.Archipelago.CampaignDurable
import Dk64Port.Archipelago.CampaignChannel
import Dk64Port.Archipelago.ChannelTracks
import Dk64Port.Archipelago.ChannelServes
import Dk64Port.Archipelago.Game
import Dk64Port.Archipelago.Commit
import Dk64Port.Archipelago.Receipts
import Dk64Port.Archipelago.ExactlyOnce
import Dk64Port.Lib.SortedMap
import Dk64Port.Lib.PartialFold
import Dk64Port.Archipelago.Scouts
import Dk64Port.Archipelago.ScoutResults
import Dk64Port.Archipelago.ScoutSnapshot
import Dk64Port.Lib.PrefixSync
import Dk64Port.Archipelago.Protocol
import Dk64Port.Archipelago.State
import Dk64Port.Archipelago.Room
import Dk64Port.Archipelago.HonestServer
import Dk64Port.Lib.CrashLogic
import Dk64Port.Android.ModTransaction
import Dk64Port.Android.ModLibrary
import Dk64Port.Android.ModRecovery
import Dk64Port.Android.ModStore
import Dk64Port.Android.ModAtomic
import Dk64Port.Archipelago.Rdram
import Dk64Port.Lib.SwappedMemory
import Dk64Port.Recomp.GuestMemory
import Dk64Port.Recomp.MemoryContainers
import Dk64Port.Recomp.ObjectExtensions
import Dk64Port.Recomp.U32Slotmap
import Dk64Port.Coop.EnemyCache
import Dk64Port.Lib.ReflectedCrc
import Dk64Port.Coop.JournalChecksum
import Dk64Port.Lib.Inflate
import Dk64Port.Tools.Decompressor
import Dk64Port.Android.Audio
import Dk64Port.Android.AudioQueue
import Dk64Port.Android.AudioLifecycle
import Dk64Port.Coop.CombatCapture
import Dk64Port.Coop.CombatSlots
import Dk64Port.Lib.FreshTokens
import Dk64Port.Coop.CombatTokens
import Dk64Port.Coop.CombatSound
import Dk64Port.Coop.CombatFrames
import Dk64Port.Coop.CombatPaging
import Dk64Port.Lib.OnceLatch
import Dk64Port.Coop.MinigameRoom
import Dk64Port.Coop.MinigameBehavior
import Dk64Port.Coop.MinigameOnce
import Dk64Port.Coop.ItemsTimely
import Dk64Port.Coop.ItemsCredits
import Dk64Port.Coop.ItemsEcho
import Dk64Port.Android.TouchRuns
import Dk64Port.Android.GameActivity
import Dk64Port.Archipelago.ItemQueries
import Dk64Port.Archipelago.ItemAnswers
import Dk64Port.Lib.Countdown
import Dk64Port.Archipelago.TrapTimers
import Dk64Port.Lib.GenerationalSlots
import Dk64Port.Recomp.SlotMap
import Dk64Port.Recomp.SpentKeys
import Dk64Port.Recomp.ValueContainers
