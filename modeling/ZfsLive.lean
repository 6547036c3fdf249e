import ZfsLive.NbdWalk
import ZfsLive.ChangedBlocks
import ZfsLive.CbtCycles
import ZfsLive.CbtFailing
import ZfsLive.VolumeReach
import ZfsLive.VolumeResize
import ZfsLive.SrCreate
import ZfsLive.VolumeRecoveryRuns
import ZfsLive.VolumeContent
import ZfsLive.DatapathUsers
import ZfsLive.ChangedBlocksPacking
import ZfsLive.VolumeProperties
import ZfsLive.VolumeThick
import ZfsLive.QmpConnection
import ZfsLive.Orphans
import ZfsLive.XeMain
import ZfsLive.Retries
import ZfsLive.NbdProxy
import ZfsLive.NbdSession
import ZfsLive.NbdChunks
import ZfsLive.DeviceKeys
import ZfsLive.DaemonSweep
import ZfsLive.CbtRoundTrip
import ZfsLive.VolumeKeys
import ZfsLive.VolumePromotion
import ZfsLive.VolumeUse
import ZfsLive.RegistrationRuns
import ZfsLive.VolumeIsolation
import ZfsLive.OrphanSweeps
import ZfsLive.DeltaBackup
import ZfsLive.SrAttach
