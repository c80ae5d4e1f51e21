import TelAF.DoipDiscovery
import TelAF.SecFileAtomicity
import TelAF.QotaHeader
import TelAF.CfgVersionOrder
import TelAF.CanInterfaces
import TelAF.MtdRanges
import TelAF.SizeNegotiation
import TelAF.SessionControl
import TelAF.BruteForce
import TelAF.FinalResponses
import TelAF.SessionAgreement
import TelAF.FileTransfer
import TelAF.RfsTransfers
import TelAF.DtcCombination
import TelAF.ResultRecords
import TelAF.DemAgreement
import TelAF.DebounceCounter
import TelAF.FinalizedConnections
import TelAF.RemoteSimDiscipline
import TelAF.DidStoreAnswers
import TelAF.SnapshotOccurrences
import TelAF.ReportRuns
import TelAF.SnapshotAttribution
import TelAF.RpcAgreement
import TelAF.RpcConfigAgreement
import TelAF.RpcRobustness
import TelAF.Download
import TelAF.SecDataSteps
import TelAF.SapAgreement
import TelAF.CfgCampaign
import TelAF.AppMgmtReturns
import TelAF.FwSyncAgreement
import TelAF.PmWakeLocks
import TelAF.PmAckRounds
import TelAF.KeyAttributes
import TelAF.KeyObjects
import TelAF.SecFileLocks
import TelAF.SecFileContainment
import TelAF.MngdRequests
import TelAF.MngdAcks
import TelAF.TimeRounds
import TelAF.RtcValidity
import TelAF.FsCryptRuns
import TelAF.RoutineCtrlLives
import TelAF.MngdConnClients
import TelAF.MngdConnRecoveryRuns
import TelAF.SmsAddress
import TelAF.SmsBounds
import TelAF.AuthAttempts
import TelAF.AuthReqLength
import TelAF.FileXferDecode
import TelAF.ReadDidFilter
import TelAF.FileXferResponses
import TelAF.UdsBufferRuns
import TelAF.BitExtraction
import TelAF.DoipPacking
import TelAF.AppMgmtVersions
