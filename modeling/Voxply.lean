import Voxply.Identity.DomainSeparation
import Voxply.Hub.RoleCeiling
import Voxply.Hub.Recovery
import Voxply.Hub.CanonicalIdentity
import Voxply.Hub.AuthUser
import Voxply.Hub.CertifiedSessions
import Voxply.Hub.VerifyAtomicity
import Voxply.Hub.FarmAdmission
import Voxply.Hub.Federation
import Voxply.Hub.LoginSignature
import Voxply.Hub.LoginStatements
import Voxply.Hub.SingleUse
import Voxply.Hub.OwnerBootstrap
import Voxply.Hub.BanFinality
import Voxply.Hub.RotationDecision
import Voxply.Hub.RotationFinality
import Voxply.Hub.RecoveryContacts
import Voxply.Hub.IdentityStore
import Voxply.Hub.Pairing
import Voxply.Hub.IdentityRequests
import Voxply.Hub.IdentityIntegrity
import Voxply.Hub.RollbackProtection
import Voxply.Hub.PairingMachine
import Voxply.Hub.PairingAnswers
import Voxply.Hub.PairingExpiry
import Voxply.Hub.Channels
import Voxply.Hub.ChannelForest
import Voxply.Hub.Profile
import Voxply.Hub.DmWorker
import Voxply.Hub.DmSending
import Voxply.Hub.DmStatements
import Voxply.Hub.DmRequests
import Voxply.Hub.DmIdempotence
import Voxply.Hub.DmEnvelopes
import Voxply.Hub.DmPairs
import Voxply.Hub.DmOutbox
import Voxply.Hub.DmProvenance
import Voxply.Hub.Approval
import Voxply.Hub.AuditLog
import Voxply.Hub.AuditSequence
import Voxply.Hub.Replay
import Voxply.Hub.Voice
import Voxply.Hub.Resume
import Voxply.Hub.ChannelBans
import Voxply.Hub.BotScope
import Voxply.Hub.BotDispatch
import Voxply.Hub.Messages
import Voxply.Hub.Posts
import Voxply.Hub.Silencing
import Voxply.Hub.Ephemeral
import Voxply.Hub.Presence
import Voxply.Hub.ForumIndex
import Voxply.Math.Commit
import Voxply.Math.Ledger
import Voxply.Math.Progress
import Voxply.Hub.ReplyCounter
import Voxply.Hub.MessageIndex
import Voxply.Hub.GameSessions
import Voxply.Hub.LoginWrites
import Voxply.Hub.Invites
import Voxply.Hub.BotChallenges
import Voxply.Hub.Lobby
import Voxply.Hub.Survey
import Voxply.Farm.Token
import Voxply.Farm.Db
import Voxply.Farm.TokenAgreement
import Voxply.Farm.Auth
import Voxply.Farm.SessionRevocation
import Voxply.Farm.Challenges
import Voxply.Farm.Hubs
import Voxply.Farm.HubRuns
import Voxply.Farm.HubIsolation
import Voxply.Farm.HubQuotas
import Voxply.Farm.Admin
import Voxply.Farm.QuotaReport
import Voxply.Farm.PublicInfo
import Voxply.Hub.ForumPaging
import Voxply.Hub.History
import Voxply.Hub.DepthRule
import Voxply.Hub.Friends
import Voxply.Hub.FederatedChannels
import Voxply.Hub.AllianceMirror
import Voxply.Hub.Badges
import Voxply.Hub.Portability
import Voxply.Hub.BotLifecycle
import Voxply.Farm.Accounting
import Voxply.Hub.ChannelUpdates
import Voxply.Hub.RoleEdits
import Voxply.Hub.ChannelRemoval
import Voxply.Hub.ConversationCreation
import Voxply.Hub.SurveySubmission
import Voxply.Hub.SurveyReplacement
import Voxply.Hub.Timeouts
import Voxply.Hub.RateLimit
import Voxply.Hub.BadgeExpiry
import Voxply.Hub.SurveyEditor
import Voxply.Hub.IsoTimestamps
import Voxply.Math.FormEncoding
import Voxply.Seed.QueryText
import Voxply.Seed.Directory
import Voxply.Seed.Registration
import Voxply.Identity.PowSearch
import Voxply.Identity.LeadingZeros
import Voxply.Identity.Ecies
import Voxply.Hub.AuditPaging
import Voxply.Hub.BotRemoval
import Voxply.Hub.CommandReplacement
import Voxply.Hub.SlashNames
import Voxply.Hub.CertWorker
import Voxply.Hub.DirectorySign
import Voxply.Hub.AllianceListing
import Voxply.Hub.AllianceRouting
import Voxply.Math.Interference
import Voxply.Farm.Games
import Voxply.Hub.GamePlay
import Voxply.Hub.GameLife
