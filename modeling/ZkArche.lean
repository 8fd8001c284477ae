import ZkArche.Lib.SigmaAlgebra
import ZkArche.Lib.OrProver
import ZkArche.Lib.Bytes
import ZkArche.Wire.Errors
import ZkArche.Wire.Header
import ZkArche.Wire.PayloadsC
import ZkArche.Wire.CodecC
import ZkArche.Crypto.Suite
import ZkArche.Crypto.Transcript
import ZkArche.Crypto.TranscriptParity
import ZkArche.Lib.Output
import ZkArche.Crypto.TranscriptV3
import ZkArche.Crypto.KeyScheduleV3
import ZkArche.Crypto.ProofsRust
import ZkArche.Crypto.KeySchedule
import ZkArche.Crypto.ProofsC
import ZkArche.Crypto.VerifyC
import ZkArche.Crypto.Parity
import ZkArche.Proto.ClientC
import ZkArche.Lib.Machine
import ZkArche.Lib.Dialogue
import ZkArche.Lib.Disk
import ZkArche.Lib.Drivers
import ZkArche.Lib.Sections
import ZkArche.Crypto.SmallSuite
import ZkArche.Proto.ClientSpecC
import ZkArche.Proto.ClientAtomicity
import ZkArche.Proto.ClientCompletion
import ZkArche.Lib.Fifo
import ZkArche.Store.Replay
import ZkArche.Store.ReplayParity
import ZkArche.Proto.ServerC
import ZkArche.Store.SessionTable
import ZkArche.Lib.Keyed
import ZkArche.Store.Identity
import ZkArche.Store.RegistryC
import ZkArche.Server.DispatchC
import ZkArche.Proto.ServerSpecC
import ZkArche.Server.TokensC
import ZkArche.Server.LedgerC
import ZkArche.Server.OwnershipC
import ZkArche.Server.AtMostOnceC
import ZkArche.Wire.PayloadsRust
import ZkArche.Proto.ServerRust
import ZkArche.Proto.ServerSpecRust
import ZkArche.Server.ReplaySafety
import ZkArche.Lib.Correspondence
import ZkArche.Server.DispatchRust
import ZkArche.Server.ServedRust
import ZkArche.Server.CompletionRust
import ZkArche.Server.EnrollmentRust
import ZkArche.Server.SequentialC
import ZkArche.Server.EnrollmentC
import ZkArche.Lib.Routine
import ZkArche.Proto.ClientRust
import ZkArche.Proto.ClientSpecRust
import ZkArche.Proto.ClientEvidenceRust
import ZkArche.Server.EnrollmentAtomicity
import ZkArche.Server.PendingC
import ZkArche.Server.FinalPackets
import ZkArche.Server.DuplicateSetupC
import ZkArche.Server.CacheRust
import ZkArche.Server.BoundsRust
import ZkArche.Server.VersionGate
import ZkArche.Lib.FirstMatch
import ZkArche.Server.AttributionRust
import ZkArche.Crypto.RoleParity
import ZkArche.Crypto.RoleSoundness
import ZkArche.Crypto.SchnorrKinds
import ZkArche.Crypto.RolePrivacy
import ZkArche.Crypto.RoleStreams
import ZkArche.Proto.ValidationC
import ZkArche.Proto.PayloadParity
import ZkArche.Lib.Faults
import ZkArche.Wire.Auth1Faults
import ZkArche.Server.CandidatesC
import ZkArche.Server.Auth1SpecC
import ZkArche.Server.Auth1Parity
import ZkArche.Proto.ClientStoreRust
import ZkArche.Proto.HonestRun
import ZkArche.Server.Interop
import ZkArche.Lib.Delimited
import ZkArche.Lib.SameOutcome
import ZkArche.Wire.Hello
import ZkArche.Wire.HelloCodec
import ZkArche.Wire.Negotiation
import ZkArche.Lib.CheckedRead
import ZkArche.Lib.Codec
import ZkArche.Lib.StreamHash
import ZkArche.AuthV3.Context
import ZkArche.AuthV3.ContextCodec
import ZkArche.AuthV3.ContextParse
import ZkArche.AuthV3.IotCoreAuthz
import ZkArche.AuthV3.IotCoreCodec
import ZkArche.Lib.UniqueMatch
import ZkArche.AuthV3.Attribution
import ZkArche.Lineage.Reconciliation
import ZkArche.Lineage.Authorization
import ZkArche.Lib.Refusal
import ZkArche.Lineage.VerifiedCommit
import ZkArche.Lineage.CrashSafety
import ZkArche.Lib.Chunks
import ZkArche.Store.CredentialsRust
import ZkArche.Store.DiskC
import ZkArche.Store.DiskRust
import ZkArche.Store.FilesC
import ZkArche.Server.RestartRust
import ZkArche.Transport.TcpFraming
import ZkArche.Transport.Lines
import ZkArche.Lib.BlockStream
import ZkArche.Crypto.HkdfC
import ZkArche.Lib.Slices
import ZkArche.Panics.Decoders
import ZkArche.Panics.Crypto
import ZkArche.Panics.RoleProof
import ZkArche.Panics.Stores
import ZkArche.Panics.Server
import ZkArche.Panics.Messages
import ZkArche.Lib.Mutex
import ZkArche.Panics.ServerRuns
import ZkArche.Panics.Client
import ZkArche.Panics.Requests
import ZkArche.Panics.Exchange
import ZkArche.Panics.ClientRuns
import ZkArche.Server.SessionsRust
import ZkArche.Proto.ClientExchangeRust
import ZkArche.System.Device
import ZkArche.System.DriversC
import ZkArche.System.DriversRust
import ZkArche.System.RoutingRust
import ZkArche.System.Network
import ZkArche.System.AuthDelivery
import ZkArche.System.SetupDelivery
import ZkArche.Server.Agreement
import ZkArche.System.AuthAgreement
import ZkArche.Proto.ProgramC
import ZkArche.Proto.ProgramSpecC
import ZkArche.System.DeviceC
